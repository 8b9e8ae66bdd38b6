import Mathlib.Data.List.Induction
import Overhead.Proofs.Rainbow.Effect
import Overhead.Proofs.Random.Words

/-!
# From tint to tint

In the random mode the color goes from one tint of the source to the next, and from there to the one
after it, whatever other modes come in between and however long the effect is off. When it goes on
is told by time alone; which tints it has come to is told by how often it went on.
-/

namespace Overhead
namespace Rainbow

/-! ## Runs of frames -/

/-- What one frame of the effect is given. -/
structure Beat where
  settings : RainbowSettings
  seconds : Float32

namespace Beat

def isOn (beat : Beat) : Bool :=
  beat.settings.isEnabled

/-- Whether the effect is on, and in the random mode. -/
def isRandom (beat : Beat) : Bool :=
  beat.isOn && beat.settings.mode == .random

end Beat

section

variable {ρ : Type} [RandomSource ρ]

def walk (state : Rainbow × ρ) (beat : Beat) : Rainbow × ρ :=
  state.1.advance beat.settings beat.seconds state.2

def shown (state : Rainbow × ρ) (beat : Beat) : Option Color :=
  (state.1.frame beat.settings beat.seconds state.2).1

/-- Frames of an effect that was never on before. -/
def run (source : ρ) (beats : List Beat) : Rainbow × ρ :=
  beats.foldl walk ({}, source)

def colorsFrom (state : Rainbow × ρ) : List Beat → List (Option Color)
  | [] => []
  | beat :: beats => shown state beat :: colorsFrom (walk state beat) beats

def colors (source : ρ) (beats : List Beat) : List (Option Color) :=
  colorsFrom ({}, source) beats

theorem run_concat (source : ρ) (beats : List Beat) (beat : Beat) :
    run source (beats ++ [beat]) = walk (run source beats) beat := by
  simp [run]

end

/-! ## The times -/

/-- The time of the effect, and the times at which it went on to the next tint, the last one
first. -/
structure Course where
  time : Float32 := 0
  swaps : List Float32 := []

namespace Course

def pass (course : Course) (beat : Beat) : Course :=
  { course with time := course.time + beat.seconds * beat.settings.speed.toFloat32 / 100 }

/-- It never went on, or not for more than a unit of time. -/
def isSwapDue (course : Course) : Bool :=
  course.swaps.head?.all fun last => 1 < course.time - last

def swap (course : Course) : Course :=
  { course with swaps := course.time :: course.swaps }

def after (course : Course) (beat : Beat) : Course :=
  if beat.isOn then
    let course := course.pass beat
    if beat.isRandom && course.isSwapDue then course.swap else course
  else course

def ofBeats (beats : List Beat) : Course :=
  beats.foldl after {}

theorem isSwapDue_iff (course : Course) :
    course.isSwapDue = true ↔
      course.swaps.length = 0 ∨
        ∃ last, course.swaps.head? = some last ∧ 1 < course.time - last := by
  unfold isSwapDue
  cases course.swaps with
  | nil => simp
  | cons last swaps => simp

theorem time_after (course : Course) (beat : Beat) (h : beat.isOn = true) :
    (course.after beat).time = (course.pass beat).time := by
  rw [after, if_pos h]
  dsimp only
  split <;> rfl

theorem swaps_after (course : Course) (beat : Beat) :
    (course.after beat).swaps =
      if beat.isRandom = true ∧ (course.pass beat).isSwapDue = true then
        (course.after beat).time :: course.swaps
      else course.swaps := by
  cases hon : beat.isOn with
  | false =>
      have hrandom : beat.isRandom = false := by simp [Beat.isRandom, hon]
      simp [after, hon, hrandom]
  | true =>
      rw [time_after course beat hon, after, if_pos hon]
      simp only [Bool.and_eq_true]
      split <;> rfl

theorem ofBeats_concat (beats : List Beat) (beat : Beat) :
    ofBeats (beats ++ [beat]) = (ofBeats beats).after beat := by
  simp [ofBeats]

end Course

section

variable {ρ : Type} [RandomSource ρ]

/-! ## What a frame does -/

section

variable {state : Rainbow × ρ} {beat : Beat}

theorem walk_of_off (h : beat.isOn = false) :
    walk state beat = ({ state.1 with color := none }, state.2) := by
  rw [walk, advance, frame_of_disabled state.1 beat.seconds state.2 h]

theorem exists_walk (state : Rainbow × ρ) (h : beat.isOn = true) :
    let prepared := (state.1.pass beat.seconds beat.settings.speed).prepare beat.settings.mode
      state.2
    ∃ color, walk state beat = ({ prepared.1 with color := some color }, prepared.2) := by
  obtain ⟨color, -, hframe⟩ := frame_of_enabled state.1 beat.seconds state.2 h
  exact ⟨color, by rw [walk, advance, hframe]⟩

/-- Outside the random mode only time passes. -/
theorem exists_walk_of_not_isRandom (state : Rainbow × ρ) (hon : beat.isOn = true)
    (h : beat.isRandom = false) :
    ∃ color, walk state beat =
      ({ state.1.pass beat.seconds beat.settings.speed with color := some color }, state.2) := by
  obtain ⟨color, hwalk⟩ := exists_walk state hon
  have hmode : beat.settings.mode ≠ .random := by
    simpa [Beat.isRandom, hon] using h
  rw [prepare, if_neg hmode] at hwalk
  exact ⟨color, hwalk⟩

theorem exists_walk_of_isRandom (state : Rainbow × ρ) (h : beat.isRandom = true) :
    let swapped := (state.1.pass beat.seconds beat.settings.speed).swapTarget state.2
    ∃ color, walk state beat = ({ swapped.1 with color := some color }, swapped.2) := by
  obtain ⟨hon, hmode⟩ := Bool.and_eq_true_iff.mp h
  obtain ⟨color, hwalk⟩ := exists_walk state hon
  rw [prepare, if_pos (beq_iff_eq.mp hmode)] at hwalk
  exact ⟨color, hwalk⟩

end

section

variable {rainbow : Rainbow} {source rest : ρ} {target : Tint}

theorem swapTarget_of_due (htarget : rainbow.targetOrRandom source = (target, rest))
    (hdue : rainbow.isSwapDue = true) :
    rainbow.swapTarget source =
      ({ rainbow with
          origin := target
          target := some (Tint.random rest).1
          lastSwap := some rainbow.time },
        (Tint.random rest).2) := by
  simp only [swapTarget, htarget, if_pos hdue]

theorem swapTarget_of_not_due (htarget : rainbow.targetOrRandom source = (target, rest))
    (hdue : rainbow.isSwapDue = false) :
    rainbow.swapTarget source = ({ rainbow with target := some target }, rest) := by
  simp [swapTarget, htarget, hdue]

end

/-! ## The invariant -/

/-- The tint it comes from when it has gone on so many times. -/
def originAt (source : ρ) : Nat → Tint
  | 0 => {}
  | k + 1 => Tint.nth source k

/-- The tint it goes to when it has gone on so many times. -/
def targetAt (source : ρ) : Nat → Option Tint
  | 0 => none
  | k + 1 => some (Tint.nth source (k + 1))

theorem originAt_succ {source : ρ} {n : Nat} {tint : Tint} (h : targetAt source n = some tint) :
    originAt source (n + 1) = tint := by
  cases n with
  | zero => cases h
  | succ k => exact Option.some.inj h

/-- How many words are read for that: two for each tint, and the first time takes two tints. -/
def wordsFor : Nat → Nat
  | 0 => 0
  | k + 1 => 2 * (k + 2)

/-- A state is where its course has led to. -/
structure Follows (source : ρ) (course : Course) (state : Rainbow × ρ) : Prop where
  time : state.1.time = course.time
  lastSwap : state.1.lastSwap = course.swaps.head?
  origin : state.1.origin = originAt source course.swaps.length
  target : state.1.target = targetAt source course.swaps.length
  rest : state.2 = Random.skip source (wordsFor course.swaps.length)

section

variable {source : ρ} {course : Course} {state : Rainbow × ρ}

theorem follows_start (source : ρ) : Follows source {} ({}, source) :=
  ⟨rfl, rfl, rfl, rfl, rfl⟩

/-- The remembered color is no part of it. -/
theorem Follows.withColor (h : Follows source course state) (color : Option Color) :
    Follows source course ({ state.1 with color := color }, state.2) :=
  ⟨h.time, h.lastSwap, h.origin, h.target, h.rest⟩

theorem Follows.pass (h : Follows source course state) (beat : Beat) :
    Follows source (course.pass beat)
      (state.1.pass beat.seconds beat.settings.speed, state.2) := by
  refine ⟨?_, h.lastSwap, h.origin, h.target, h.rest⟩
  simp only [Rainbow.pass, Course.pass, h.time]

theorem Follows.isSwapDue_eq (h : Follows source course state) :
    state.1.isSwapDue = course.isSwapDue := by
  simp only [isSwapDue, Course.isSwapDue, h.time, h.lastSwap]

/-- When it may go on, the target is the next tint of the source. -/
theorem Follows.targetOrRandom (h : Follows source course state) :
    state.1.targetOrRandom state.2 =
      (Tint.nth source course.swaps.length,
        Random.skip source (2 * (course.swaps.length + 1))) := by
  have htarget := h.target
  have hrest := h.rest
  cases hswaps : course.swaps.length with
  | zero =>
      rw [hswaps] at htarget hrest
      simp only [Rainbow.targetOrRandom, htarget, hrest]
      exact Tint.random_skip source 0
  | succ k =>
      rw [hswaps] at htarget hrest
      simp only [Rainbow.targetOrRandom, htarget, hrest]
      rfl

theorem Follows.swapTarget (h : Follows source course state) :
    Follows source (if course.isSwapDue then course.swap else course)
      (state.1.swapTarget state.2) := by
  have hdue := h.isSwapDue_eq
  cases hnow : course.isSwapDue with
  | true =>
      have hnext := Tint.random_skip source (course.swaps.length + 1)
      rw [swapTarget_of_due h.targetOrRandom (hdue.trans hnow), if_pos rfl]
      exact ⟨h.time, congrArg some h.time, rfl, congrArg (some ∘ Prod.fst) hnext,
        congrArg Prod.snd hnext⟩
  | false =>
      -- Without a swap before this one it would be due, so there is a target already.
      cases hswaps : course.swaps with
      | nil => simp [Course.isSwapDue, hswaps] at hnow
      | cons last swaps =>
          have htarget := h.target
          have hrest := h.rest
          rw [swapTarget_of_not_due h.targetOrRandom (hdue.trans hnow), if_neg (by simp)]
          simp only [hswaps, List.length_cons] at htarget hrest ⊢
          exact ⟨h.time, h.lastSwap, h.origin, by rw [hswaps]; rfl, by rw [hswaps]; rfl⟩

theorem Follows.walk (h : Follows source course state) (beat : Beat) :
    Follows source (course.after beat) (walk state beat) := by
  unfold Course.after
  cases hon : beat.isOn with
  | false =>
      rw [walk_of_off hon, if_neg (by simp)]
      exact h.withColor none
  | true =>
      rw [if_pos rfl]
      have hpassed := h.pass beat
      cases hrandom : beat.isRandom with
      | false =>
          obtain ⟨color, hwalk⟩ := exists_walk_of_not_isRandom state hon hrandom
          rw [hwalk]
          exact hpassed.withColor (some color)
      | true =>
          obtain ⟨color, hwalk⟩ := exists_walk_of_isRandom state hrandom
          rw [hwalk]
          exact hpassed.swapTarget.withColor (some color)

end

theorem follows_run (source : ρ) (beats : List Beat) :
    Follows source (Course.ofBeats beats) (run source beats) := by
  induction beats using List.reverseRecOn with
  | nil => exact follows_start source
  | append_singleton beats beat ih =>
      rw [Course.ofBeats_concat, run_concat]
      exact ih.walk beat

/-! ## Counted words -/

/-- A state whose source counts its words, without the count. -/
def forget (state : Rainbow × Random.Counted ρ) : Rainbow × ρ :=
  (state.1, state.2.source)

theorem forget_swapTarget (rainbow : Rainbow) (counted : Random.Counted ρ) :
    forget (rainbow.swapTarget counted) = rainbow.swapTarget counted.source := by
  unfold swapTarget targetOrRandom
  cases rainbow.target with
  | none =>
      dsimp only
      split <;> rfl
  | some tint =>
      dsimp only
      split <;> rfl

theorem forget_prepare (rainbow : Rainbow) (mode : RainbowMode) (counted : Random.Counted ρ) :
    forget (rainbow.prepare mode counted) = rainbow.prepare mode counted.source := by
  unfold prepare
  split
  · exact forget_swapTarget rainbow counted
  · rfl

theorem forget_walk (state : Rainbow × Random.Counted ρ) (beat : Beat) :
    forget (walk state beat) = walk (forget state) beat := by
  have hprepared := forget_prepare (state.1.pass beat.seconds beat.settings.speed)
    beat.settings.mode state.2
  simp only [walk, advance, frame, forget, ← hprepared]
  split <;> rfl

theorem forget_run (source : ρ) (beats : List Beat) :
    forget (run ({ source := source } : Random.Counted ρ) beats) = run source beats := by
  induction beats using List.reverseRecOn with
  | nil => rfl
  | append_singleton beats beat ih => rw [run_concat, run_concat, forget_walk, ih]

/-- How many words are read in a run. -/
def wordsRead (source : ρ) (beats : List Beat) : Nat :=
  (run ({ source := source } : Random.Counted ρ) beats).2.count

/-- Counting the words changes nothing. -/
theorem run_counted (source : ρ) (beats : List Beat) :
    run ({ source := source } : Random.Counted ρ) beats =
      ((run source beats).1,
        { source := (run source beats).2, count := wordsRead source beats }) := by
  rw [← forget_run source beats]
  rfl

theorem wordsRead_eq (source : ρ) (beats : List Beat) :
    wordsRead source beats = wordsFor (Course.ofBeats beats).swaps.length := by
  have hrest := (follows_run ({ source := source } : Random.Counted ρ) beats).rest
  rw [wordsRead, hrest, Random.Counted.skip_eq]
  exact Nat.zero_add _

theorem rest_run (source : ρ) (beats : List Beat) :
    (run source beats).2 = Random.skip source (wordsRead source beats) := by
  rw [wordsRead_eq]
  exact (follows_run source beats).rest

/-! ## Frames without the effect -/

/-- The state without the color that it remembers. -/
def uncolored (rainbow : Rainbow) : Rainbow :=
  { rainbow with color := none }

theorem shade?_uncolored (rainbow : Rainbow) (mode : RainbowMode) :
    rainbow.uncolored.shade? mode = rainbow.shade? mode := by
  cases mode <;> rfl

theorem swapTarget_uncolored (rainbow : Rainbow) (source : ρ) :
    rainbow.uncolored.swapTarget source =
      ((rainbow.swapTarget source).1.uncolored, (rainbow.swapTarget source).2) := by
  have htarget : rainbow.uncolored.targetOrRandom source = rainbow.targetOrRandom source := rfl
  have hdue : rainbow.uncolored.isSwapDue = rainbow.isSwapDue := rfl
  simp only [swapTarget, htarget, hdue]
  split <;> rfl

theorem prepare_uncolored (rainbow : Rainbow) (mode : RainbowMode) (source : ρ) :
    rainbow.uncolored.prepare mode source =
      ((rainbow.prepare mode source).1.uncolored, (rainbow.prepare mode source).2) := by
  unfold prepare
  split
  · exact swapTarget_uncolored rainbow source
  · rfl

/-- While the effect is on, a frame does not see which color was remembered. -/
theorem frame_uncolored (rainbow : Rainbow) {settings : RainbowSettings}
    (h : settings.isEnabled = true) (seconds : Float32) (source : ρ) :
    rainbow.uncolored.frame settings seconds source = rainbow.frame settings seconds source := by
  obtain ⟨color, hcolor, hframe⟩ := frame_of_enabled rainbow seconds source h
  obtain ⟨color', hcolor', hframe'⟩ := frame_of_enabled rainbow.uncolored seconds source h
  have hprepared := prepare_uncolored (rainbow.pass seconds settings.speed) settings.mode source
  have hpassed : rainbow.uncolored.pass seconds settings.speed =
      (rainbow.pass seconds settings.speed).uncolored := rfl
  rw [hpassed, hprepared] at hcolor' hframe'
  obtain rfl : color = color' :=
    Option.some.inj (hcolor.symm.trans ((shade?_uncolored _ _).symm.trans hcolor'))
  rw [hframe, hframe']
  rfl

/-- Two states that differ at most in the color that they remember. -/
def SameWay (state state' : Rainbow × ρ) : Prop :=
  state.1.uncolored = state'.1.uncolored ∧ state.2 = state'.2

theorem SameWay.frame_eq {state state' : Rainbow × ρ} (h : SameWay state state') {beat : Beat}
    (hon : beat.isOn = true) :
    state.1.frame beat.settings beat.seconds state.2 =
      state'.1.frame beat.settings beat.seconds state'.2 := by
  rw [← frame_uncolored state.1 hon, ← frame_uncolored state'.1 hon, h.1, h.2]

/-- Frames without the effect can be left out: the others have the same colors, and lead to the same
state. -/
theorem SameWay.filter {state state' : Rainbow × ρ} (h : SameWay state state')
    (beats : List Beat) :
    ((beats.zip (colorsFrom state beats)).filter fun shown => shown.1.isOn).map Prod.snd =
        colorsFrom state' (beats.filter Beat.isOn) ∧
      SameWay (beats.foldl walk state) ((beats.filter Beat.isOn).foldl walk state') := by
  induction beats generalizing state state' with
  | nil => exact ⟨rfl, h⟩
  | cons beat beats ih =>
      cases hon : beat.isOn with
      | false =>
          have hwalk : SameWay (walk state beat) state' := by
            rw [walk_of_off hon]
            exact h
          obtain ⟨hcolors, hstate⟩ := ih hwalk
          simp only [colorsFrom, List.zip_cons_cons, List.filter_cons, hon, List.foldl_cons,
            Bool.false_eq_true, if_false]
          exact ⟨hcolors, hstate⟩
      | true =>
          have hframe := h.frame_eq hon
          have hwalk : walk state beat = walk state' beat := congrArg Prod.snd hframe
          obtain ⟨hcolors, hstate⟩ := ih (⟨rfl, rfl⟩ : SameWay (walk state beat) (walk state beat))
          simp only [colorsFrom, List.zip_cons_cons, List.filter_cons, hon, List.foldl_cons,
            if_true, List.map_cons, hcolors, ← hwalk]
          exact ⟨congrArg (· :: _) (congrArg Prod.fst hframe), hstate⟩

/-! ## Runs in which the effect goes on -/

/-- How often the effect has gone on to the next tint. -/
def swapCount (beats : List Beat) : Nat :=
  (Course.ofBeats beats).swaps.length

/-- It goes on in the next frame. -/
def GoesOn (source : ρ) (beats : List Beat) (beat : Beat) : Prop :=
  beat.isRandom = true ∧
    (swapCount beats = 0 ∨
      ∃ last, (run source beats).1.lastSwap = some last ∧
        1 < (run source (beats ++ [beat])).1.time - last)

theorem goesOn_iff (source : ρ) (beats : List Beat) (beat : Beat) :
    GoesOn source beats beat ↔
      beat.isRandom = true ∧ ((Course.ofBeats beats).pass beat).isSwapDue = true := by
  have hlast := (follows_run source beats).lastSwap
  have htime := (follows_run source (beats ++ [beat])).time
  rw [Course.ofBeats_concat] at htime
  unfold GoesOn
  refine and_congr_right fun hrandom => ?_
  rw [Course.time_after _ beat (Bool.and_eq_true_iff.mp hrandom).1] at htime
  rw [Course.isSwapDue_iff, hlast, htime]
  rfl

theorem swaps_of_goesOn {source : ρ} {beats : List Beat} {beat : Beat}
    (h : GoesOn source beats beat) :
    (Course.ofBeats (beats ++ [beat])).swaps =
      (run source (beats ++ [beat])).1.time :: (Course.ofBeats beats).swaps := by
  rw [(follows_run source (beats ++ [beat])).time, Course.ofBeats_concat, Course.swaps_after,
    if_pos ((goesOn_iff source beats beat).mp h)]

theorem swaps_of_not_goesOn {source : ρ} {beats : List Beat} {beat : Beat}
    (h : ¬ GoesOn source beats beat) :
    (Course.ofBeats (beats ++ [beat])).swaps = (Course.ofBeats beats).swaps := by
  rw [Course.ofBeats_concat, Course.swaps_after, if_neg (mt (goesOn_iff source beats beat).mpr h)]

/-- In any run the effect goes on in the frames of the random mode that are the first one or more
than a unit of time after the last such frame. When it has gone on it comes from one tint of the
source and goes to the one after it, and all words that were read made up the tints until then. No
other frame reads words or changes the way, and frames without the effect leave no trace at all. -/
theorem colors_walk_from_tint_to_tint (source : ρ) (beats : List Beat) :
    let state := run source beats
    let words := wordsRead source beats
    let kept := beats.filter Beat.isOn
    (swapCount beats = 0 → state.1.lastSwap = none ∧ state.1.target = none ∧ words = 0) ∧
    (∀ k, swapCount beats = k + 1 →
      state.1.origin = Tint.nth source k ∧ state.1.target = some (Tint.nth source (k + 1)) ∧
        words = 2 * (k + 2)) ∧
    state.2 = Random.skip source words ∧
    run ({ source := source } : Random.Counted ρ) beats =
      (state.1, { source := state.2, count := words }) ∧
    (∀ beat : Beat,
      let next := run source (beats ++ [beat])
      (GoesOn source beats beat →
        swapCount (beats ++ [beat]) = swapCount beats + 1 ∧
        next.1.lastSwap = some next.1.time ∧
        ∀ tint, state.1.target = some tint → next.1.origin = tint) ∧
      (¬ GoesOn source beats beat →
        swapCount (beats ++ [beat]) = swapCount beats ∧
        next.1.lastSwap = state.1.lastSwap ∧
        next.1.origin = state.1.origin ∧ next.1.target = state.1.target ∧
        wordsRead source (beats ++ [beat]) = words)) ∧
    ((beats.zip (colors source beats)).filter fun shown => shown.1.isOn).map Prod.snd =
      colors source kept ∧
    { (run source kept).1 with color := none } = { state.1 with color := none } ∧
    wordsRead source kept = words := by
  intro state words kept
  have hstate := follows_run source beats
  have hwords : words = wordsFor (swapCount beats) := wordsRead_eq source beats
  have hsame : ∀ {σ : Type} [RandomSource σ] (source : σ),
      SameWay (({}, source) : Rainbow × σ) ({}, source) := fun _ => ⟨rfl, rfl⟩
  obtain ⟨hcolors, hway⟩ := (hsame source).filter beats
  obtain ⟨-, hcounted⟩ := (hsame ({ source := source } : Random.Counted ρ)).filter beats
  refine ⟨fun hnever => ?_, fun k hk => ?_, rest_run source beats, run_counted source beats,
    fun beat => ⟨fun h => ?_, fun h => ?_⟩, hcolors, hway.1.symm,
    (congrArg Random.Counted.count hcounted.2).symm⟩
  · have hlast := hstate.lastSwap
    have htarget := hstate.target
    have hswaps : (Course.ofBeats beats).swaps.length = 0 := hnever
    rw [List.length_eq_zero_iff.mp hswaps] at hlast htarget
    exact ⟨hlast, htarget, by rw [hwords, hnever]; rfl⟩
  · have horigin := hstate.origin
    have htarget := hstate.target
    have hswaps : (Course.ofBeats beats).swaps.length = k + 1 := hk
    rw [hswaps] at horigin htarget
    exact ⟨horigin, htarget, by rw [hwords, hk]; rfl⟩
  · have hnext := follows_run source (beats ++ [beat])
    have hswaps := swaps_of_goesOn h
    have hcount := congrArg List.length hswaps
    refine ⟨hcount, ?_, fun tint htint => ?_⟩
    · rw [hnext.lastSwap, hswaps]
      rfl
    · rw [hstate.target] at htint
      rw [hnext.origin, hcount]
      exact originAt_succ htint
  · have hnext := follows_run source (beats ++ [beat])
    have hswaps := swaps_of_not_goesOn h
    refine ⟨congrArg List.length hswaps, ?_, ?_, ?_, ?_⟩
    · rw [hnext.lastSwap, hswaps, hstate.lastSwap]
    · rw [hnext.origin, hswaps, hstate.origin]
    · rw [hnext.target, hswaps, hstate.target]
    · rw [hwords, wordsRead_eq, hswaps]
      rfl

end
end Rainbow
end Overhead
