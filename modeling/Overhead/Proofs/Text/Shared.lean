import Mathlib.Data.List.FinRange
import Mathlib.Data.List.Induction
import Mathlib.Logic.Function.Basic
import Overhead.Proofs.Single.Order
import Overhead.Proofs.Text.Cached

/-!
# Cached texts that share a canvas

Any number of cached texts live on one canvas, and may be updated, drawn and reset in any order
while shaping fails for a time and the screen moves. What an update of one of them does is told by
the steps before it alone: by what that text was last asked to show, and whether it could be shaped
then. The other texts have no part in it.
-/

namespace Overhead

open Recording

/-! ## What an update asks for -/

namespace CachedText

variable (cached : CachedText) (text : String) (fontSize : Float32) (inGame : Bool)
  (canvas : Recording)

theorem text_update : (cached.update text fontSize inGame canvas).2.1.text = text := by
  unfold update
  by_cases hneeds : cached.needsUpdate text fontSize
  · cases inGame <;> simp [hneeds, reshape, reshapeInGame]
  · obtain ⟨-, hsame, -⟩ := kept_of_not_needsUpdate hneeds
    simpa [hneeds] using hsame

/-- Only NaN is not equal to itself when it comes back. -/
theorem fontSize_update :
    (cached.update text fontSize inGame canvas).2.1.fontSize == fontSize ∨
      fontSize = Float32.nan ∧
        (cached.update text fontSize inGame canvas).2.1.fontSize = Float32.nan := by
  unfold update
  by_cases hneeds : cached.needsUpdate text fontSize
  · cases hself : fontSize == fontSize with
    | true =>
        left
        cases inGame <;> simpa [hneeds, reshape, reshapeInGame] using hself
    | false =>
        have hnan := Float32.beq_self_eq_false_iff.mp hself
        right
        cases inGame <;> simpa [hneeds, reshape, reshapeInGame] using hnan
  · obtain ⟨-, -, hsame⟩ := kept_of_not_needsUpdate hneeds
    simp [hneeds, hsame]

end CachedText

/-! ## Texts and steps -/

/-- Cached texts with a canvas in common. -/
structure SharedTexts (n : Nat) where
  texts : Fin n → CachedText
  canvas : Recording

namespace SharedTexts

variable {n : Nat}

/-- What may happen to the texts and their canvas. -/
inductive Step (n : Nat) where
  | update (slot : Fin n) (text : String) (fontSize : Float32) (inGame : Bool)
  | draw (slot : Fin n) (center size : Point) (color : Color)
  | reset (slot : Fin n)
  | failShaping (fails : Bool)
  | setScreen (screen : Area Float32)

namespace Step

/-- The text that a step is about. -/
def slot? : Step n → Option (Fin n)
  | .update slot _ _ _ | .draw slot _ _ _ | .reset slot => some slot
  | .failShaping _ | .setScreen _ => none

/-- The step may change the text. -/
def Changes (slot : Fin n) : Step n → Prop
  | .update other _ _ _ | .reset other => other = slot
  | .draw _ _ _ _ | .failShaping _ | .setScreen _ => False

end Step

def start (canvas : Recording) : SharedTexts n :=
  { texts := fun _ => {}, canvas := canvas }

def step (shared : SharedTexts n) : Step n → SharedTexts n
  | .update slot text fontSize inGame =>
      let updated := (shared.texts slot).update text fontSize inGame shared.canvas
      { texts := Function.update shared.texts slot updated.2.1, canvas := updated.2.2 }
  | .draw slot center size color =>
      { shared with canvas := (shared.texts slot).draw center size color shared.canvas }
  | .reset slot =>
      let cleared := (shared.texts slot).reset shared.canvas
      { texts := Function.update shared.texts slot cleared.1, canvas := cleared.2 }
  | .failShaping fails => { shared with canvas := { shared.canvas with failShaping := fails } }
  | .setScreen screen => { shared with canvas := { shared.canvas with screen := screen } }

/-- What a step answers: for an update, the size of the text if it has one. -/
def result (shared : SharedTexts n) : Step n → Option Point
  | .update slot text fontSize inGame =>
      ((shared.texts slot).update text fontSize inGame shared.canvas).1
  | .draw _ _ _ _ | .reset _ | .failShaping _ | .setScreen _ => none

/-- How often a step shapes a text. -/
def shapings (shared : SharedTexts n) (step : Step n) : Nat :=
  (shared.step step).canvas.shapedOn.size - shared.canvas.shapedOn.size

def run (canvas : Recording) (steps : List (Step n)) : SharedTexts n :=
  steps.foldl step (start canvas)

/-- What the steps about one text answer, and how often each of them shapes. -/
def answersFrom (slot : Fin n) (shared : SharedTexts n) : List (Step n) → List (Option Point × Nat)
  | [] => []
  | step :: steps =>
      let later := answersFrom slot (shared.step step) steps
      if step.slot? = some slot then (shared.result step, shared.shapings step) :: later else later

def answers (slot : Fin n) (canvas : Recording) (steps : List (Step n)) :
    List (Option Point × Nat) :=
  answersFrom slot (start canvas) steps

theorem run_append (canvas : Recording) (steps more : List (Step n)) :
    run canvas (steps ++ more) = more.foldl step (run canvas steps) :=
  List.foldl_append

theorem run_concat (canvas : Recording) (steps : List (Step n)) (last : Step n) :
    run canvas (steps ++ [last]) = (run canvas steps).step last :=
  run_append canvas steps [last]

/-! ## Whose texts the canvas keeps -/

def all (texts : Fin n → CachedText) : List CachedText :=
  (List.finRange n).map texts

/-- The texts own the canvas, beside some others. -/
def Held (shared : SharedTexts n) : Prop :=
  ∃ rest, Owns (all shared.texts ++ rest) shared.canvas

def others (texts : Fin n → CachedText) (slot : Fin n) : List CachedText :=
  ((List.finRange n).erase slot).map texts

theorem all_perm (texts : Fin n → CachedText) (slot : Fin n) :
    (all texts).Perm (texts slot :: others texts slot) :=
  (List.perm_cons_erase (List.mem_finRange slot)).map texts

theorem all_update_perm (texts : Fin n → CachedText) (slot : Fin n) (cached : CachedText) :
    (all (Function.update texts slot cached)).Perm (cached :: others texts slot) := by
  have hothers : others (Function.update texts slot cached) slot = others texts slot := by
    refine List.map_congr_left fun other hother => Function.update_of_ne ?_ _ _
    exact ((List.nodup_finRange n).mem_erase_iff.mp hother).1
  have hperm := all_perm (Function.update texts slot cached) slot
  rwa [Function.update_self, hothers] at hperm

theorem held_start (canvas : Recording) : (start canvas : SharedTexts n).Held := by
  obtain ⟨rest, howns⟩ := exists_owns canvas
  refine ⟨rest, (Owns.append_iff ?_).mpr howns⟩
  refine List.filterMap_eq_nil_iff.mpr fun cached hcached => ?_
  obtain ⟨slot, -, rfl⟩ := List.mem_map.mp hcached
  rfl

/-- What a canvas keeps for a text is just what the text remembers. -/
theorem Held.find {shared : SharedTexts n} (h : shared.Held) (slot : Fin n) :
    shared.canvas.find (shared.texts slot).handle = (shared.texts slot).container? := by
  obtain ⟨rest, howns⟩ := h
  have hmem : shared.texts slot ∈ all shared.texts :=
    List.mem_map_of_mem (List.mem_finRange slot)
  exact howns.kept _ (List.mem_append_left _ hmem)

/-! ## Single steps -/

/-- From one state to the next, a text changed as it would alone, and the canvas was asked for just
that. -/
structure Told (slot : Fin n) (cached : CachedText) (added : Record)
    (shared next : SharedTexts n) : Prop where
  text : (next.texts slot).anonymous = cached
  other : ∀ other, other ≠ slot → next.texts other = shared.texts other
  record : next.canvas.record = shared.canvas.record ++ added
  setting : next.canvas.setting = shared.canvas.setting
  held : next.Held

theorem Told.size_shapedOn {slot : Fin n} {cached : CachedText} {added : Record}
    {shared next : SharedTexts n} (h : Told slot cached added shared next) :
    next.canvas.shapedOn.size = shared.canvas.shapedOn.size + added.shapedOn.length := by
  have hlist : next.canvas.shapedOn.toList = shared.canvas.shapedOn.toList ++ added.shapedOn :=
    congrArg Record.shapedOn h.record
  rw [← Array.length_toList, hlist, List.length_append, Array.length_toList]

theorem told_of_yields {shared : SharedTexts n} {slot : Fin n} {rest : List CachedText}
    {cached : CachedText} {added : Record} {canvas : Recording}
    (h : Yields added (cached :: (others shared.texts slot ++ rest)) shared.canvas canvas) :
    Told slot cached.anonymous added shared
      { texts := Function.update shared.texts slot cached, canvas := canvas } := by
  refine ⟨?_, fun other hne => Function.update_of_ne hne _ _, h.record, h.setting, rest, ?_⟩
  · show (Function.update shared.texts slot cached slot).anonymous = _
    rw [Function.update_self]
  · exact h.owns.perm ((all_update_perm shared.texts slot cached).append_right rest).symm

/-- An update is told by the text it is about, and by the setting. -/
theorem Held.update {shared : SharedTexts n} (h : shared.Held) (slot : Fin n) (text : String)
    (fontSize : Float32) (inGame : Bool) :
    let old := (shared.texts slot).anonymous
    let new := old.refreshed text fontSize shared.canvas.failShaping
    shared.result (.update slot text fontSize inGame) = new.measure? ∧
      Told slot new (old.shaping text fontSize inGame shared.canvas.setting) shared
        (shared.step (.update slot text fontSize inGame)) := by
  obtain ⟨rest, howns⟩ := h
  obtain ⟨hresult, hnew, hyields⟩ := CachedText.update_yields
    (howns.perm ((all_perm shared.texts slot).append_right rest)) text fontSize inGame
  exact ⟨hresult, hnew ▸ told_of_yields hyields⟩

theorem Held.reset {shared : SharedTexts n} (h : shared.Held) (slot : Fin n) :
    Told slot {} (releasing [shared.texts slot]) shared (shared.step (.reset slot)) := by
  obtain ⟨rest, howns⟩ := h
  exact told_of_yields
    (CachedText.reset_yields (howns.perm ((all_perm shared.texts slot).append_right rest)))

theorem Held.draw {shared : SharedTexts n} (h : shared.Held) (slot : Fin n) (center size : Point)
    (color : Color) :
    Told slot (shared.texts slot).anonymous ((shared.texts slot).drawing center size color) shared
      (shared.step (.draw slot center size color)) := by
  obtain ⟨rest, howns⟩ := h
  have hmem : shared.texts slot ∈ all shared.texts ++ rest :=
    List.mem_append_left _ (List.mem_map_of_mem (List.mem_finRange slot))
  have hyields := CachedText.draw_yields howns hmem center size color
  exact ⟨rfl, fun _ _ => rfl, hyields.record, hyields.setting, rest, hyields.owns⟩

theorem Held.step {shared : SharedTexts n} (h : shared.Held) (step : Step n) :
    (shared.step step).Held := by
  cases step with
  | update slot text fontSize inGame => exact (h.update slot text fontSize inGame).2.held
  | draw slot center size color => exact (h.draw slot center size color).held
  | reset slot => exact (h.reset slot).held
  | failShaping fails =>
      obtain ⟨rest, howns⟩ := h
      exact ⟨rest, howns.congr rfl⟩
  | setScreen screen =>
      obtain ⟨rest, howns⟩ := h
      exact ⟨rest, howns.congr rfl⟩

theorem held_run (canvas : Recording) (steps : List (Step n)) : (run canvas steps).Held := by
  induction steps using List.reverseRecOn with
  | nil => exact held_start canvas
  | append_singleton steps last ih =>
      rw [run_concat]
      exact ih.step last

/-- A step that does not change a text leaves it as it is. -/
theorem texts_step {slot : Fin n} {step : Step n} (h : ¬ step.Changes slot)
    (shared : SharedTexts n) : (shared.step step).texts slot = shared.texts slot := by
  cases step with
  | update other text fontSize inGame => exact Function.update_of_ne (Ne.symm h) _ _
  | reset other => exact Function.update_of_ne (Ne.symm h) _ _
  | draw | failShaping | setScreen => rfl

theorem texts_run_append {slot : Fin n} {between : List (Step n)}
    (h : ∀ step ∈ between, ¬ step.Changes slot) (canvas : Recording) (past : List (Step n)) :
    (run canvas (past ++ between)).texts slot = (run canvas past).texts slot := by
  induction between using List.reverseRecOn with
  | nil => rw [List.append_nil]
  | append_singleton between last ih =>
      rw [← List.append_assoc, run_concat, texts_step (h last (by simp))]
      exact ih fun step hstep => h step (List.mem_append_left _ hstep)

/-- What a step about a text does besides, it does not do to the others. -/
theorem Held.told {shared : SharedTexts n} (h : shared.Held) {step : Step n} {slot : Fin n}
    (hslot : step.slot? = some slot) :
    ∃ cached added, Told slot cached added shared (shared.step step) := by
  cases step with
  | update other text fontSize inGame =>
      obtain rfl : other = slot := Option.some_inj.mp hslot
      exact ⟨_, _, (h.update other text fontSize inGame).2⟩
  | draw other center size color =>
      obtain rfl : other = slot := Option.some_inj.mp hslot
      exact ⟨_, _, h.draw other center size color⟩
  | reset other =>
      obtain rfl : other = slot := Option.some_inj.mp hslot
      exact ⟨_, _, h.reset other⟩
  | failShaping | setScreen => cases hslot

/-- A step that is not about a text leaves it as it is, and the canvas keeps for it what it kept. -/
theorem Held.unrelated {shared : SharedTexts n} (h : shared.Held) {step : Step n} {slot : Fin n}
    (hslot : step.slot? ≠ some slot) :
    (shared.step step).texts slot = shared.texts slot ∧
      (shared.step step).canvas.find (shared.texts slot).handle =
        shared.canvas.find (shared.texts slot).handle := by
  have htext : (shared.step step).texts slot = shared.texts slot := by
    refine texts_step (fun hchanges => hslot ?_) shared
    cases step with
    | update | reset => exact congrArg some hchanges
    | draw | failShaping | setScreen => exact hchanges.elim
  have hfind := (h.step step).find slot
  rw [htext, ← h.find slot] at hfind
  exact ⟨htext, hfind⟩

/-! ## What was asked last -/

/-- Whatever the text was asked to show, a reset came after that. -/
def Unasked (slot : Fin n) (past : List (Step n)) : Prop :=
  ∀ earlier text fontSize inGame between,
    past = earlier ++ .update slot text fontSize inGame :: between → .reset slot ∈ between

/-- The last update of the text, if no reset came after it: the steps up to it, and what it asked
for. -/
def Asked (slot : Fin n) (past earlier : List (Step n)) (text : String) (fontSize : Float32) :
    Prop :=
  ∃ before inGame between, earlier = before ++ [.update slot text fontSize inGame] ∧
    past = earlier ++ between ∧ ∀ step ∈ between, ¬ step.Changes slot

theorem Step.changes_iff {slot : Fin n} {step : Step n} :
    step.Changes slot ↔
      (∃ text fontSize inGame, step = .update slot text fontSize inGame) ∨ step = .reset slot := by
  constructor
  · intro h
    cases step with
    | update other text fontSize inGame =>
        obtain rfl : other = slot := h
        exact .inl ⟨text, fontSize, inGame, rfl⟩
    | reset other =>
        obtain rfl : other = slot := h
        exact .inr rfl
    | draw | failShaping | setScreen => exact h.elim
  · rintro (⟨text, fontSize, inGame, rfl⟩ | rfl)
    · exact rfl
    · exact rfl

theorem not_unasked_update (slot : Fin n) (past : List (Step n)) (text : String)
    (fontSize : Float32) (inGame : Bool) :
    ¬ Unasked slot (past ++ [.update slot text fontSize inGame]) := by
  intro h
  cases h past text fontSize inGame [] rfl

theorem unasked_reset (slot : Fin n) (past : List (Step n)) :
    Unasked slot (past ++ [.reset slot]) := by
  intro earlier text fontSize inGame between hpast
  rcases List.eq_nil_or_concat' between with rfl | ⟨between, last, rfl⟩
  · cases (List.append_inj' hpast rfl).2
  · rw [← List.cons_append, ← List.append_assoc] at hpast
    cases (List.append_inj' hpast rfl).2
    simp

theorem unasked_concat {slot : Fin n} {past : List (Step n)} {last : Step n}
    (h : ¬ last.Changes slot) : Unasked slot (past ++ [last]) ↔ Unasked slot past := by
  constructor
  · intro hunasked earlier text fontSize inGame between hpast
    have hmem : .reset slot ∈ between ++ [last] :=
      hunasked earlier text fontSize inGame (between ++ [last]) (by simp [hpast])
    rcases List.mem_append.mp hmem with hmem | hmem
    · exact hmem
    · cases List.mem_singleton.mp hmem
      exact (h rfl).elim
  · intro hunasked earlier text fontSize inGame between hpast
    rcases List.eq_nil_or_concat' between with rfl | ⟨between, other, rfl⟩
    · cases (List.append_inj' hpast rfl).2
      exact (h rfl).elim
    · rw [← List.cons_append, ← List.append_assoc] at hpast
      have hmem := hunasked earlier text fontSize inGame between (List.append_inj' hpast rfl).1
      exact List.mem_append_left _ hmem

/-- A text that was not asked for is not shaped. -/
theorem Unasked.handle {slot : Fin n} {past : List (Step n)} (h : Unasked slot past)
    (canvas : Recording) : ((run canvas past).texts slot).handle = none := by
  induction past using List.reverseRecOn with
  | nil => rfl
  | append_singleton past last ih =>
      rw [run_concat]
      by_cases hchanges : last.Changes slot
      · obtain ⟨text, fontSize, inGame, rfl⟩ | rfl := Step.changes_iff.mp hchanges
        · exact (not_unasked_update slot past text fontSize inGame h).elim
        · have hcleared : ((run canvas past).step (.reset slot)).texts slot = {} :=
            Function.update_self slot _ _
          rw [hcleared]
      · rw [texts_step hchanges]
        exact ih ((unasked_concat hchanges).mp h)

theorem exists_asked {slot : Fin n} {past : List (Step n)} (h : ¬ Unasked slot past) :
    ∃ earlier text fontSize, Asked slot past earlier text fontSize := by
  induction past using List.reverseRecOn with
  | nil => exact (h fun earlier text fontSize inGame between hpast => by simp at hpast).elim
  | append_singleton past last ih =>
      by_cases hchanges : last.Changes slot
      · obtain ⟨text, fontSize, inGame, rfl⟩ | rfl := Step.changes_iff.mp hchanges
        · refine ⟨_, text, fontSize, past, inGame, [], rfl, (List.append_nil _).symm, ?_⟩
          exact List.forall_mem_nil _
        · exact (h (unasked_reset slot past)).elim
      · obtain ⟨earlier, text, fontSize, before, inGame, between, hearlier, rfl, hbetween⟩ :=
          ih fun hunasked => h ((unasked_concat hchanges).mpr hunasked)
        refine ⟨earlier, text, fontSize, before, inGame, between ++ [last], hearlier,
          List.append_assoc _ _ _, fun step hstep => ?_⟩
        rcases List.mem_append.mp hstep with hstep | hstep
        · exact hbetween step hstep
        · rwa [List.mem_singleton.mp hstep]

/-- An update of a text has to shape it: it was not asked for, or something else was asked for, or
nothing came of it. -/
def Due (canvas : Recording) (slot : Fin n) (past : List (Step n)) (text : String)
    (fontSize : Float32) : Prop :=
  Unasked slot past ∨
    ∃ earlier oldText oldSize, Asked slot past earlier oldText oldSize ∧
      (oldText ≠ text ∨ oldSize != fontSize ∨ ((run canvas earlier).texts slot).handle = none)

/-- What a text was asked to show last, it remembers. -/
theorem Asked.needsUpdate {slot : Fin n} {past earlier : List (Step n)} {oldText : String}
    {oldSize : Float32} (h : Asked slot past earlier oldText oldSize) (canvas : Recording)
    (text : String) (fontSize : Float32) :
    ((run canvas past).texts slot).needsUpdate text fontSize ↔
      (oldText ≠ text ∨ oldSize != fontSize ∨ ((run canvas earlier).texts slot).handle = none) := by
  obtain ⟨before, inGame, between, rfl, rfl, hbetween⟩ := h
  let old := (run canvas before).texts slot
  let asked := (run canvas (before ++ [.update slot oldText oldSize inGame])).texts slot
  have hasked : asked = (old.update oldText oldSize inGame (run canvas before).canvas).2.1 := by
    show (run canvas (before ++ [.update slot oldText oldSize inGame])).texts slot = _
    rw [run_concat]
    exact Function.update_self slot _ _
  have hsize : (asked.fontSize != fontSize) = (oldSize != fontSize) := by
    rw [hasked]
    rcases CachedText.fontSize_update old oldText oldSize inGame _ with hbeq | ⟨hnan, hkept⟩
    · exact Single.bne_eq_of_beq hbeq fontSize
    · rw [hkept, hnan]
  rw [texts_run_append hbetween]
  show asked.needsUpdate text fontSize ↔ _ ∨ _ ∨ asked.handle = none
  rw [CachedText.needsUpdate, hsize, show asked.text = oldText by
    rw [hasked, CachedText.text_update]]
  simp only [Bool.or_eq_true, Option.isNone_iff_eq_none, bne_iff_ne]
  tauto

/-- The cache decides by what it remembers just as the past does. -/
theorem due_iff {canvas : Recording} {slot : Fin n} {past : List (Step n)} {text : String}
    {fontSize : Float32} :
    Due canvas slot past text fontSize ↔
      ((run canvas past).texts slot).needsUpdate text fontSize := by
  constructor
  · rintro (hunasked | ⟨earlier, oldText, oldSize, hasked, hchanged⟩)
    · simp [CachedText.needsUpdate, hunasked.handle canvas]
    · exact (hasked.needsUpdate canvas text fontSize).mpr hchanged
  · intro hneeds
    by_cases hunasked : Unasked slot past
    · exact .inl hunasked
    · obtain ⟨earlier, oldText, oldSize, hasked⟩ := exists_asked hunasked
      exact .inr ⟨earlier, oldText, oldSize, hasked,
        (hasked.needsUpdate canvas text fontSize).mp hneeds⟩

/-! ## What an update answers -/

/-- The canvas keeps a container for the text, with just the string and the font size asked for. -/
structure Holds (shared : SharedTexts n) (slot : Fin n) (text : String) (fontSize : Float32)
    (container : Container) : Prop where
  find : shared.canvas.find (shared.texts slot).handle = some container
  text : container.text = text
  fontSize : container.fontSize == fontSize ∨
    fontSize = Float32.nan ∧ container.fontSize = Float32.nan

section

variable {shared : SharedTexts n} (h : shared.Held) (slot : Fin n) (text : String)
  (fontSize : Float32) (inGame : Bool)
include h

/-- An update answers the extent of what the text is then. -/
theorem Held.result_update :
    shared.result (.update slot text fontSize inGame) =
      ((shared.step (.update slot text fontSize inGame)).texts slot).measure? := by
  obtain ⟨hresult, htold⟩ := h.update slot text fontSize inGame
  rw [hresult, ← htold.text, CachedText.measure?_anonymous]

theorem Held.result_eq_none_iff :
    shared.result (.update slot text fontSize inGame) = none ↔
      ((shared.step (.update slot text fontSize inGame)).texts slot).handle = none := by
  rw [h.result_update, CachedText.measure?, CachedText.container?, Option.map_eq_none_iff,
    Option.map_eq_none_iff]

theorem Held.result_eq_some {extent : Point}
    (hextent : shared.result (.update slot text fontSize inGame) = some extent) :
    let after := shared.step (.update slot text fontSize inGame)
    extent = after.canvas.extent (after.texts slot).handle ∧
      ∃ container, after.Holds slot text fontSize container := by
  intro after
  let updated := (shared.texts slot).update text fontSize inGame shared.canvas
  have htext : after.texts slot = updated.2.1 := Function.update_self slot _ _
  have hfind : after.canvas.find (after.texts slot).handle = (after.texts slot).container? :=
    (h.step _).find slot
  rw [h.result_update, CachedText.measure?] at hextent
  obtain ⟨container, hcontainer, rfl⟩ := Option.map_eq_some_iff.mp hextent
  have hkept : after.canvas.find (after.texts slot).handle = some container :=
    hfind.trans hcontainer
  refine ⟨?_, container, hkept, ?_, ?_⟩
  · rw [Recording.extent, hkept]
    rfl
  · obtain ⟨-, -, rfl⟩ := Option.map_eq_some_iff.mp hcontainer
    rw [htext]
    exact CachedText.text_update (shared.texts slot) text fontSize inGame shared.canvas
  · obtain ⟨-, -, rfl⟩ := Option.map_eq_some_iff.mp hcontainer
    rw [htext]
    exact CachedText.fontSize_update (shared.texts slot) text fontSize inGame shared.canvas

/-- An update shapes once if the text needs it, else not at all. -/
theorem Held.shapedOn_update :
    (shared.step (.update slot text fontSize inGame)).canvas.shapedOn.size =
      shared.canvas.shapedOn.size +
        if (shared.texts slot).needsUpdate text fontSize then 1 else 0 := by
  obtain ⟨-, htold⟩ := h.update slot text fontSize inGame
  rw [htold.size_shapedOn, CachedText.shaping, CachedText.needsUpdate_anonymous]
  split <;> rfl

end

/-! ## A text among others -/

/-- A text is the same in both, up to the number of its handle, and so is the setting. -/
structure Alike (slot : Fin n) (shared other : SharedTexts n) : Prop where
  text : (shared.texts slot).anonymous = (other.texts slot).anonymous
  setting : shared.canvas.setting = other.canvas.setting

theorem Told.shapings {slot : Fin n} {cached : CachedText} {added : Record}
    {shared : SharedTexts n} {step : Step n}
    (h : Told slot cached added shared (shared.step step)) :
    shared.shapings step = added.shapedOn.length := by
  rw [SharedTexts.shapings, h.size_shapedOn, Nat.add_sub_cancel_left]

theorem Told.alike {slot : Fin n} {cached : CachedText} {added more : Record}
    {shared next other last : SharedTexts n} (h : Told slot cached added shared next)
    (h' : Told slot cached more other last)
    (hsetting : shared.canvas.setting = other.canvas.setting) : Alike slot next last :=
  ⟨by rw [h.text, h'.text], by rw [h.setting, h'.setting, hsetting]⟩

namespace Alike

variable {slot : Fin n} {shared other : SharedTexts n} {step : Step n}

/-- A step about the text answers the same in both, and they stay alike. -/
theorem own (h : Alike slot shared other) (hshared : shared.Held) (hother : other.Held)
    (hstep : step.slot? = some slot) :
    shared.result step = other.result step ∧ shared.shapings step = other.shapings step ∧
      Alike slot (shared.step step) (other.step step) := by
  obtain ⟨htext, hsetting⟩ := h
  have hfails : shared.canvas.failShaping = other.canvas.failShaping :=
    congrArg Setting.failShaping hsetting
  cases step with
  | update about text fontSize inGame =>
      obtain rfl : about = slot := Option.some_inj.mp hstep
      obtain ⟨hresult, htold⟩ := hshared.update about text fontSize inGame
      obtain ⟨hresult', htold'⟩ := hother.update about text fontSize inGame
      rw [← htext, ← hfails] at hresult' htold'
      refine ⟨hresult.trans hresult'.symm, ?_, htold.alike htold' hsetting⟩
      rw [htold.shapings, htold'.shapings, hsetting]
  | draw about center size color =>
      obtain rfl : about = slot := Option.some_inj.mp hstep
      have htold := hshared.draw about center size color
      have htold' := hother.draw about center size color
      have hdrawing : (shared.texts about).drawing = (other.texts about).drawing := calc
        (shared.texts about).drawing = (shared.texts about).anonymous.drawing :=
          (CachedText.drawing_renumber _ _).symm
        _ = (other.texts about).anonymous.drawing := by rw [htext]
        _ = (other.texts about).drawing := CachedText.drawing_renumber _ _
      rw [← htext, ← hdrawing] at htold'
      exact ⟨rfl, by rw [htold.shapings, htold'.shapings], htold.alike htold' hsetting⟩
  | reset about =>
      obtain rfl : about = slot := Option.some_inj.mp hstep
      have htold := hshared.reset about
      have htold' := hother.reset about
      refine ⟨rfl, ?_, htold.alike htold' hsetting⟩
      rw [htold.shapings, htold'.shapings]
      rfl
  | failShaping | setScreen => cases hstep

/-- A step about no text changes the setting in both. -/
theorem common (h : Alike slot shared other) (hstep : step.slot? = none) :
    Alike slot (shared.step step) (other.step step) := by
  obtain ⟨htext, hsetting⟩ := h
  cases step with
  | update | draw | reset => cases hstep
  | failShaping fails =>
      let changed (setting : Setting) : Setting := { setting with failShaping := fails }
      exact ⟨htext, congrArg changed hsetting⟩
  | setScreen screen =>
      let changed (setting : Setting) : Setting := { setting with screen := screen }
      exact ⟨htext, congrArg changed hsetting⟩

/-- A step about another text may be left out. -/
theorem skip (h : Alike slot shared other) (hshared : shared.Held) {about : Fin n}
    (hstep : step.slot? = some about) (hne : slot ≠ about) :
    Alike slot (shared.step step) other := by
  obtain ⟨cached, added, htold⟩ := hshared.told hstep
  exact ⟨by rw [htold.other slot hne, h.text], by rw [htold.setting, h.setting]⟩

end Alike

/-- The step is about the text or about no text. -/
def Step.concerns (slot : Fin n) (step : Step n) : Bool :=
  step.slot?.all (· = slot)

theorem answersFrom_filter {slot : Fin n} {shared other : SharedTexts n}
    (h : Alike slot shared other) (hshared : shared.Held) (hother : other.Held)
    (steps : List (Step n)) :
    answersFrom slot other (steps.filter (·.concerns slot)) = answersFrom slot shared steps := by
  induction steps generalizing shared other with
  | nil => rfl
  | cons step steps ih =>
      cases hstep : step.slot? with
      | none =>
          have hconcerns : step.concerns slot := by simp [Step.concerns, hstep]
          rw [List.filter_cons_of_pos hconcerns]
          simpa [answersFrom, hstep] using
            ih (h.common hstep) (hshared.step step) (hother.step step)
      | some about =>
          by_cases hown : about = slot
          · subst hown
            obtain ⟨hresult, hshapings, halike⟩ := h.own hshared hother hstep
            have hconcerns : step.concerns about := by simp [Step.concerns, hstep]
            rw [List.filter_cons_of_pos hconcerns]
            simp [answersFrom, hstep, hresult, hshapings,
              ih halike (hshared.step step) (hother.step step)]
          · have hconcerns : ¬ step.concerns slot := by simp [Step.concerns, hstep, hown]
            rw [List.filter_cons_of_neg hconcerns]
            simpa [answersFrom, hstep, hown] using
              ih (h.skip hshared hstep (Ne.symm hown)) (hshared.step step) hother

/-- What the steps about a text answer, they answer without the other texts. -/
theorem answers_filter (slot : Fin n) (canvas : Recording) (steps : List (Step n)) :
    answers slot canvas (steps.filter (·.concerns slot)) = answers slot canvas steps :=
  answersFrom_filter ⟨rfl, rfl⟩ (held_start canvas) (held_start canvas) steps

/-- An update of a text shapes it, and just once, if the steps before say so: the text was not asked
for since it was new or reset, or its last update asked for something else or failed. It answers
nothing just when the text has no handle then, and otherwise the extent of what was asked for. What
is done to other texts leaves the text, what the canvas keeps for it and its answers as they are. -/
theorem updates_are_told_by_the_past (canvas : Recording) (past : List (Step n)) (slot : Fin n) :
    (∀ text fontSize inGame,
      let before := run canvas past
      let update := Step.update slot text fontSize inGame
      let after := before.step update
      (after.canvas.shapedOn.size = before.canvas.shapedOn.size + 1 ↔
          Due canvas slot past text fontSize) ∧
        (after.canvas.shapedOn.size = before.canvas.shapedOn.size ↔
          ¬ Due canvas slot past text fontSize) ∧
        (before.result update = none ↔ (after.texts slot).handle = none) ∧
        ∀ extent, before.result update = some extent →
          extent = after.canvas.extent (after.texts slot).handle ∧
            ∃ container, after.Holds slot text fontSize container) ∧
      (∀ step : Step n, step.slot? ≠ some slot →
        let before := run canvas past
        let after := before.step step
        after.texts slot = before.texts slot ∧
          after.canvas.find (before.texts slot).handle =
            before.canvas.find (before.texts slot).handle) ∧
      answers slot canvas (past.filter (·.concerns slot)) = answers slot canvas past := by
  have hheld := held_run canvas past
  refine ⟨fun text fontSize inGame => ?_, fun step hstep => hheld.unrelated hstep,
    answers_filter slot canvas past⟩
  intro before update after
  have hsize : after.canvas.shapedOn.size = before.canvas.shapedOn.size +
      if (before.texts slot).needsUpdate text fontSize then 1 else 0 :=
    hheld.shapedOn_update slot text fontSize inGame
  have hdue : Due canvas slot past text fontSize ↔
      (before.texts slot).needsUpdate text fontSize := due_iff
  refine ⟨?_, ?_, hheld.result_eq_none_iff slot text fontSize inGame,
    fun extent hextent => hheld.result_eq_some slot text fontSize inGame hextent⟩
  · rw [hdue, hsize]
    split <;> simp [*]
  · rw [hdue, hsize]
    split <;> simp [*]

/-- What could not be shaped is tried again, and what could be is not. -/
example :
    (answers (0 : Fin 1) {}
      [.failShaping true, .update 0 "tee" 28 true, .failShaping false, .update 0 "tee" 28 true,
        .update 0 "tee" 28 true]).map Prod.snd = [1, 1, 0] := by
  decide +kernel

end SharedTexts
end Overhead
