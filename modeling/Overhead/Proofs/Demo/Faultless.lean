import Mathlib.Data.List.GetD
import Overhead.Proofs.Demo.Guarded

/-!
# No guard is ever met

A simulation has a motion for every player and no more players than slots, and whoever gets into
another team is drawn only when there are others to draw from. So no guard finds a fault, and with
all of them in place the calls have the effects that they have without.
-/

namespace Overhead
namespace Demo

variable {ρ : Type}

/-- What the guards get to see of a simulation: the motions of its players. -/
def guarded (demo : Demo ρ) : Guarded ρ where
  motions := demo.motions.toList.take demo.players
  random := demo.random
  time := demo.time
  nextTeamSwap := demo.nextTeamSwap
  players := demo.players
  spectatorId := demo.spectatorId
  playback := demo.playback

theorem length_guarded_motions (demo : Demo ρ) : demo.guarded.motions.length = demo.players := by
  have hplayers := demo.players_le
  simpa [guarded] using hplayers

theorem get_guarded_motions (demo : Demo ρ) (slot : Fin slotCount)
    (h : slot.val < demo.guarded.motions.length) :
    demo.guarded.motions.get ⟨slot, h⟩ = demo.motions.get slot := by
  simp only [guarded, List.get_eq_getElem, List.getElem_take, Vector.getElem_toList]
  rfl

theorem guarded_setMotion (demo : Demo ρ) (slot : Fin slotCount) (motion : Motion) (random : ρ) :
    { demo with random := random, motions := demo.motions.set slot motion slot.isLt }.guarded =
      { demo.guarded with
        random := random
        motions := demo.guarded.motions.set slot motion } := by
  simp only [guarded, Vector.toList_set, List.take_set]
  rfl

theorem guarded_mapMotions (demo : Demo ρ) (change : Motion → Motion) :
    { demo with motions := demo.motions.map change }.guarded =
      { demo.guarded with motions := demo.guarded.motions.map change } := by
  simp only [guarded, Vector.toList_map, List.map_take]
  rfl

theorem map_val_roster (demo : Demo ρ) : demo.roster.map Fin.val = List.range demo.players := by
  have hplayers := demo.players_le
  rw [roster, List.map_take, List.map_coe_finRange_eq_range, List.take_range,
    Nat.min_eq_left hplayers]

theorem guarded_new (config : DemoConfig) (random : ρ) :
    Guarded.new config random = .ok (Demo.new config random).guarded := by
  have htwo : 1 ≤ max 2 (min config.players slotCount) := by omega
  have hall : max 2 (min config.players slotCount) ≤ slotCount :=
    (Demo.new config random).players_le
  have hmotions : List.replicate (max 2 (min config.players slotCount)) ({} : Motion) =
      (Demo.new config random).guarded.motions := by
    simp [guarded, new, Vector.toList_replicate, List.take_replicate, Nat.min_eq_left hall]
  simp only [Guarded.new, Guard.clamp_of_le (show 2 ≤ slotCount by decide),
    Guard.difference_of_le htwo, hmotions, bind, Except.bind]
  rfl

/-- What the guards get to see while a game is played. -/
def seen (state : Demo ρ × Game) : Guarded ρ × Game :=
  (state.1.guarded, state.2)

/-- A loop passes all guards if every turn of it does. -/
theorem foldlM_eq_ok {α β γ : Type} (see : β → γ) {guarded : γ → α → Except Fault γ}
    {act : β → α → β} (items : List α) (Holds : β → Prop)
    (passes : ∀ state, ∀ item ∈ items, Holds state →
      guarded (see state) item = .ok (see (act state item)))
    (kept : ∀ state item, Holds state → Holds (act state item)) (state : β) (h : Holds state) :
    items.foldlM guarded (see state) = .ok (see (items.foldl act state)) := by
  induction items generalizing state with
  | nil => rfl
  | cons first items ih =>
      rw [List.foldlM_cons, List.foldl_cons, passes state first List.mem_cons_self h]
      exact ih (fun later item hitem => passes later item (List.mem_cons_of_mem first hitem))
        (act state first) (kept state first h)

/-- A loop over the numbers of the players is a loop over their slots. -/
theorem foldlM_players {β γ : Type} (demo : Demo ρ) (see : β → γ)
    {guarded : γ → Nat → Except Fault γ} {act : β → Fin slotCount → β} (Holds : β → Prop)
    (passes : ∀ state (slot : Fin slotCount), slot.val < demo.players → Holds state →
      guarded (see state) slot = .ok (see (act state slot)))
    (kept : ∀ state slot, Holds state → Holds (act state slot)) (state : β) (h : Holds state) :
    (List.range demo.players).foldlM guarded (see state) =
      .ok (see (demo.roster.foldl act state)) := by
  rw [← map_val_roster, List.foldlM_map]
  exact foldlM_eq_ok see demo.roster Holds
    (fun later slot hslot => passes later slot (mem_roster.mp hslot)) kept state h

/-! ### The start -/

/-- A player whose body was not left anywhere. -/
def bodiless (player : Slot) : Slot :=
  player.withBody none

/-- A simulation before the body of the player who spectates was put into the world. -/
def seenBodiless (state : Demo ρ × Game) : Guarded ρ × Game :=
  (state.1.guarded, { state.2 with slots := state.2.slots.map bodiless })

theorem turn_eq {texts : List String} {id : Nat} (h : id % texts.length < texts.length) :
    turn texts id = texts.get ⟨id % texts.length, h⟩ :=
  List.getD_eq_getElem texts "" h

theorem bodiless_playerOf (demo : Demo ρ) (id : Nat) (hue : Float32) (rank : Int32) :
    bodiless (demo.playerOf id hue rank) =
      demo.guarded.playerOf id (turn names id) (turn clans id) hue rank := rfl

theorem spectatorId_lt {demo : Demo ρ} {id : Nat} (h : demo.spectatorId = some id) :
    id < demo.players := by
  have hplayers := demo.two_le_players
  unfold spectatorId at h
  split at h
  · obtain rfl := Option.some.inj h
    omega
  · cases h

theorem map_bodiless {slots : Vector Slot slotCount}
    (h : ∀ slot, (slots.get slot).client.spectatorBody = none) : slots.map bodiless = slots := by
  apply Vector.ext
  intro i hi
  rw [Vector.getElem_map]
  show (slots.get ⟨i, hi⟩).withBody none = slots.get ⟨i, hi⟩
  rw [← h ⟨i, hi⟩]
  rfl

theorem set_map_bodiless {slots : Vector Slot slotCount} (id : Fin slotCount) {body : Point}
    (h : ∀ slot, (slots.get slot).client.spectatorBody = if id = slot then some body else none) :
    (slots.map bodiless).set id ((slots.get id).withBody (some body)) id.isLt = slots := by
  apply Vector.ext
  intro i hi
  have hbody := h ⟨i, hi⟩
  show ((slots.map bodiless).set id _ id.isLt).get ⟨i, hi⟩ = slots.get ⟨i, hi⟩
  rw [get_set]
  split
  · next hown =>
      subst hown
      rw [if_pos rfl] at hbody
      rw [← hbody]
      rfl
  · next hother =>
      rw [if_neg hother] at hbody
      show (slots.map bodiless)[i] = _
      rw [Vector.getElem_map]
      show (slots.get ⟨i, hi⟩).withBody none = slots.get ⟨i, hi⟩
      rw [← hbody]
      rfl

theorem leaveBody_bodiless (demo : Demo ρ) (game : Game)
    (h : ∀ slot : Fin slotCount, (game.slots.get slot).client.spectatorBody =
      if demo.spectatorId = some slot.val then some bodyPosition else none) :
    demo.guarded.leaveBody { game with slots := game.slots.map bodiless } = .ok game := by
  have hseen : demo.guarded.spectatorId = demo.spectatorId := rfl
  unfold Guarded.leaveBody
  rw [hseen]
  cases hspectates : demo.spectatorId with
  | none =>
      have hslots : game.slots.map bodiless = game.slots := by
        refine map_bodiless fun slot => ?_
        rw [h slot, hspectates]
        exact if_neg (by simp)
      simp only [hslots]
      rfl
  | some id =>
      have hid : id < slotCount := Nat.lt_of_lt_of_le (spectatorId_lt hspectates) demo.players_le
      have hslots : (game.slots.map bodiless).set id
          ((game.slots.get ⟨id, hid⟩).withBody (some bodyPosition)) hid = game.slots := by
        refine set_map_bodiless ⟨id, hid⟩ fun slot => ?_
        rw [h slot, hspectates]
        exact if_congr (by rw [Option.some.injEq, Fin.ext_iff]) rfl rfl
      have hget : (game.slots.map bodiless).get ⟨id, hid⟩ =
          bodiless (game.slots.get ⟨id, hid⟩) := Vector.getElem_map ..
      have hleft := congrArg (fun slots => { game with slots := slots }) hslots
      simp only [Guard.index_of_lt hid, hget, bind, Except.bind]
      exact congrArg Except.ok hleft

section

variable [RandomSource ρ]

theorem guarded_join (state : Demo ρ × Game) (slot : Fin slotCount) :
    Guarded.join (seenBodiless state) slot = .ok (seenBodiless (join state slot)) := by
  obtain ⟨demo, game⟩ := state
  have hname : slot.val % names.length < names.length := Nat.mod_lt _ (by decide)
  have hclan : slot.val % clans.length < clans.length := Nat.mod_lt _ (by decide)
  have hslots : ∀ player, (game.slots.set slot player).map bodiless =
      (game.slots.map bodiless).set slot (bodiless player) := fun player => Vector.map_set ..
  simp only [join, seenBodiless, hslots, bodiless_playerOf, turn_eq hname, turn_eq hclan,
    Guarded.join, Guard.index_fin, Guard.index_of_lt hname, Guard.index_of_lt hclan,
    Guard.between_hue, Guard.draw_of_pos Random.below (show 0 < slotCount by decide),
    bind, Except.bind]
  rfl

theorem guarded_populate (demo : Demo ρ) :
    demo.guarded.populate = .ok (seen demo.populate) := by
  obtain ⟨random, slots, hjoined, hslots⟩ := foldl_join demo.roster demo demo.emptyGame
  have hempty : demo.emptyGame.slots.map bodiless = demo.emptyGame.slots :=
    Vector.map_replicate ..
  have hstart : (demo.guarded, demo.guarded.emptyGame) = seenBodiless (demo, demo.emptyGame) := by
    rw [seenBodiless, hempty]
    rfl
  -- With the guards the body is put into the world last; without them its player brings it along.
  have hloop := demo.foldlM_players seenBodiless (fun _ => True)
    (fun state slot _ _ => guarded_join state slot) (fun _ _ _ => trivial) (demo, demo.emptyGame)
    trivial
  have hbodies : ∀ slot : Fin slotCount, (slots.get slot).client.spectatorBody =
      if demo.spectatorId = some slot.val then some bodyPosition else none := by
    intro slot
    by_cases hin : slot ∈ demo.roster
    · obtain ⟨hue, rank, hplayer⟩ := (hslots slot).1 hin
      rw [hplayer]
      rfl
    · have hbody : demo.spectatorId ≠ some slot.val := fun hspectates =>
        hin (mem_roster.mpr (spectatorId_lt hspectates))
      rw [(hslots slot).2 hin, if_neg hbody]
      exact congrArg (fun player : Slot => player.client.spectatorBody)
        (Vector.getElem_replicate slot.isLt)
  have hbody := leaveBody_bodiless { demo with random := random }
    { demo.emptyGame with slots := slots } hbodies
  simp only [Guarded.populate, hstart]
  show ((List.range demo.players).foldlM Guarded.join _ >>= _) = _
  rw [hloop, hjoined]
  show (Guarded.leaveBody _ _ >>= _) = _
  rw [seenBodiless, hbody, populate, hjoined]
  exact congrArg (fun guarded => Except.ok (guarded, { demo.emptyGame with slots := slots }))
    (guarded_mapMotions { demo with random := random } _).symm

end

/-! ### Control goes over to the other player -/

theorem guarded_markLocal (localId : Option Nat) (game : Game) (slot : Fin slotCount) :
    Guarded.markLocal localId game slot = .ok (markLocal localId game slot) := by
  simp only [Guarded.markLocal, Guard.index_fin, bind, Except.bind]
  rfl

theorem guarded_swapDummy (demo : Demo ρ) (game : Game) :
    demo.guarded.swapDummy game = .ok (demo.swapDummy game) := by
  have hactive : 1 - min game.activeDummy 1 = if game.activeSeat.partner = .main then 0 else 1 := by
    rw [Guard.min_activeDummy]
    cases game.activeSeat <;> rfl
  have hloop := demo.foldlM_players id (fun _ => True)
    (fun later slot _ _ => guarded_markLocal (game.localIds.get game.activeSeat.partner) later slot)
    (fun _ _ _ => trivial)
    { game with
      activeDummy := if game.activeSeat.partner = .main then 0 else 1
      localId := game.localIds.get game.activeSeat.partner } trivial
  simp only [Guarded.swapDummy, Guard.difference_of_le (Nat.min_le_right _ _), Guard.seat_partner,
    bind, Except.bind]
  rw [hactive]
  exact hloop

/-! ### Rounds -/

section

variable [RandomSource ρ] (keys : Keys) (seconds : Float32)

theorem guarded_botKeys (demo : Demo ρ) {slot : Fin slotCount} (h : slot.val < demo.players) :
    demo.guarded.botKeys slot =
      .ok ((demo.botKeys slot).1, (demo.botKeys slot).2.guarded) := by
  have hplace : slot.val < demo.guarded.motions.length := by
    rwa [length_guarded_motions]
  have hmotion : demo.guarded.motions.get ⟨slot, hplace⟩ = demo.motions[slot] :=
    demo.get_guarded_motions slot hplace
  have htime : demo.guarded.time = demo.time := rfl
  simp only [Guarded.botKeys, Guard.index_of_lt hplace, hmotion, htime, botKeys, bind, Except.bind]
  by_cases hdue : demo.motions[slot].nextDecision ≤ demo.time
  · simp only [if_pos hdue, Guard.between_pause,
      Guard.draw_of_pos Random.below (show 0 < 3 by decide), Guard.chance_jump, guarded_setMotion]
    rfl
  · simp only [if_neg hdue]
    rfl

theorem guarded_keysOf (demo : Demo ρ) (game : Game) {slot : Fin slotCount}
    (h : slot.val < demo.players) :
    demo.guarded.keysOf game keys slot =
      .ok ((demo.keysOf game keys slot).1, (demo.keysOf game keys slot).2.guarded) := by
  have hids : game.localIds.get game.activeSeat ≠ some slot.val →
      ((game.localIds.main = some slot.val ∨ game.localIds.dummy = some slot.val) ↔
        game.localIds.get game.activeSeat.partner = some slot.val) := by
    cases game.activeSeat with
    | main => exact fun hother => ⟨fun hown => hown.resolve_left hother, .inr⟩
    | dummy => exact fun hother => ⟨fun hown => hown.resolve_right hother, .inl⟩
  simp only [Guarded.keysOf, Guard.seat_active, keysOf, bind, Except.bind]
  by_cases hactive : game.localIds.get game.activeSeat = some slot.val
  · simp only [if_pos hactive]
    rfl
  simp only [if_neg hactive, hids hactive]
  by_cases hpartner : game.localIds.get game.activeSeat.partner = some slot.val
  · simp only [if_pos hpartner, Guard.difference_of_le (Nat.min_le_right _ _), Guard.seat_partner]
    rfl
  · simp only [if_neg hpartner]
    exact guarded_botKeys demo h

theorem guarded_stepPlayer (state : Demo ρ × Game) {slot : Fin slotCount}
    (h : slot.val < state.1.players) :
    Guarded.stepPlayer keys seconds (seen state) slot =
      .ok (seen (stepPlayer keys seconds state slot)) := by
  obtain ⟨demo, game⟩ := state
  obtain ⟨random, motions, hkeys, -⟩ := onlyMoves_keysOf keys demo game slot
  have hwidth : Guard.ensure .emptyRange (-Motion.halfWidth ≤ Motion.halfWidth) = .ok () := rfl
  have hplace : slot.val < (demo.keysOf game keys slot).2.guarded.motions.length := by
    rw [length_guarded_motions, hkeys]
    exact h
  have hmotion : (demo.keysOf game keys slot).2.guarded.motions.get ⟨slot, hplace⟩ =
      (demo.keysOf game keys slot).2.motions[slot] := get_guarded_motions _ slot hplace
  show Guarded.stepPlayer keys seconds (demo.guarded, game) slot = _
  have hplayer : game.slots[slot] = game.slots.get slot := rfl
  simp only [Guarded.stepPlayer, Guard.index_fin, stepPlayer, hplayer, bind, Except.bind]
  by_cases hactive : (game.slots.get slot).character.active = true
  · simp only [if_pos hactive, guarded_keysOf keys demo game h, Guard.index_of_lt hplace, hwidth,
      hmotion]
    exact congrArg (fun guarded => Except.ok (guarded, _)) (guarded_setMotion _ slot _ _).symm
  · simp only [if_neg hactive]
    rfl

theorem guarded_swapTeam (demo : Demo ρ) (game : Game) (h : 2 < demo.players) :
    demo.guarded.swapTeam game = .ok (seen (demo.swapTeam game)) := by
  have hoffset : (Random.belowWide (demo.players - 2) demo.random).1 < demo.players - 2 :=
    Random.belowWide_lt (by omega) demo.random
  have hid : 2 + (Random.belowWide (demo.players - 2) demo.random).1 < slotCount := by
    have hplayers := demo.players_le
    omega
  have hseen : demo.guarded.players = demo.players ∧ demo.guarded.random = demo.random :=
    ⟨rfl, rfl⟩
  simp only [Guarded.swapTeam, hseen, Guard.draw_of_lt Random.belowWide h,
    Guard.draw_of_pos Random.below (show 0 < 4 by decide), Guard.index_of_lt hid, bind, Except.bind]
  simp only [swapTeam, Game.modifySlot, dif_pos hid]
  rfl

theorem guarded_step (state : Demo ρ × Game) :
    state.1.guarded.step state.2 seconds keys = .ok (seen (state.1.step state.2 seconds keys)) := by
  -- The loop is over the players of the start, and a turn needs the motion of its player.
  have hkept : ∀ (later : Demo ρ × Game) slot, later.1.players = state.1.players →
      (stepPlayer keys seconds later slot).1.players = state.1.players := by
    intro later slot hplayers
    obtain ⟨random, motions, slots, hstep⟩ := stepPlayer_frame keys seconds later slot
    rw [hstep]
    exact hplayers
  have hloop : (List.range state.1.players).foldlM (Guarded.stepPlayer keys seconds)
      (seen (begun keys seconds state)) = .ok (seen (played keys seconds state)) :=
    state.1.foldlM_players seen (fun later => later.1.players = state.1.players)
      (fun later slot hslot hplayers => guarded_stepPlayer keys seconds later (hplayers ▸ hslot))
      hkept (begun keys seconds state) rfl
  rw [step_eq_played]
  simp only [Guarded.step, Guard.seat_active]
  show ((List.range state.1.players).foldlM (Guarded.stepPlayer keys seconds) _ >>= _) = _
  refine (congrArg (· >>= _) hloop).trans ?_
  generalize played keys seconds state = moved
  show (if moved.1.guarded.nextTeamSwap ≤ moved.1.guarded.time ∧ 2 < moved.1.guarded.players then
    moved.1.guarded.swapTeam moved.2 else .ok (seen moved)) = _
  by_cases hdue : moved.1.nextTeamSwap ≤ moved.1.time ∧ 2 < moved.1.players
  · simp only [if_pos (moved.1.isTeamSwapDue_iff.mpr hdue)]
    exact (if_pos hdue).trans (guarded_swapTeam moved.1 moved.2 hdue.2)
  · simp only [if_neg (mt moved.1.isTeamSwapDue_iff.mp hdue)]
    exact if_neg hdue

/-! ### Calls -/

theorem guarded_answer (state : Demo ρ × Game) (call : Call) :
    Guarded.answer (seen state) call = .ok (seen (answer state call)) := by
  match call with
  | .populate => exact guarded_populate state.1
  | .play (.step seconds keys) => exact guarded_step keys seconds state
  | .play .swap =>
      show state.1.guarded.swapDummy state.2 >>= _ = _
      rw [guarded_swapDummy]
      rfl

theorem guarded_session (config : DemoConfig) (random : ρ) (calls : List Call) :
    Guarded.session config random calls = .ok (seen (session config random calls)) := by
  have hcalls := foldlM_eq_ok seen calls (fun _ => True)
    (fun state call _ _ => guarded_answer state call) (fun _ _ _ => trivial)
    (Demo.new config random, {}) trivial
  rw [Guarded.session, guarded_new]
  exact hcalls

end

end Demo
end Overhead
