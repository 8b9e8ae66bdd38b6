import Overhead.Stage
import Overhead.Proofs.Demo.Control
import Overhead.Proofs.Demo.Faultless
import Overhead.Proofs.Frame.Failure

/-!
# Ids in the simulated game

Every id in a simulated game is that of a slot. So no call fails, and neither does what looks ids up
afterwards: the data of a plate, a frame of plates, and the camera that follows the player.
-/

namespace Overhead
namespace Demo

variable {ρ : Type}

/-- All ids of a game are those of slots, and nobody is watched. -/
structure Slotted (state : Demo ρ × Game) : Prop where
  localId : ∀ id, state.2.localId = some id → id < slotCount
  localIds : ∀ seat id, state.2.localIds.get seat = some id → id < slotCount
  unwatched : state.2.spectating = {}

namespace Slotted

variable {state : Demo ρ × Game}

theorem new (demo : Demo ρ) : Slotted (demo, {}) := by
  constructor
  · intro id hid
    cases hid
  · rintro (- | -) id hid
    · cases hid
    · cases hid
  · rfl

theorem swap (h : Slotted state) : Slotted (state.1, state.1.swapDummy state.2) := by
  obtain ⟨slots, hswap, -⟩ := swapDummy_eq state.1 state.2
  rw [hswap]
  exact ⟨h.localIds _, h.localIds, h.unwatched⟩

section

variable [RandomSource ρ]

theorem populate (demo : Demo ρ) : Slotted demo.populate := by
  obtain ⟨random, slots, hstart, -⟩ := populate_eq demo
  rw [hstart]
  constructor
  · intro id hid
    obtain rfl := Option.some.inj hid
    decide
  · rintro (- | -) id hid
    · obtain rfl := Option.some.inj hid
      decide
    · obtain rfl := Option.some.inj hid
      decide
  · rfl

theorem step (h : Slotted state) (seconds : Float32) (keys : Keys) :
    Slotted (state.1.step state.2 seconds keys) := by
  obtain ⟨random, motions, nextTeamSwap, slots, hstep⟩ := step_frame keys seconds state
  rw [hstep]
  exact ⟨h.localId, h.localIds, h.unwatched⟩

theorem session (config : DemoConfig) (random : ρ) (calls : List Call) :
    Slotted (session config random calls) := by
  refine session_induction config random Slotted (new _) (fun state call h => ?_) calls
  match call with
  | .populate => exact populate state.1
  | .play (.step seconds keys) => exact h.step seconds keys
  | .play .swap => exact h.swap

end

/-! ## Looking ids up -/

theorem watchedId_eq_none (h : Slotted state) : state.2.watchedId = none := by
  simp [Game.watchedId, h.unwatched]

theorem not_misses (h : Slotted state) (drawn : Client) (id : Nat) :
    ¬ state.2.Misses drawn id := by
  rintro ⟨own, hown, ⟨hhigh, -⟩ | ⟨-, -, hwatched, -⟩⟩
  · have hlow := h.localId own hown
    omega
  · rw [h.watchedId_eq_none] at hwatched
    cases hwatched

theorem exists_draw {σ : Type} [Canvas σ] (h : Slotted state) (plates : Plates)
    (settings : PlateSettings) (canvas : σ) :
    ∃ drawn, plates.draw state.2 settings canvas = .ok drawn := by
  cases hdrawn : plates.draw state.2 settings canvas with
  | ok drawn => exact ⟨drawn, rfl⟩
  | error missing =>
      obtain ⟨-, -, slot, -, -, -, hmisses⟩ := Plates.draw_eq_error.mp hdrawn
      exact absurd hmisses (h.not_misses _ _)

theorem exists_follow (h : Slotted state) (stage : Stage) (elapsed : Float32) :
    ∃ followed, { stage with game := state.2 }.follow elapsed = .ok followed := by
  unfold Stage.follow
  cases hlocal : state.2.localId with
  | none => exact ⟨_, rfl⟩
  | some id =>
      simp only [state.2.slot_eq_ok (h.localId id hlocal), bind, Except.bind]
      exact ⟨_, rfl⟩

end Slotted

section

variable [RandomSource ρ]

theorem players_session (config : DemoConfig) (random : ρ) (calls : List Call) :
    (session config random calls).1.players = max 2 (min config.players slotCount) := by
  refine session_induction config random
    (fun state => state.1.players = max 2 (min config.players slotCount)) rfl
    (fun state call h => ?_) calls
  match call with
  | .populate =>
      obtain ⟨random, slots, hstart, -⟩ := populate_eq state.1
      show state.1.populate.1.players = _
      rw [hstart]
      exact h
  | .play (.step seconds keys) =>
      obtain ⟨random, motions, nextTeamSwap, slots, hstep⟩ := step_frame keys seconds state
      show (state.1.step state.2 seconds keys).1.players = _
      rw [hstep]
      exact h
  | .play .swap => exact h

/-- Whatever is called on a new simulation, and in which order, no entry is looked up that is not
there and no number is drawn from an empty range. There are at least two players and at most as many
as slots, each of them has a motion, and every id is that of a slot. So the data of a plate can be
worked out for every slot, plates can be drawn, and the camera can follow. -/
theorem calls_never_fail (config : DemoConfig) (random : ρ) (calls : List Call)
    {σ : Type} [Canvas σ] :
    let state := session config random calls
    Guarded.session config random calls = .ok (seen state) ∧
    (seen state).1.players = max 2 (min config.players slotCount) ∧
    (seen state).1.motions.length = (seen state).1.players ∧
    2 ≤ (seen state).1.players ∧ (seen state).1.players ≤ slotCount ∧
    (∀ id, state.2.localId = some id → id < slotCount) ∧
    (∀ seat id, state.2.localIds.get seat = some id → id < slotCount) ∧
    (∀ id, state.2.spectating.id = some id → id < slotCount) ∧
    (∀ id, (seen state).1.spectatorId = some id → id < slotCount) ∧
    (∀ (settings : PlateSettings) (slot : Fin slotCount) (position : Point) (alpha : Float32)
      (force : Bool), ∃ data, state.2.plateData settings slot position alpha force = .ok data) ∧
    (∀ (plates : Plates) (settings : PlateSettings) (canvas : σ),
      ∃ drawn, plates.draw state.2 settings canvas = .ok drawn) ∧
    ∀ (stage : Stage) (elapsed : Float32),
      ∃ followed, { stage with game := state.2 }.follow elapsed = .ok followed := by
  intro state
  have h := Slotted.session config random calls
  have hplayers := state.1.players_le
  refine ⟨guarded_session config random calls, players_session config random calls,
    length_guarded_motions state.1, state.1.two_le_players, hplayers, h.localId, h.localIds,
    fun id hid => ?_, fun id hid => ?_, fun settings slot position alpha force => ?_, h.exists_draw,
    h.exists_follow⟩
  · rw [h.unwatched] at hid
    cases hid
  · have hlt : id < state.1.players := spectatorId_lt hid
    omega
  · exact Game.exists_plateData h.localId h.watchedId_eq_none settings slot position alpha force

end

end Demo
end Overhead
