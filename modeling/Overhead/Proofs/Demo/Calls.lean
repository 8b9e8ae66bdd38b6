import Mathlib.Tactic.IntervalCases
import Overhead.Proofs.Demo.Rounds
import Overhead.Proofs.Random.Below

/-!
# What a round may change

A simulation can be started, played and swapped in any order, also before it was started and again
after that. A round moves the players in the world and puts at most one player into another team,
never one of the two players of this machine. So these two stay in the first team, and few other
teams ever come up.
-/

namespace Overhead
namespace Demo

variable {ρ : Type}

/-! ## Calls -/

inductive Call where
  | populate
  | play (action : Action)

section

variable [RandomSource ρ]

def answer (state : Demo ρ × Game) : Call → Demo ρ × Game
  | .populate => state.1.populate
  | .play action => act state action

def session (config : DemoConfig) (random : ρ) (calls : List Call) : Demo ρ × Game :=
  calls.foldl answer (Demo.new config random, {})

variable (config : DemoConfig) (random : ρ)

theorem session_concat (calls : List Call) (call : Call) :
    session config random (calls ++ [call]) = answer (session config random calls) call := by
  simp [session]

theorem session_induction (Holds : Demo ρ × Game → Prop)
    (start : Holds (Demo.new config random, {}))
    (kept : ∀ state call, Holds state → Holds (answer state call)) (calls : List Call) :
    Holds (session config random calls) := by
  induction calls using List.reverseRecOn with
  | nil => exact start
  | append_singleton calls call ih =>
      rw [session_concat]
      exact kept _ _ ih

end

/-! ## Teams in a round -/

def teamOf (game : Game) (slot : Fin slotCount) : UInt32 :=
  (game.slots.get slot).client.team

theorem teamOf_playerOf (demo : Demo ρ) (id : Nat) (hue : Float32) (rank : Int32) :
    (demo.playerOf id hue rank).client.team ∈ ([0, 2, 4, 6] : List UInt32) ∧
      (id < 2 → (demo.playerOf id hue rank).client.team = 0) := by
  have hteam : (demo.playerOf id hue rank).client.team =
      if id < 2 then 0 else UInt32.ofNat (id % 4 * 2) := rfl
  have hfour : id % 4 < 4 := Nat.mod_lt _ (by omega)
  rw [hteam]
  refine ⟨?_, fun h => if_pos h⟩
  split
  · decide
  · generalize id % 4 = rest at hfour
    interval_cases rest <;> decide

theorem ofNat_mem_of_lt_four {n : Nat} (h : n < 4) :
    UInt32.ofNat n ∈ ([0, 1, 2, 3] : List UInt32) := by
  interval_cases n <;> decide

theorem isTeamSwapDue_iff (demo : Demo ρ) :
    demo.isTeamSwapDue = true ↔ demo.nextTeamSwap ≤ demo.time ∧ 2 < demo.players := by
  rw [isTeamSwapDue, Bool.and_eq_true]
  exact and_congr decide_eq_true_iff decide_eq_true_iff

section

variable [RandomSource ρ] (keys : Keys) (seconds : Float32)

theorem teamOf_stepPlayer (state : Demo ρ × Game) (slot other : Fin slotCount) :
    teamOf (stepPlayer keys seconds state slot).2 other = teamOf state.2 other := by
  by_cases hother : slot = other
  · subst hother
    have htee := congrArg Prod.snd (tee_stepPlayer_same keys seconds state slot)
    have hplayer : (stepPlayer keys seconds state slot).2.slots.get slot = _ := htee
    rw [teamOf, hplayer]
    split
    · obtain ⟨position, jumped, hmoved⟩ :=
        Motion.exists_step (turnOf keys seconds state slot).motion
          (turnOf keys seconds state slot).keys (turnOf keys seconds state slot).seconds
          (turnOf keys seconds state slot).player
      rw [Turn.moved, hmoved]
      rfl
    · rfl
  · have htee := congrArg Prod.snd (tee_stepPlayer_other keys seconds state hother)
    exact congrArg (fun player : Slot => player.client.team) htee

theorem teamOf_foldl (slots : List (Fin slotCount)) (state : Demo ρ × Game)
    (slot : Fin slotCount) :
    teamOf (slots.foldl (stepPlayer keys seconds) state).2 slot = teamOf state.2 slot := by
  induction slots generalizing state with
  | nil => rfl
  | cons first slots ih => rw [List.foldl_cons, ih, teamOf_stepPlayer]

/-- A round when everybody has had a turn. -/
def played (state : Demo ρ × Game) : Demo ρ × Game :=
  state.1.roster.foldl (stepPlayer keys seconds) (begun keys seconds state)

theorem step_eq_played (state : Demo ρ × Game) :
    state.1.step state.2 seconds keys =
      let moved := played keys seconds state
      if moved.1.isTeamSwapDue then moved.1.swapTeam moved.2 else moved := rfl

theorem played_frame (state : Demo ρ × Game) :
    ∃ random motions slots, played keys seconds state =
      ({ state.1 with
          random := random
          motions := motions
          time := state.1.time + seconds },
        { state.2 with
          inputs := state.2.inputs.set keys state.2.activeSeat
          slots := slots }) :=
  foldl_stepPlayer_frame keys seconds state.1.roster (begun keys seconds state)

theorem exists_draws_swapTeam (demo : Demo ρ) (game : Game) (h : 2 < demo.players) :
    ∃ offset team, offset < demo.players - 2 ∧ team < 4 ∧
      (demo.swapTeam game).2 =
        game.modifySlot (2 + offset) (Slot.withTeam · (UInt32.ofNat team)) :=
  ⟨_, _, Random.belowWide_lt (by omega) demo.random, Random.below_lt (by omega) _, rfl⟩

/-- Somebody beside the two players of this machine is put into one of the first four teams. -/
theorem exists_swapTeam (demo : Demo ρ) (game : Game) (h : 2 < demo.players) :
    ∃ moved : Fin slotCount, 2 ≤ moved.val ∧ moved.val < demo.players ∧
      teamOf (demo.swapTeam game).2 moved ∈ ([0, 1, 2, 3] : List UInt32) ∧
      ∀ slot, slot ≠ moved → teamOf (demo.swapTeam game).2 slot = teamOf game slot := by
  obtain ⟨offset, team, hoffset, hteam, hswap⟩ := exists_draws_swapTeam demo game h
  obtain ⟨slots, hmodified, hslots⟩ :=
    game.modifySlot_eq (2 + offset) (Slot.withTeam · (UInt32.ofNat team))
  have hid : 2 + offset < slotCount := by
    have hplayers := demo.players_le
    omega
  rw [hswap, hmodified]
  refine ⟨⟨2 + offset, hid⟩, Nat.le_add_right 2 offset, ?_, ?_, fun slot hslot => ?_⟩
  · show 2 + offset < demo.players
    omega
  · rw [teamOf, hslots, if_pos rfl]
    exact ofNat_mem_of_lt_four hteam
  · rw [teamOf, hslots, if_neg fun heq => hslot (Fin.ext heq)]
    rfl

/-- A round puts one player into another team if that is due, and nobody otherwise. -/
theorem exists_step_team (state : Demo ρ × Game) :
    let after := (state.1.step state.2 seconds keys).2
    ∃ moved : Option (Fin slotCount),
      (moved.isSome = true ↔
        state.1.nextTeamSwap ≤ state.1.time + seconds ∧ 2 < state.1.players) ∧
      ∀ slot,
        (moved = some slot → 2 ≤ slot.val ∧ slot.val < state.1.players ∧
          teamOf after slot ∈ ([0, 1, 2, 3] : List UInt32)) ∧
        (moved ≠ some slot → teamOf after slot = teamOf state.2 slot) := by
  intro after
  have hstep := step_eq_played keys seconds state
  have hteam : ∀ slot, teamOf (played keys seconds state).2 slot = teamOf state.2 slot :=
    teamOf_foldl keys seconds state.1.roster (begun keys seconds state)
  obtain ⟨random, motions, slots, hplayed⟩ := played_frame keys seconds state
  have hdue : (played keys seconds state).1.isTeamSwapDue = true ↔
      state.1.nextTeamSwap ≤ state.1.time + seconds ∧ 2 < state.1.players := by
    rw [isTeamSwapDue_iff, hplayed]
  have hplayers : (played keys seconds state).1.players = state.1.players := by
    rw [hplayed]
  generalize played keys seconds state = moved at hstep hteam hdue hplayers
  by_cases hnow : moved.1.isTeamSwapDue = true
  · obtain ⟨swapped, htwo, hlt, hin, hothers⟩ :=
      exists_swapTeam moved.1 moved.2 (by rw [hplayers]; exact (hdue.mp hnow).2)
    simp only [if_pos hnow] at hstep
    refine ⟨some swapped, ⟨fun _ => hdue.mp hnow, fun _ => rfl⟩,
      fun slot => ⟨fun hslot => ?_, fun hslot => ?_⟩⟩
    · obtain rfl := Option.some.inj hslot
      exact ⟨htwo, by omega, by simpa only [after, hstep] using hin⟩
    · have hother : slot ≠ swapped := fun heq => hslot (congrArg some heq.symm)
      have hkept := hothers slot hother
      simp only [after, hstep, hkept]
      exact hteam slot
  · simp only [if_neg hnow] at hstep
    refine ⟨none, ⟨fun hsome => ?_, fun hmet => absurd (hdue.mpr hmet) hnow⟩,
      fun slot => ⟨fun hslot => ?_, fun _ => ?_⟩⟩
    · cases hsome
    · cases hslot
    · simp only [after, hstep]
      exact hteam slot

end

/-! ## Teams in a session -/

/-- The first two players are in the first team, so is everybody if there are no others, and all
teams are known. -/
structure Teamed (state : Demo ρ × Game) : Prop where
  first : ∀ slot : Fin slotCount, slot.val < 2 → teamOf state.2 slot = 0
  known : ∀ slot, teamOf state.2 slot ∈ ([0, 1, 2, 3, 4, 6] : List UInt32)
  alone : state.1.players = 2 → ∀ slot, teamOf state.2 slot = 0

namespace Teamed

variable {state : Demo ρ × Game}

theorem new (config : DemoConfig) (random : ρ) : Teamed (Demo.new config random, {}) := by
  have hteam : ∀ slot, teamOf {} slot = 0 := fun slot =>
    congrArg (fun player : Slot => player.client.team) (Vector.getElem_replicate slot.isLt)
  exact ⟨fun slot _ => hteam slot, fun slot => by rw [hteam]; decide, fun _ => hteam⟩

theorem swap (h : Teamed state) : Teamed (state.1, state.1.swapDummy state.2) := by
  obtain ⟨slots, hswap, hslots⟩ := swapDummy_eq state.1 state.2
  have hteam : ∀ slot, teamOf (state.1.swapDummy state.2) slot = teamOf state.2 slot := by
    intro slot
    rw [hswap, teamOf, hslots slot]
    split <;> rfl
  constructor
  · intro slot hslot
    rw [hteam]
    exact h.first slot hslot
  · intro slot
    rw [hteam]
    exact h.known slot
  · intro htwo slot
    rw [hteam]
    exact h.alone htwo slot

section

variable [RandomSource ρ]

theorem populate (demo : Demo ρ) : Teamed demo.populate := by
  obtain ⟨random, slots, hstart, hslots⟩ := populate_eq demo
  rw [hstart]
  have hteam : ∀ slot : Fin slotCount,
      (slots.get slot).client.team ∈ ([0, 2, 4, 6] : List UInt32) ∧
        (slot.val < 2 ∨ demo.players ≤ slot.val → (slots.get slot).client.team = 0) := by
    intro slot
    by_cases hslot : slot.val < demo.players
    · obtain ⟨hue, rank, hplayer⟩ := (hslots slot).1 hslot
      obtain ⟨hin, hfirst⟩ := teamOf_playerOf demo slot hue rank
      rw [hplayer]
      exact ⟨hin, fun hcase => hfirst (by omega)⟩
    · rw [(hslots slot).2 (by omega)]
      exact ⟨by decide, fun _ => rfl⟩
  constructor
  · exact fun slot hslot => (hteam slot).2 (.inl hslot)
  · have hknown : ∀ team ∈ ([0, 2, 4, 6] : List UInt32),
        team ∈ ([0, 1, 2, 3, 4, 6] : List UInt32) := by simp
    exact fun slot => hknown _ (hteam slot).1
  · intro htwo slot
    have hplayers : demo.players = 2 := htwo
    exact (hteam slot).2 (by omega)

theorem step (h : Teamed state) (seconds : Float32) (keys : Keys) :
    Teamed (state.1.step state.2 seconds keys) := by
  obtain ⟨moved, hmoved, hslots⟩ := exists_step_team keys seconds state
  obtain ⟨random, motions, nextTeamSwap, slots, hstep⟩ := step_frame keys seconds state
  have hplayers : (state.1.step state.2 seconds keys).1.players = state.1.players := by
    rw [hstep]
  constructor
  · intro slot hslot
    by_cases hown : moved = some slot
    · have htwo := ((hslots slot).1 hown).1
      omega
    · rw [(hslots slot).2 hown]
      exact h.first slot hslot
  · intro slot
    by_cases hown : moved = some slot
    · have hknown : ∀ team ∈ ([0, 1, 2, 3] : List UInt32),
          team ∈ ([0, 1, 2, 3, 4, 6] : List UInt32) := by simp
      exact hknown _ ((hslots slot).1 hown).2.2
    · rw [(hslots slot).2 hown]
      exact h.known slot
  · intro htwo slot
    rw [hplayers] at htwo
    have hnobody : moved ≠ some slot := by
      rintro rfl
      have hmany := (hmoved.mp rfl).2
      omega
    rw [(hslots slot).2 hnobody]
    exact h.alone htwo slot

theorem session (config : DemoConfig) (random : ρ) (calls : List Call) :
    Teamed (session config random calls) := by
  refine session_induction config random Teamed (new config random)
    (fun state call h => ?_) calls
  match call with
  | .populate => exact populate state.1
  | .play (.step seconds keys) => exact h.step seconds keys
  | .play .swap => exact h.swap

end

end Teamed

/-- In a round the players that are in the world move, and at most one player gets into another
team, which is never one of the first two; all else stays what it was. So the first two players are
in the first team at any time, and so is everybody in a round of two. -/
theorem rounds_move_players_and_one_team [RandomSource ρ] (config : DemoConfig) (random : ρ)
    (calls : List Call) (seconds : Float32) (keys : Keys) :
    let demo := (Demo.session config random calls).1
    let game := (Demo.session config random calls).2
    let after := (demo.step game seconds keys).2
    after =
      { game with
        inputs := game.inputs.set keys game.activeSeat
        slots := after.slots } ∧
    (∀ slot : Fin slotCount,
      let player := game.slots.get slot
      let next := after.slots.get slot
      (slot.val < demo.players ∧ player.character.active = true →
        ∃ position direction jumped,
          next = (player.moveTo position direction jumped).withTeam next.client.team) ∧
      (¬ (slot.val < demo.players ∧ player.character.active = true) →
        next = player.withTeam next.client.team) ∧
      (demo.players ≤ slot.val → next = player)) ∧
    (∃ moved : Option (Fin slotCount),
      (moved.isSome = true ↔
        demo.nextTeamSwap ≤ demo.time + seconds ∧ 2 < demo.players) ∧
      ∀ slot,
        (moved = some slot → 2 ≤ slot.val ∧ slot.val < demo.players ∧
          (after.slots.get slot).client.team ∈ ([0, 1, 2, 3] : List UInt32)) ∧
        (moved ≠ some slot →
          (after.slots.get slot).client.team = (game.slots.get slot).client.team)) ∧
    ∀ slot : Fin slotCount,
      let team := (game.slots.get slot).client.team
      (slot.val < 2 → team = 0) ∧ team ∈ ([0, 1, 2, 3, 4, 6] : List UInt32) ∧
        (demo.players = 2 → team = 0) := by
  intro demo game after
  have hteamed := Teamed.session config random calls
  have hteam := exists_step_team keys seconds (Demo.session config random calls)
  have hplayer := player_step keys seconds (Demo.session config random calls)
  refine ⟨?_, fun slot => ?_, hteam,
    fun slot => ⟨hteamed.first slot, hteamed.known slot, fun h => hteamed.alone h slot⟩⟩
  · obtain ⟨random', motions, nextTeamSwap, slots, hstep⟩ :=
      step_frame keys seconds (Demo.session config random calls)
    have hafter : after = { game with
        inputs := game.inputs.set keys game.activeSeat
        slots := slots } := congrArg Prod.snd hstep
    rw [hafter]
  · intro player next
    obtain ⟨team, hmoved, hrested⟩ := hplayer slot
    have hkept : ¬ (slot.val < demo.players ∧ player.character.active = true) →
        next = player.withTeam next.client.team := by
      intro hrests
      have hnext : next = player.withTeam team := hrested hrests
      rw [hnext]
      rfl
    refine ⟨fun hmoves => ?_, hkept, fun hout => ?_⟩
    · obtain ⟨position, jumped, hplace⟩ := hmoved hmoves
      have hnext : next = (player.moveTo position _ jumped).withTeam team := hplace
      exact ⟨position, _, jumped, by rw [hnext]; rfl⟩
    · obtain ⟨moved, -, hslots⟩ := hteam
      have hnobody : moved ≠ some slot := by
        intro hown
        have hin : slot.val < demo.players := ((hslots slot).1 hown).2.1
        omega
      have hsame : next.client.team = player.client.team := (hslots slot).2 hnobody
      rw [hkept (by omega), hsame, Slot.withTeam_same]

end Demo
end Overhead
