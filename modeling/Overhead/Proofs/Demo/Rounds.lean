import Mathlib.Data.List.FinRange
import Mathlib.Data.List.Induction
import Mathlib.Data.List.TakeWhile
import Overhead.Demo
import Overhead.Proofs.Game.Slots

/-!
# Rounds of the simulated game

What a start, a round and a swap of the controlled player do to one slot. All of them go through the
players one after another, so each is told by what happens at the turn of a slot and by what the
turns of the others leave alone.
-/

namespace Overhead

theorem Seat.eq_partner_of_ne {seat other : Seat} (h : seat ≠ other) : seat = other.partner := by
  cases seat <;> cases other <;> first | rfl | exact absurd rfl h

namespace Slot

def withTeam (player : Slot) (team : UInt32) : Slot :=
  { player with client := { player.client with team := team } }

theorem withTeam_same (player : Slot) : player.withTeam player.client.team = player := rfl

def marked (player : Slot) (isLocal : Bool) : Slot :=
  { player with info := player.info.map fun info => { info with isLocal := isLocal } }

@[simp] theorem marked_marked (player : Slot) (isLocal other : Bool) :
    (player.marked isLocal).marked other = player.marked other := by
  simp [marked, Function.comp_def]

theorem marked_of_info {player : Slot} {isLocal : Bool}
    (h : player.info = some { isLocal := isLocal }) : player.marked isLocal = player := by
  unfold marked
  rw [h, Option.map_some, ← h]

def moveTo (player : Slot) (position : Point) (direction jumped : Int32) : Slot :=
  { player with
    client := { player.client with position := position }
    character := { player.character with direction := direction, jumped := jumped } }

end Slot

/-- What decides a player's move when its turn comes. -/
structure Turn where
  motion : Motion
  keys : Keys
  seconds : Float32
  player : Slot

namespace Turn

def moved (turn : Turn) : Motion × Slot :=
  turn.motion.step turn.keys turn.seconds turn.player

end Turn

namespace Motion

variable (motion : Motion) (keys : Keys) (seconds : Float32) (player : Slot)

theorem step_eq :
    motion.step keys seconds player =
      let jumped := if motion.jumps keys then player.character.jumped ||| 1
        else player.character.jumped
      let moved := (motion.steer keys).fall seconds
      let position := moved.target player.client.position seconds
      if standing ≤ position.y then
        (moved.land, player.moveTo { position with y := standing } keys.direction (jumped &&& ~~~1))
      else (moved, player.moveTo position keys.direction jumped) := rfl

theorem exists_step :
    ∃ position jumped, (motion.step keys seconds player).2 =
      player.moveTo position keys.direction jumped := by
  simp only [step_eq]
  generalize (if motion.jumps keys then player.character.jumped ||| 1
    else player.character.jumped) = jumped
  split
  · exact ⟨_, _, rfl⟩
  · exact ⟨_, _, rfl⟩

end Motion

namespace Demo

variable {ρ : Type}

theorem mem_roster {demo : Demo ρ} {slot : Fin slotCount} :
    slot ∈ demo.roster ↔ slot.val < demo.players := by
  unfold roster
  constructor
  · intro h
    obtain ⟨k, hk, rfl⟩ := List.mem_take_iff_getElem.mp h
    simp only [List.getElem_finRange, Fin.val_cast]
    omega
  · intro h
    refine List.mem_take_iff_getElem.mpr ⟨slot, ?_, ?_⟩
    · simp only [List.length_finRange]
      omega
    · simp

theorem roster_nodup (demo : Demo ρ) : demo.roster.Nodup :=
  (List.nodup_finRange slotCount).sublist (List.take_sublist _ _)

/-! ## The start -/

theorem four_le_of_spectatorId {demo : Demo ρ} {id : Nat} (h : demo.spectatorId = some id) :
    4 ≤ id := by
  unfold spectatorId at h
  split at h
  · obtain rfl := Option.some.inj h
    omega
  · cases h

section

variable [RandomSource ρ]

theorem join_eq (demo : Demo ρ) (game : Game) (slot : Fin slotCount) :
    ∃ random hue rank, join (demo, game) slot =
      ({ demo with random := random },
        { game with slots := game.slots.set slot (demo.playerOf slot hue rank) slot.isLt }) :=
  ⟨_, _, _, rfl⟩

theorem foldl_join (slots : List (Fin slotCount)) (demo : Demo ρ) (game : Game) :
    ∃ random joined, slots.foldl join (demo, game) =
        ({ demo with random := random }, { game with slots := joined }) ∧
      ∀ slot : Fin slotCount,
        (slot ∈ slots → ∃ hue rank, joined.get slot = demo.playerOf slot hue rank) ∧
        (slot ∉ slots → joined.get slot = game.slots.get slot) := by
  induction slots generalizing demo game with
  | nil => exact ⟨demo.random, game.slots, rfl, by simp⟩
  | cons first slots ih =>
      obtain ⟨random, hue, rank, hfirst⟩ := join_eq demo game first
      obtain ⟨random', joined, hrest, hslots⟩ := ih { demo with random := random }
        { game with slots := game.slots.set first (demo.playerOf first hue rank) }
      refine ⟨random', joined, ?_, fun slot => ?_⟩
      · rw [List.foldl_cons, hfirst, hrest]
      by_cases hlater : slot ∈ slots
      · obtain ⟨hue', rank', hplayer⟩ := (hslots slot).1 hlater
        exact ⟨fun _ => ⟨hue', rank', hplayer⟩, by simp [hlater]⟩
      · have hkept := (hslots slot).2 hlater
        rw [get_set] at hkept
        by_cases hown : first = slot
        · subst hown
          rw [if_pos rfl] at hkept
          exact ⟨fun _ => ⟨hue, rank, hkept⟩, by simp⟩
        · rw [if_neg hown] at hkept
          exact ⟨by simp [hlater, Ne.symm hown], fun _ => hkept⟩

theorem populate_eq (demo : Demo ρ) :
    ∃ random slots, demo.populate =
        ({ demo with
            random := random
            motions := demo.motions.map fun motion => { motion with grounded := true } },
          { demo.emptyGame with slots := slots }) ∧
      ∀ slot : Fin slotCount,
        (slot.val < demo.players → ∃ hue rank, slots.get slot = demo.playerOf slot hue rank) ∧
        (demo.players ≤ slot.val → slots.get slot = {}) := by
  obtain ⟨random, slots, hjoined, hslots⟩ := foldl_join demo.roster demo demo.emptyGame
  refine ⟨random, slots, ?_, fun slot => ⟨fun h => ?_, fun h => ?_⟩⟩
  · simp only [populate, hjoined]
  · exact (hslots slot).1 (mem_roster.mpr h)
  · have hout : slot ∉ demo.roster := by
      rw [mem_roster]
      omega
    rw [(hslots slot).2 hout]
    exact Vector.getElem_replicate slot.isLt

end

/-! ## Control goes over to the other player -/

theorem foldl_markLocal (localId : Option Nat) (slots : List (Fin slotCount)) (game : Game) :
    ∃ marked, slots.foldl (markLocal localId) game = { game with slots := marked } ∧
      ∀ slot : Fin slotCount, marked.get slot =
        if slot ∈ slots then (game.slots.get slot).marked (localId == some slot.val)
        else game.slots.get slot := by
  induction slots generalizing game with
  | nil => exact ⟨game.slots, rfl, by simp⟩
  | cons first slots ih =>
      obtain ⟨marked, hrest, hslots⟩ := ih (markLocal localId game first)
      refine ⟨marked, by rw [List.foldl_cons, hrest]; rfl, fun slot => ?_⟩
      have hfirst : (markLocal localId game first).slots.get slot =
          if first = slot then (game.slots.get slot).marked (localId == some slot.val)
          else game.slots.get slot := by
        simp only [markLocal, get_set]
        split
        · next hown =>
            subst hown
            rfl
        · rfl
      rw [hslots, hfirst]
      by_cases hown : first = slot
      · by_cases hlater : slot ∈ slots <;> simp [hown, hlater]
      · by_cases hlater : slot ∈ slots <;> simp [hown, Ne.symm hown, hlater]

theorem swapDummy_eq (demo : Demo ρ) (game : Game) :
    ∃ slots, demo.swapDummy game =
        { game with
          activeDummy := if game.activeSeat.partner = .main then 0 else 1
          localId := game.localIds.get game.activeSeat.partner
          slots := slots } ∧
      ∀ slot : Fin slotCount, slots.get slot =
        if slot.val < demo.players then
          (game.slots.get slot).marked
            (game.localIds.get game.activeSeat.partner == some slot.val)
        else game.slots.get slot := by
  obtain ⟨slots, hmarked, hslots⟩ := foldl_markLocal
    (game.localIds.get game.activeSeat.partner) demo.roster
    { game with
      activeDummy := if game.activeSeat.partner = .main then 0 else 1
      localId := game.localIds.get game.activeSeat.partner }
  refine ⟨slots, hmarked, fun slot => ?_⟩
  rw [hslots slot]
  simp only [mem_roster]

/-! ## Turns -/

def tee (state : Demo ρ × Game) (slot : Fin slotCount) : Motion × Slot :=
  (state.1.motions.get slot, state.2.slots.get slot)

/-- Random numbers were drawn, and at most the motion of this slot has changed. It stands on the
ground if it did before. -/
def OnlyMoves (slot : Fin slotCount) (demo later : Demo ρ) : Prop :=
  ∃ random motions, later = { demo with random := random, motions := motions } ∧
    (motions.get slot).grounded = (demo.motions.get slot).grounded ∧
    ∀ other, slot ≠ other → motions.get other = demo.motions.get other

theorem onlyMoves_refl (demo : Demo ρ) (slot : Fin slotCount) : OnlyMoves slot demo demo :=
  ⟨demo.random, demo.motions, rfl, rfl, fun _ _ => rfl⟩

section

variable [RandomSource ρ] (keys : Keys) (seconds : Float32)

theorem onlyMoves_botKeys (demo : Demo ρ) (slot : Fin slotCount) :
    OnlyMoves slot demo (demo.botKeys slot).2 := by
  unfold botKeys
  by_cases hdue : demo.motions[slot].nextDecision ≤ demo.time
  · simp only [if_pos hdue]
    refine ⟨_, _, rfl, ?_, fun other hother => ?_⟩
    · rw [get_set, if_pos rfl]
      rfl
    · rw [get_set, if_neg hother]
  · simp only [if_neg hdue]
    exact onlyMoves_refl demo slot

theorem onlyMoves_keysOf (demo : Demo ρ) (game : Game) (slot : Fin slotCount) :
    OnlyMoves slot demo (demo.keysOf game keys slot).2 := by
  simp only [keysOf]
  split
  · exact onlyMoves_refl demo slot
  split
  · exact onlyMoves_refl demo slot
  · exact onlyMoves_botKeys demo slot

theorem fst_keysOf (demo : Demo ρ) {game : Game} {seat : Seat} {slot : Fin slotCount}
    (hseat : game.localIds.get seat = some slot.val)
    (hother : game.localIds.get seat.partner ≠ some slot.val) :
    (demo.keysOf game keys slot).1 =
      if seat = game.activeSeat then keys else game.inputs.get seat := by
  unfold keysOf
  by_cases hactive : seat = game.activeSeat
  · subst hactive
    rw [if_pos hseat, if_pos rfl]
  · have hpartner := Seat.eq_partner_of_ne hactive
    subst hpartner
    rw [Seat.partner_partner] at hother
    simp only [if_neg hother, if_pos hseat, if_neg hactive]

/-- The move of a slot in a state where its turn has come. -/
def turnOf (state : Demo ρ × Game) (slot : Fin slotCount) : Turn :=
  let (keys, demo) := state.1.keysOf state.2 keys slot
  { motion := demo.motions.get slot
    keys := keys
    seconds := seconds
    player := state.2.slots.get slot }

theorem stepPlayer_frame (state : Demo ρ × Game) (slot : Fin slotCount) :
    ∃ random motions slots, stepPlayer keys seconds state slot =
      ({ state.1 with random := random, motions := motions },
        { state.2 with slots := slots }) := by
  obtain ⟨random, motions, hkeys, -⟩ := onlyMoves_keysOf keys state.1 state.2 slot
  simp only [stepPlayer, hkeys]
  split
  · exact ⟨_, _, _, rfl⟩
  · exact ⟨state.1.random, state.1.motions, state.2.slots, rfl⟩

theorem tee_stepPlayer_same (state : Demo ρ × Game) (slot : Fin slotCount) :
    tee (stepPlayer keys seconds state slot) slot =
      if (state.2.slots.get slot).character.active then (turnOf keys seconds state slot).moved
      else tee state slot := by
  have hactive : state.2.slots[slot].character.active =
      (state.2.slots.get slot).character.active := rfl
  simp only [stepPlayer, hactive]
  split
  · simp only [tee, get_set, if_pos]
    rfl
  · rfl

theorem tee_stepPlayer_other (state : Demo ρ × Game) {slot other : Fin slotCount}
    (h : slot ≠ other) : tee (stepPlayer keys seconds state slot) other = tee state other := by
  obtain ⟨random, motions, hkeys, -, hmotions⟩ := onlyMoves_keysOf keys state.1 state.2 slot
  simp only [stepPlayer]
  split
  · simp only [tee, hkeys, get_set, if_neg h, hmotions other h]
  · rfl

theorem foldl_stepPlayer_frame (slots : List (Fin slotCount)) (state : Demo ρ × Game) :
    ∃ random motions players, slots.foldl (stepPlayer keys seconds) state =
      ({ state.1 with random := random, motions := motions },
        { state.2 with slots := players }) := by
  induction slots generalizing state with
  | nil => exact ⟨state.1.random, state.1.motions, state.2.slots, rfl⟩
  | cons first slots ih =>
      obtain ⟨random, motions, players, hfirst⟩ := stepPlayer_frame keys seconds state first
      rw [List.foldl_cons, hfirst]
      exact ih _

theorem tee_foldl_other {slots : List (Fin slotCount)} {slot : Fin slotCount} (h : slot ∉ slots)
    (state : Demo ρ × Game) :
    tee (slots.foldl (stepPlayer keys seconds) state) slot = tee state slot := by
  induction slots generalizing state with
  | nil => rfl
  | cons first slots ih =>
      rw [List.mem_cons, not_or] at h
      rw [List.foldl_cons, ih h.2, tee_stepPlayer_other keys seconds state (Ne.symm h.1)]

/-- The state when the turn of a slot comes: the ones before it have moved. -/
def untilTurn (slots : List (Fin slotCount)) (state : Demo ρ × Game) (slot : Fin slotCount) :
    Demo ρ × Game :=
  (slots.takeWhile (· ≠ slot)).foldl (stepPlayer keys seconds) state

theorem tee_untilTurn (slots : List (Fin slotCount)) (state : Demo ρ × Game)
    (slot : Fin slotCount) : tee (untilTurn keys seconds slots state slot) slot = tee state slot := by
  apply tee_foldl_other
  intro hmem
  simpa using List.mem_takeWhile_imp hmem

theorem tee_foldl_own {slots : List (Fin slotCount)} {slot : Fin slotCount} (hnodup : slots.Nodup)
    (hmem : slot ∈ slots) (state : Demo ρ × Game) :
    tee (slots.foldl (stepPlayer keys seconds) state) slot =
      if (state.2.slots.get slot).character.active then
        (turnOf keys seconds (untilTurn keys seconds slots state slot) slot).moved
      else tee state slot := by
  induction slots generalizing state with
  | nil => cases hmem
  | cons first slots ih =>
      rw [List.nodup_cons] at hnodup
      rw [List.foldl_cons]
      by_cases hfirst : first = slot
      · subst hfirst
        rw [tee_foldl_other keys seconds hnodup.1, tee_stepPlayer_same]
        simp [untilTurn]
      · have hlater : slot ∈ slots := by
          rcases List.mem_cons.mp hmem with rfl | hlater
          · exact absurd rfl hfirst
          · exact hlater
        have hkept := tee_stepPlayer_other keys seconds state hfirst
        have hplayer : (stepPlayer keys seconds state first).2.slots.get slot =
            state.2.slots.get slot := congrArg Prod.snd hkept
        have huntil : untilTurn keys seconds (first :: slots) state slot =
            untilTurn keys seconds slots (stepPlayer keys seconds state first) slot := by
          simp [untilTurn, hfirst]
        rw [ih hnodup.2 hlater, hplayer, hkept, huntil]

/-! ## A round -/

/-- A round before anybody has moved. -/
def begun (state : Demo ρ × Game) : Demo ρ × Game :=
  ({ state.1 with time := state.1.time + seconds },
    { state.2 with inputs := state.2.inputs.set keys state.2.activeSeat })

/-- The move of a slot in the next round. -/
def nextTurn (state : Demo ρ × Game) (slot : Fin slotCount) : Turn :=
  turnOf keys seconds (untilTurn keys seconds state.1.roster (begun keys seconds state) slot) slot

theorem player_nextTurn (state : Demo ρ × Game) (slot : Fin slotCount) :
    (nextTurn keys seconds state slot).player = state.2.slots.get slot :=
  congrArg Prod.snd (tee_untilTurn keys seconds state.1.roster (begun keys seconds state) slot)

theorem grounded_nextTurn (state : Demo ρ × Game) (slot : Fin slotCount) :
    (nextTurn keys seconds state slot).motion.grounded = (state.1.motions.get slot).grounded := by
  have huntil := tee_untilTurn keys seconds state.1.roster (begun keys seconds state) slot
  have hmotion : (untilTurn keys seconds state.1.roster (begun keys seconds state)
      slot).1.motions.get slot = state.1.motions.get slot := congrArg Prod.fst huntil
  rw [← hmotion]
  obtain ⟨random, motions, hkeys, hgrounded, -⟩ := onlyMoves_keysOf keys
    (untilTurn keys seconds state.1.roster (begun keys seconds state) slot).1
    (untilTurn keys seconds state.1.roster (begun keys seconds state) slot).2 slot
  rw [← hgrounded]
  simp only [nextTurn, turnOf, hkeys]

/-- The two players of this machine move as the stored keys say. -/
theorem keys_nextTurn (state : Demo ρ × Game) {seat : Seat} {slot : Fin slotCount}
    (hseat : state.2.localIds.get seat = some slot.val)
    (hother : state.2.localIds.get seat.partner ≠ some slot.val) :
    (nextTurn keys seconds state slot).keys =
      (state.2.inputs.set keys state.2.activeSeat).get seat := by
  obtain ⟨random, motions, players, huntil⟩ := foldl_stepPlayer_frame keys seconds
    (state.1.roster.takeWhile (· ≠ slot)) (begun keys seconds state)
  have hgiven : (nextTurn keys seconds state slot).keys =
      if seat = state.2.activeSeat then keys
      else (state.2.inputs.set keys state.2.activeSeat).get seat := by
    simp only [nextTurn, untilTurn, huntil]
    exact fst_keysOf keys _ hseat hother
  rw [hgiven]
  split
  · next hactive => rw [hactive, PerSeat.get_set_same]
  · rfl

theorem swapTeam_eq (demo : Demo ρ) (game : Game) :
    ∃ random nextTeamSwap slots, demo.swapTeam game =
        ({ demo with random := random, nextTeamSwap := nextTeamSwap },
          { game with slots := slots }) ∧
      ∀ slot, ∃ team, slots.get slot = (game.slots.get slot).withTeam team := by
  obtain ⟨slots, hmodified, hslots⟩ := game.modifySlot_eq
    (2 + (Random.belowWide (demo.players - 2) demo.random).1) (Slot.withTeam · (UInt32.ofNat
      (Random.below 4 (Random.belowWide (demo.players - 2) demo.random).2).1))
  refine ⟨_, _, slots, congrArg (Prod.mk _) hmodified, fun slot => ?_⟩
  rw [hslots slot]
  split
  · exact ⟨_, rfl⟩
  · exact ⟨_, (Slot.withTeam_same _).symm⟩

/-- A round is a turn for every player, and then somebody may change the team. -/
theorem step_eq (state : Demo ρ × Game) :
    ∃ random nextTeamSwap slots,
      let moved := state.1.roster.foldl (stepPlayer keys seconds) (begun keys seconds state)
      state.1.step state.2 seconds keys =
        ({ moved.1 with random := random, nextTeamSwap := nextTeamSwap },
          { moved.2 with slots := slots }) ∧
      ∀ slot, ∃ team, slots.get slot = (moved.2.slots.get slot).withTeam team := by
  have hstep : state.1.step state.2 seconds keys =
      let moved := state.1.roster.foldl (stepPlayer keys seconds) (begun keys seconds state)
      if moved.1.isTeamSwapDue then moved.1.swapTeam moved.2 else moved := rfl
  rw [hstep]
  generalize state.1.roster.foldl (stepPlayer keys seconds) (begun keys seconds state) = moved
  by_cases hdue : moved.1.isTeamSwapDue = true
  · simp only [if_pos hdue]
    exact swapTeam_eq moved.1 moved.2
  · simp only [if_neg hdue]
    exact ⟨moved.1.random, moved.1.nextTeamSwap, moved.2.slots, rfl,
      fun slot => ⟨_, (Slot.withTeam_same _).symm⟩⟩

theorem step_frame (state : Demo ρ × Game) :
    ∃ random motions nextTeamSwap slots, state.1.step state.2 seconds keys =
      ({ state.1 with
          random := random
          motions := motions
          time := state.1.time + seconds
          nextTeamSwap := nextTeamSwap },
        { state.2 with
          inputs := state.2.inputs.set keys state.2.activeSeat
          slots := slots }) := by
  obtain ⟨random, nextTeamSwap, slots, hstep, -⟩ := step_eq keys seconds state
  obtain ⟨random', motions, players, hmoved⟩ := foldl_stepPlayer_frame keys seconds
    state.1.roster (begun keys seconds state)
  rw [hstep, hmoved]
  exact ⟨_, _, _, _, rfl⟩

theorem tee_step (state : Demo ρ × Game) (slot : Fin slotCount) :
    ∃ team, tee (state.1.step state.2 seconds keys) slot =
      let moved :=
        if slot.val < state.1.players ∧ (state.2.slots.get slot).character.active = true then
          (nextTurn keys seconds state slot).moved
        else tee state slot
      (moved.1, moved.2.withTeam team) := by
  obtain ⟨random, nextTeamSwap, slots, hstep, hslots⟩ := step_eq keys seconds state
  obtain ⟨team, hteam⟩ := hslots slot
  refine ⟨team, ?_⟩
  have hmoved : tee (state.1.roster.foldl (stepPlayer keys seconds) (begun keys seconds state))
      slot = if slot.val < state.1.players ∧ (state.2.slots.get slot).character.active = true then
          (nextTurn keys seconds state slot).moved
        else tee state slot := by
    by_cases hslot : slot.val < state.1.players
    · rw [tee_foldl_own keys seconds (roster_nodup _) (mem_roster.mpr hslot)]
      simp only [hslot, true_and]
      rfl
    · rw [tee_foldl_other keys seconds (fun hmem => hslot (mem_roster.mp hmem))]
      simp only [hslot, false_and, if_false]
      rfl
  rw [← hmoved]
  simp only [tee, hstep, hteam]

/-- A round moves the players that are in the world, and may move anybody to another team. -/
theorem player_step (state : Demo ρ × Game) (slot : Fin slotCount) :
    let player := state.2.slots.get slot
    ∃ team,
      (slot.val < state.1.players ∧ player.character.active = true → ∃ position jumped,
        (state.1.step state.2 seconds keys).2.slots.get slot =
          (player.moveTo position (nextTurn keys seconds state slot).keys.direction
            jumped).withTeam team) ∧
      (¬ (slot.val < state.1.players ∧ player.character.active = true) →
        (state.1.step state.2 seconds keys).2.slots.get slot = player.withTeam team) := by
  obtain ⟨team, htee⟩ := tee_step keys seconds state slot
  have hplayer := congrArg Prod.snd htee
  simp only [tee] at hplayer
  refine ⟨team, fun hmoves => ?_, fun hrests => ?_⟩
  · rw [if_pos hmoves] at hplayer
    obtain ⟨position, jumped, hmoved⟩ := Motion.exists_step
      (nextTurn keys seconds state slot).motion (nextTurn keys seconds state slot).keys
      (nextTurn keys seconds state slot).seconds (nextTurn keys seconds state slot).player
    rw [Turn.moved, hmoved, player_nextTurn] at hplayer
    exact ⟨position, jumped, hplayer⟩
  · rwa [if_neg hrests] at hplayer

end

/-! ## Runs -/

/-- What happens to a game once it was started. -/
inductive Action where
  | step (seconds : Float32) (keys : Keys)
  | swap

section

variable [RandomSource ρ]

def act (state : Demo ρ × Game) : Action → Demo ρ × Game
  | .step seconds keys => state.1.step state.2 seconds keys
  | .swap => (state.1, state.1.swapDummy state.2)

def play (config : DemoConfig) (random : ρ) (actions : List Action) : Demo ρ × Game :=
  actions.foldl act (Demo.new config random).populate

variable (config : DemoConfig) (random : ρ)

theorem play_concat (actions : List Action) (action : Action) :
    play config random (actions ++ [action]) = act (play config random actions) action := by
  simp [play]

/-- What holds at the start and is kept by every action holds for ever. -/
theorem play_induction (Holds : Demo ρ × Game → Prop)
    (start : Holds (Demo.new config random).populate)
    (kept : ∀ state action, Holds state → Holds (act state action)) (actions : List Action) :
    Holds (play config random actions) := by
  induction actions using List.reverseRecOn with
  | nil => exact start
  | append_singleton actions action ih =>
      rw [play_concat]
      exact kept _ _ ih

end

end Demo
end Overhead
