import Overhead.Proofs.Demo.Rounds
import Overhead.Proofs.Single.Order

/-!
# How players move

A player never leaves the world to the side or downwards, and it has the mark of a jump exactly while
it is not grounded. Only the ground makes it grounded again, so between two jumps there is a landing.
-/

namespace Overhead

/-- The mark of a jump tells whether a player is off the ground. -/
def JumpMarked (tee : Motion × Slot) : Prop :=
  tee.2.character.jumped = if tee.1.grounded then 0 else 1

namespace Turn

variable (turn : Turn)

/-- Where the player would get to if there was no ground. -/
def arrival : Point :=
  ((turn.motion.steer turn.keys).fall turn.seconds).target turn.player.client.position turn.seconds

/-- The player is in the world and is pushed up by a jump. -/
def Leaps : Prop :=
  turn.player.character.active = true ∧ turn.motion.jumps turn.keys = true

/-- The player is in the world and gets to the ground. -/
def Lands : Prop :=
  turn.player.character.active = true ∧ Motion.standing ≤ turn.arrival.y

/-- The mark of a jump before the ground is looked for. -/
def jumped : Int32 :=
  if turn.motion.jumps turn.keys then turn.player.character.jumped ||| 1
  else turn.player.character.jumped

theorem moved_eq :
    turn.moved =
      if Motion.standing ≤ turn.arrival.y then
        (((turn.motion.steer turn.keys).fall turn.seconds).land,
          turn.player.moveTo { turn.arrival with y := Motion.standing } turn.keys.direction
            (turn.jumped &&& ~~~1))
      else
        ((turn.motion.steer turn.keys).fall turn.seconds,
          turn.player.moveTo turn.arrival turn.keys.direction turn.jumped) :=
  turn.motion.step_eq turn.keys turn.seconds turn.player

theorem active_moved : turn.moved.2.character.active = turn.player.character.active := by
  obtain ⟨position, jumped, hmoved⟩ :=
    turn.motion.exists_step turn.keys turn.seconds turn.player
  rw [moved, hmoved]
  rfl

theorem moved_inside :
    let position := turn.moved.2.client.position
    ¬ position.x < -Motion.halfWidth ∧ ¬ Motion.halfWidth < position.x ∧
      ¬ Motion.standing < position.y := by
  have hwest : ¬ turn.arrival.x < -Motion.halfWidth :=
    Single.not_clamp_lt (by decide) (by decide) _
  have heast : ¬ Motion.halfWidth < turn.arrival.x := Single.not_lt_clamp (by decide) _
  have hground : ¬ Motion.standing < Motion.standing := by decide
  rw [moved_eq]
  split
  · exact ⟨hwest, heast, hground⟩
  · next hair => exact ⟨hwest, heast, fun hbelow => hair (Single.le_of_lt hbelow)⟩

theorem grounded_moved :
    turn.moved.1.grounded = true ↔
      Motion.standing ≤ turn.arrival.y ∨
        turn.motion.grounded = true ∧ turn.motion.jumps turn.keys = false := by
  rw [moved_eq]
  split
  · next hground => simp [hground, Motion.land]
  · next hair => simp [hair, Motion.fall, Motion.steer]

theorem jumpMarked_moved (hmarked : JumpMarked (turn.motion, turn.player)) :
    JumpMarked turn.moved := by
  have hjumped : turn.jumped =
      if turn.motion.grounded && !turn.motion.jumps turn.keys then 0 else 1 := by
    unfold JumpMarked at hmarked
    unfold jumped Motion.jumps
    rw [hmarked]
    cases turn.motion.grounded <;> cases turn.keys.jump <;> rfl
  rw [moved_eq, hjumped]
  split
  · show (if _ then (0 : Int32) else 1) &&& ~~~1 = if true then 0 else 1
    split <;> rfl
  · rfl

end Turn

namespace Demo

variable {ρ : Type}

/-! ## The invariant -/

/-- Who is in the world has a true mark, and who is not is where it was at the start. -/
structure Moving (start : Slot) (players : Nat) (slot : Fin slotCount) (tee : Motion × Slot) :
    Prop where
  active : tee.2.character.active = start.character.active
  present : tee.2.character.active = true → slot.val < players
  marked : tee.2.character.active = true → JumpMarked tee
  resting : tee.2.character.active = false →
    tee.2.client.position = start.client.position ∧ tee.2.character = start.character

/-- Only what does not move has changed. -/
theorem Moving.congr {start : Slot} {players : Nat} {slot : Fin slotCount}
    {before after : Motion × Slot} (h : Moving start players slot before)
    (hmotion : after.1 = before.1) (hcharacter : after.2.character = before.2.character)
    (hposition : after.2.client.position = before.2.client.position) :
    Moving start players slot after := by
  constructor
  · rw [hcharacter]
    exact h.active
  · rw [hcharacter]
    exact h.present
  · unfold JumpMarked
    rw [hcharacter, hmotion]
    exact h.marked
  · rw [hcharacter, hposition]
    exact h.resting

section

variable [RandomSource ρ] {start : Slot} {state : Demo ρ × Game} {slot : Fin slotCount}

theorem moving_swap (h : Moving start state.1.players slot (tee state slot)) :
    Moving start state.1.players slot (tee (act state .swap) slot) := by
  obtain ⟨slots, hswap, hslots⟩ := swapDummy_eq state.1 state.2
  have hplayer : (act state .swap).2.slots.get slot = slots.get slot := by
    show (state.1.swapDummy state.2).slots.get slot = _
    rw [hswap]
  refine h.congr rfl ?_ ?_
  · simp only [tee, hplayer, hslots]
    split <;> rfl
  · simp only [tee, hplayer, hslots]
    split <;> rfl

theorem jumpMarked_nextTurn (hmarked : JumpMarked (tee state slot)) (keys : Keys)
    (seconds : Float32) :
    JumpMarked ((nextTurn keys seconds state slot).motion,
      (nextTurn keys seconds state slot).player) := by
  unfold JumpMarked
  dsimp only
  rw [player_nextTurn, grounded_nextTurn]
  exact hmarked

/-- A turn of a player in the world is how it really moves. -/
theorem tee_of_active (seconds : Float32) (keys : Keys) (hin : slot.val < state.1.players)
    (hactive : (state.2.slots.get slot).character.active = true) :
    ∃ team, tee (act state (.step seconds keys)) slot =
      ((nextTurn keys seconds state slot).moved.1,
        (nextTurn keys seconds state slot).moved.2.withTeam team) := by
  obtain ⟨team, htee⟩ := tee_step keys seconds state slot
  rw [if_pos ⟨hin, hactive⟩] at htee
  exact ⟨team, htee⟩

/-- Who is not in the world does not move. -/
theorem tee_of_inactive (seconds : Float32) (keys : Keys)
    (hrests : (state.2.slots.get slot).character.active = false) :
    ∃ team, tee (act state (.step seconds keys)) slot =
      ((tee state slot).1, (tee state slot).2.withTeam team) := by
  obtain ⟨team, htee⟩ := tee_step keys seconds state slot
  rw [if_neg (by simp [hrests])] at htee
  exact ⟨team, htee⟩

theorem moving_step (h : Moving start state.1.players slot (tee state slot)) (seconds : Float32)
    (keys : Keys) :
    Moving start state.1.players slot (tee (act state (.step seconds keys)) slot) := by
  cases hactive : (state.2.slots.get slot).character.active with
  | true =>
      have hin := h.present hactive
      obtain ⟨team, htee⟩ := tee_of_active seconds keys hin hactive
      rw [htee]
      have hactive' : (nextTurn keys seconds state slot).moved.2.character.active = true := by
        rw [Turn.active_moved, player_nextTurn, hactive]
      constructor
      · exact hactive'.trans (hactive.symm.trans h.active)
      · exact fun _ => hin
      · exact fun _ => Turn.jumpMarked_moved _ (jumpMarked_nextTurn (h.marked hactive) keys seconds)
      · intro hrests
        exact absurd (hactive'.symm.trans hrests) (by decide)
  | false =>
      obtain ⟨team, htee⟩ := tee_of_inactive seconds keys hactive
      rw [htee]
      exact h.congr rfl rfl rfl

theorem players_act (state : Demo ρ × Game) (action : Action) :
    (act state action).1.players = state.1.players := by
  cases action with
  | step seconds keys =>
      obtain ⟨random, motions, nextTeamSwap, slots, hstep⟩ := step_frame keys seconds state
      show (state.1.step state.2 seconds keys).1.players = _
      rw [hstep]
  | swap => rfl

theorem moving_populate (config : DemoConfig) (random : ρ) (slot : Fin slotCount) :
    let state := (Demo.new config random).populate
    Moving (state.2.slots.get slot) state.1.players slot (tee state slot) := by
  obtain ⟨random', slots, hstart, hslots⟩ := populate_eq (Demo.new config random)
  rw [hstart]
  refine ⟨rfl, fun hactive => ?_, fun hactive => ?_, fun _ => ⟨rfl, rfl⟩⟩
  · by_contra hout
    have hempty := (hslots slot).2 (Nat.le_of_not_lt hout)
    simp [tee, hempty] at hactive
  · unfold JumpMarked
    simp only [tee, Vector.get_map, if_true]
    by_cases hin : slot.val < (Demo.new config random).players
    · obtain ⟨hue, rank, hplayer⟩ := (hslots slot).1 hin
      rw [hplayer]
      rfl
    · rw [(hslots slot).2 (Nat.le_of_not_lt hin)]

theorem moving_play (config : DemoConfig) (random : ρ) (actions : List Action)
    (slot : Fin slotCount) :
    Moving ((Demo.new config random).populate.2.slots.get slot)
      (play config random actions).1.players slot (tee (play config random actions) slot) := by
  refine play_induction config random (fun state =>
    Moving ((Demo.new config random).populate.2.slots.get slot) state.1.players slot
      (tee state slot)) (moving_populate config random slot) (fun state action h => ?_) actions
  rw [players_act]
  cases action with
  | step seconds keys => exact moving_step h seconds keys
  | swap => exact moving_swap h

/-! ## The ends of the world -/

/-- A player is not beyond an end of the world, as far as its numbers can be compared. -/
def Inside (player : Slot) : Prop :=
  let position := player.client.position
  ¬ position.x < -1600 ∧ ¬ 1600 < position.x ∧ ¬ -28 < position.y

theorem inside_step (seconds : Float32) (keys : Keys) (hin : slot.val < state.1.players)
    (hactive : (state.2.slots.get slot).character.active = true) :
    Inside ((act state (.step seconds keys)).2.slots.get slot) := by
  obtain ⟨team, htee⟩ := tee_of_active seconds keys hin hactive
  have hplayer : (act state (.step seconds keys)).2.slots.get slot = _ := congrArg Prod.snd htee
  have hground : Motion.standing = -28 := by decide
  obtain ⟨hwest, heast, hbelow⟩ := (nextTurn keys seconds state slot).moved_inside
  rw [hground] at hbelow
  rw [hplayer]
  exact ⟨hwest, heast, hbelow⟩

theorem inside_swap (h : Inside (state.2.slots.get slot)) :
    Inside ((act state .swap).2.slots.get slot) := by
  obtain ⟨slots, hswap, hslots⟩ := swapDummy_eq state.1 state.2
  show Inside ((state.1.swapDummy state.2).slots.get slot)
  rw [hswap]
  show Inside (slots.get slot)
  rw [hslots]
  split <;> exact h

/-- After the first round whoever is in the world is between its ends. -/
theorem inside_play (config : DemoConfig) (random : ρ) {actions : List Action} {seconds : Float32}
    {keys : Keys} (hstep : .step seconds keys ∈ actions)
    (hactive : ((play config random actions).2.slots.get slot).character.active = true) :
    Inside ((play config random actions).2.slots.get slot) := by
  induction actions using List.reverseRecOn with
  | nil => cases hstep
  | append_singleton actions action ih =>
      have hbefore := moving_play config random actions slot
      have hafter := moving_play config random (actions ++ [action]) slot
      have hactive' : ((play config random actions).2.slots.get slot).character.active = true :=
        hbefore.active.trans (hafter.active.symm.trans hactive)
      rw [play_concat]
      cases action with
      | step seconds keys => exact inside_step seconds keys (hbefore.present hactive') hactive'
      | swap =>
          have hearlier : .step seconds keys ∈ actions := by simpa using hstep
          exact inside_swap (ih hearlier hactive')

/-! ## Jumps and landings -/

/-- The move of a slot that an action brings about. -/
def turnIn (state : Demo ρ × Game) (slot : Fin slotCount) : Action → Option Turn
  | .step seconds keys => some (nextTurn keys seconds state slot)
  | .swap => none

/-- The move of a slot at a place of a run. -/
def turnAt (config : DemoConfig) (random : ρ) (actions : List Action) (slot : Fin slotCount)
    (i : Nat) : Option Turn :=
  actions[i]?.bind (turnIn (play config random (actions.take i)) slot)

def LeapsAt (config : DemoConfig) (random : ρ) (actions : List Action) (slot : Fin slotCount)
    (i : Nat) : Prop :=
  ∃ turn, turnAt config random actions slot i = some turn ∧ turn.Leaps

def LandsAt (config : DemoConfig) (random : ρ) (actions : List Action) (slot : Fin slotCount)
    (i : Nat) : Prop :=
  ∃ turn, turnAt config random actions slot i = some turn ∧ turn.Lands

theorem turnAt_eq (config : DemoConfig) (random : ρ) {actions : List Action} (slot : Fin slotCount)
    {i : Nat} (hi : i < actions.length) :
    turnAt config random actions slot i =
      turnIn (play config random (actions.take i)) slot actions[i] := by
  rw [turnAt, List.getElem?_eq_getElem hi]
  rfl

theorem lt_length_of_turnAt {config : DemoConfig} {random : ρ} {actions : List Action} {i : Nat}
    {turn : Turn} (h : turnAt config random actions slot i = some turn) : i < actions.length := by
  by_contra hout
  rw [turnAt, List.getElem?_eq_none (Nat.le_of_not_lt hout)] at h
  cases h

theorem grounded_of_leaps {action : Action} {turn : Turn}
    (hturn : turnIn state slot action = some turn) (hleaps : turn.Leaps) :
    (tee state slot).1.grounded = true := by
  cases action with
  | step seconds keys =>
      obtain rfl := Option.some.inj hturn
      have hjumps := hleaps.2
      unfold Motion.jumps at hjumps
      rw [grounded_nextTurn] at hjumps
      exact (Bool.and_eq_true_iff.mp hjumps).2
  | swap => cases hturn

/-- Who stands on the ground after an action has just landed, or stood there before and did not
jump. -/
theorem grounded_act (h : Moving start state.1.players slot (tee state slot)) {action : Action}
    (hgrounded : (tee (act state action) slot).1.grounded = true) :
    (∃ turn, turnIn state slot action = some turn ∧ turn.Lands) ∨
      (tee state slot).1.grounded = true ∧
        ∀ turn, turnIn state slot action = some turn → ¬ turn.Leaps := by
  cases action with
  | swap => exact .inr ⟨hgrounded, fun turn hturn => nomatch hturn⟩
  | step seconds keys =>
      have hplayer := player_nextTurn keys seconds state slot
      cases hactive : (state.2.slots.get slot).character.active with
      | false =>
          obtain ⟨team, htee⟩ := tee_of_inactive seconds keys hactive
          rw [htee] at hgrounded
          refine .inr ⟨hgrounded, fun turn hturn hleaps => ?_⟩
          obtain rfl := Option.some.inj hturn
          have hleaping := hleaps.1
          rw [hplayer, hactive] at hleaping
          cases hleaping
      | true =>
          obtain ⟨team, htee⟩ := tee_of_active seconds keys (h.present hactive) hactive
          rw [htee] at hgrounded
          rcases (Turn.grounded_moved _).mp hgrounded with hlands | ⟨hstood, hstays⟩
          · exact .inl ⟨_, rfl, by rw [hplayer, hactive], hlands⟩
          · refine .inr ⟨?_, fun turn hturn hleaps => ?_⟩
            · rw [grounded_nextTurn] at hstood
              exact hstood
            · obtain rfl := Option.some.inj hturn
              exact absurd (hstays.symm.trans hleaps.2) (by decide)

section

variable {config : DemoConfig} {random : ρ} {actions : List Action}

theorem grounded_of_leapsAt {i : Nat} (h : LeapsAt config random actions slot i) :
    (tee (play config random (actions.take i)) slot).1.grounded = true := by
  obtain ⟨turn, hturn, hleaps⟩ := h
  rw [turnAt_eq config random slot (lt_length_of_turnAt hturn)] at hturn
  exact grounded_of_leaps hturn hleaps

/-- Who stands on the ground without having landed just now stood there before, and did not jump. -/
theorem grounded_before {n : Nat} (hn : n < actions.length)
    (hair : ¬ LandsAt config random actions slot n)
    (hgrounded : (tee (play config random (actions.take (n + 1))) slot).1.grounded = true) :
    (tee (play config random (actions.take n)) slot).1.grounded = true ∧
      ¬ LeapsAt config random actions slot n := by
  have hturn := turnAt_eq config random slot hn
  rw [List.take_succ_eq_append_getElem hn, play_concat] at hgrounded
  rcases grounded_act (moving_play config random (actions.take n) slot) hgrounded with
    ⟨turn, hturns, hlands⟩ | ⟨hstood, hstays⟩
  · exact absurd ⟨turn, hturn.trans hturns, hlands⟩ hair
  · refine ⟨hstood, ?_⟩
    rintro ⟨turn, hturns, hleaps⟩
    exact hstays turn (hturn.symm.trans hturns) hleaps

/-- A player that jumped is off the ground until it lands. -/
theorem airborne_of_leapsAt {i n : Nat} (hleaps : LeapsAt config random actions slot i)
    (hin : i < n) (hn : n ≤ actions.length)
    (hair : ∀ k, i ≤ k → k < n → ¬ LandsAt config random actions slot k) :
    (tee (play config random (actions.take n)) slot).1.grounded = false := by
  induction n, hin using Nat.le_induction with
  | base =>
      apply eq_false_of_ne_true
      intro hgrounded
      exact (grounded_before hn (hair i (le_refl i) (by omega)) hgrounded).2 hleaps
  | succ n hin ih =>
      apply eq_false_of_ne_true
      intro hgrounded
      have hstood := (grounded_before hn (hair n (by omega) (by omega)) hgrounded).1
      rw [ih (by omega) fun k hik hkn => hair k hik (by omega)] at hstood
      exact absurd hstood (by decide)

end

/-- Nobody jumps twice in the air. -/
theorem exists_landing (config : DemoConfig) (random : ρ) (actions : List Action)
    (slot : Fin slotCount) {i j : Nat} (hij : i < j) (hi : LeapsAt config random actions slot i)
    (hj : LeapsAt config random actions slot j) :
    ∃ k, i ≤ k ∧ k < j ∧ LandsAt config random actions slot k := by
  by_contra hnone
  have hgrounded := grounded_of_leapsAt hj
  obtain ⟨turn, hturn, -⟩ := hj
  have hlength := lt_length_of_turnAt hturn
  have hair := airborne_of_leapsAt hi hij (by omega)
    fun k hik hkj hlands => hnone ⟨k, hik, hkj, hlands⟩
  rw [hgrounded] at hair
  exact absurd hair (by decide)

/-! ## All players -/

theorem spectatorId_play (config : DemoConfig) (random : ρ) (actions : List Action) :
    (play config random actions).1.spectatorId = (Demo.new config random).spectatorId := by
  have hplayers : (play config random actions).1.players = (Demo.new config random).players := by
    refine play_induction config random
      (fun state => state.1.players = (Demo.new config random).players) ?_
      (fun state action h => ?_) actions
    · obtain ⟨random', slots, hstart, -⟩ := populate_eq (Demo.new config random)
      rw [hstart]
    · rw [players_act, h]
  unfold spectatorId
  rw [hplayers]

theorem inactive_of_spectatorId (config : DemoConfig) (random : ρ) {slot : Fin slotCount}
    (h : (Demo.new config random).spectatorId = some slot.val) :
    ((Demo.new config random).populate.2.slots.get slot).character.active = false := by
  obtain ⟨random', slots, hstart, hslots⟩ := populate_eq (Demo.new config random)
  rw [hstart]
  show (slots.get slot).character.active = false
  by_cases hin : slot.val < (Demo.new config random).players
  · obtain ⟨hue, rank, hplayer⟩ := (hslots slot).1 hin
    rw [hplayer]
    simp [playerOf, h]
  · rw [(hslots slot).2 (Nat.le_of_not_lt hin)]

/-- After a round, players in the world are between its ends; a player always has the mark of a jump
while it is off the ground, and lands between two jumps; the one who spectates stays as it was. -/
theorem players_stay_in_the_world (config : DemoConfig) (random : ρ) (actions : List Action) :
    let start := (Demo.new config random).populate.2
    let demo := (play config random actions).1
    let game := (play config random actions).2
    ((∃ seconds keys, .step seconds keys ∈ actions) → ∀ slot,
      (game.slots.get slot).character.active = true → Inside (game.slots.get slot)) ∧
    (∀ slot, (game.slots.get slot).character.active = true →
      let jumped := (game.slots.get slot).character.jumped
      (jumped = 0 ∨ jumped = 1) ∧
      (jumped &&& 1 = 1 ↔ (demo.motions.get slot).grounded = false)) ∧
    (∀ slot i j, i < j → LeapsAt config random actions slot i →
      LeapsAt config random actions slot j →
      ∃ k, i ≤ k ∧ k < j ∧ LandsAt config random actions slot k) ∧
    (∀ slot : Fin slotCount, demo.spectatorId = some slot.val →
      (game.slots.get slot).character.active = false) ∧
    ∀ slot, (game.slots.get slot).character.active = false →
      let player := game.slots.get slot
      let first := start.slots.get slot
      player.client.position = first.client.position ∧
      player.character.direction = first.character.direction ∧
      player.character.jumped = first.character.jumped := by
  intro start demo game
  have hmoving := moving_play config random actions
  refine ⟨?_, fun slot hactive => ?_, fun slot i j => exists_landing config random actions slot,
    fun slot hspectates => ?_, fun slot hrests => ?_⟩
  · rintro ⟨seconds, keys, hstep⟩ slot hactive
    exact inside_play config random hstep hactive
  · have hmarked : (game.slots.get slot).character.jumped =
        if (demo.motions.get slot).grounded then 0 else 1 := (hmoving slot).marked hactive
    intro jumped
    rw [show jumped = _ from hmarked]
    cases (demo.motions.get slot).grounded with
    | true => exact ⟨.inl rfl, by decide⟩
    | false => exact ⟨.inr rfl, by decide⟩
  · rw [show demo.spectatorId = _ from spectatorId_play config random actions] at hspectates
    exact (hmoving slot).active.trans (inactive_of_spectatorId config random hspectates)
  · obtain ⟨hposition, hcharacter⟩ := (hmoving slot).resting hrests
    have hcharacter' : (game.slots.get slot).character = (start.slots.get slot).character :=
      hcharacter
    refine ⟨hposition, ?_, ?_⟩
    · rw [hcharacter']
    · rw [hcharacter']

end

end Demo
end Overhead
