import Overhead.Proofs.Demo.Calls

/-!
# The guarded simulation

The simulation once more, in a form that can fail. Here the motions are a list of any length, a slot
is named by any number, and every draw says which range it is from. A look at an entry that a list
does not have is a fault, and so is a draw from an empty range.
-/

namespace Overhead

/-- What makes a call fail. -/
inductive Fault where
  /-- An entry was looked up that a list of this length does not have. -/
  | missing (length index : Nat)
  | emptyRange
  | noProbability
  /-- A difference is below zero. -/
  | negative

namespace Guard

variable {ρ : Type}

def ensure (fault : Fault) (holds : Bool) : Except Fault Unit :=
  if holds then .ok () else .error fault

def index (length i : Nat) : Except Fault (Fin length) :=
  if h : i < length then .ok ⟨i, h⟩ else .error (.missing length i)

def difference (m n : Nat) : Except Fault Nat := do
  ensure .negative (n ≤ m)
  return m - n

def clamp (low high n : Nat) : Except Fault Nat := do
  ensure .emptyRange (low ≤ high)
  return max low (min n high)

def seat (n : Nat) : Except Fault Seat := do
  let i ← index 2 n
  return Seat.numbered i

/-- A whole number from `low` on and below `high`, by a draw that takes only an upper bound. -/
def draw (below : Nat → ρ → Nat × ρ) (low high : Nat) (random : ρ) : Except Fault (Nat × ρ) := do
  ensure .emptyRange (low < high)
  let (offset, random) := below (high - low) random
  return (low + offset, random)

section

variable [RandomSource ρ]

def between (low high : Float32) (random : ρ) : Except Fault (Float32 × ρ) := do
  ensure .emptyRange (low < high)
  return Random.between low high random

def chance (probability : Float) (random : ρ) : Except Fault (Bool × ρ) := do
  ensure .noProbability (0 ≤ probability && probability ≤ 1)
  return Random.chance probability random

end

/-! ### Guards that let pass -/

theorem index_of_lt {length i : Nat} (h : i < length) : index length i = .ok ⟨i, h⟩ :=
  dif_pos h

@[simp] theorem index_fin {length : Nat} (i : Fin length) : index length i = .ok i :=
  index_of_lt i.isLt

theorem difference_of_le {m n : Nat} (h : n ≤ m) : difference m n = .ok (m - n) := by
  simp [difference, ensure, h, bind, Except.bind, pure, Except.pure]

theorem clamp_of_le {low high : Nat} (h : low ≤ high) (n : Nat) :
    clamp low high n = .ok (max low (min n high)) := by
  simp [clamp, ensure, h, bind, Except.bind, pure, Except.pure]

theorem draw_of_lt (below : Nat → ρ → Nat × ρ) {low high : Nat} (h : low < high) (random : ρ) :
    draw below low high random =
      .ok (low + (below (high - low) random).1, (below (high - low) random).2) := by
  simp [draw, ensure, h, bind, Except.bind, pure, Except.pure]

theorem draw_of_pos (below : Nat → ρ → Nat × ρ) {n : Nat} (h : 0 < n) (random : ρ) :
    draw below 0 n random = .ok (below n random) := by
  rw [draw_of_lt below h, Nat.zero_add]
  rfl

/-- Every number of a dummy but zero counts as one. -/
theorem min_activeDummy (game : Game) :
    min game.activeDummy 1 = if game.activeSeat = .main then 0 else 1 := by
  unfold Game.activeSeat Seat.numbered
  by_cases hmain : game.activeDummy = 0
  · simp [hmain]
  · simp only [hmain, if_false]
    rw [if_neg (by decide)]
    omega

theorem seat_active (game : Game) : seat (min game.activeDummy 1) = .ok game.activeSeat := by
  rw [min_activeDummy]
  cases game.activeSeat <;> rfl

theorem seat_partner (game : Game) :
    seat (1 - min game.activeDummy 1) = .ok game.activeSeat.partner := by
  rw [min_activeDummy]
  cases game.activeSeat <;> rfl

section

variable [RandomSource ρ]

theorem between_hue (random : ρ) :
    between 0 360 random = .ok (Random.between 0 360 random) := by
  rfl

theorem between_pause (random : ρ) :
    between 0.5 2 random = .ok (Random.between 0.5 2 random) := by
  rfl

theorem chance_jump (random : ρ) : chance 0.3 random = .ok (Random.chance 0.3 random) := by
  rfl

end

end Guard

/-! ## The simulation with guards -/

/-- The state of a simulation. Nothing says that there is a motion for every player, or that
anything is numbered below the number of slots. -/
structure Guarded (ρ : Type) where
  motions : List Motion
  random : ρ
  time : Float32 := 0
  nextTeamSwap : Float32 := Demo.teamSwapInterval
  players : Nat
  spectatorId : Option Nat
  playback : Bool

/-- The same player, with its body left at a place or not. -/
def Slot.withBody (player : Slot) (body : Option Point) : Slot :=
  { player with client := { player.client with spectatorBody := body } }

namespace Guarded

variable {ρ : Type}

def new (config : DemoConfig) (random : ρ) : Except Fault (Guarded ρ) := do
  let players ← Guard.clamp 2 slotCount config.players
  let last ← Guard.difference players 1
  return {
    motions := List.replicate players {}
    random := random
    players := players
    spectatorId := if 4 < players then some last else none
    playback := config.playback }

def emptyGame (guarded : Guarded ρ) : Game :=
  { state := if guarded.playback then .playback else .online
    localId := some 0
    localIds := ⟨some 0, some 1⟩ }

def playerOf (guarded : Guarded ρ) (id : Nat) (name clan : String) (hue : Float32)
    (hookRank : Int32) : Slot where
  info := some { isLocal := id == 0 }
  client :=
    { name := name
      clan := clan
      friend := id % 5 == 3
      team := if id < 2 then 0 else UInt32.ofNat (id % 4 * 2)
      position :=
        { x := (Float32.ofNat id - Float32.ofNat guarded.players / 2) * 160, y := Motion.standing }
      bodyColor := .hsla hue 0.6 0.6 1 }
  character :=
    { active := guarded.spectatorId != some id
      hookRank := some hookRank }

/-- The player who spectates leaves its body behind. -/
def leaveBody (guarded : Guarded ρ) (game : Game) : Except Fault Game :=
  match guarded.spectatorId with
  | none => return game
  | some id => do
      let slot ← Guard.index slotCount id
      let player := (game.slots.get slot).withBody (some Demo.bodyPosition)
      return { game with slots := game.slots.set slot player slot.isLt }

def markLocal (localId : Option Nat) (game : Game) (id : Nat) : Except Fault Game := do
  let slot ← Guard.index slotCount id
  let player := (game.slots.get slot).marked (localId == some id)
  return { game with slots := game.slots.set slot player slot.isLt }

def swapDummy (guarded : Guarded ρ) (game : Game) : Except Fault Game := do
  let active ← Guard.difference 1 (min game.activeDummy 1)
  let seat ← Guard.seat active
  let localId := game.localIds.get seat
  (List.range guarded.players).foldlM (markLocal localId)
    { game with activeDummy := active, localId := localId }

section

variable [RandomSource ρ]

def join (state : Guarded ρ × Game) (id : Nat) : Except Fault (Guarded ρ × Game) := do
  let (guarded, game) := state
  let slot ← Guard.index slotCount id
  let name ← Guard.index Demo.names.length (id % Demo.names.length)
  let clan ← Guard.index Demo.clans.length (id % Demo.clans.length)
  let (hue, random) ← Guard.between 0 360 guarded.random
  let (rank, random) ← Guard.draw Random.below 0 slotCount random
  let player :=
    guarded.playerOf id (Demo.names.get name) (Demo.clans.get clan) hue (Int32.ofNat rank)
  return ({ guarded with random := random },
    { game with slots := game.slots.set slot player slot.isLt })

def populate (guarded : Guarded ρ) : Except Fault (Guarded ρ × Game) := do
  let (guarded, game) ← (List.range guarded.players).foldlM join (guarded, guarded.emptyGame)
  let game ← guarded.leaveBody game
  return (
    { guarded with
      motions := guarded.motions.map fun motion => { motion with grounded := true } }, game)

def botKeys (guarded : Guarded ρ) (id : Nat) : Except Fault (Keys × Guarded ρ) := do
  let place ← Guard.index guarded.motions.length id
  let motion := guarded.motions.get place
  if motion.nextDecision ≤ guarded.time then
    let (pause, random) ← Guard.between 0.5 2 guarded.random
    let (direction, random) ← Guard.draw Random.below 0 3 random
    let (jump, random) ← Guard.chance 0.3 random
    let keys : Keys := { direction := Int32.ofNat direction - 1, jump := jump }
    let motion := { motion with keys := keys, nextDecision := guarded.time + pause }
    return (keys, { guarded with random := random, motions := guarded.motions.set place motion })
  else
    return (motion.keys, guarded)

def keysOf (guarded : Guarded ρ) (game : Game) (keys : Keys) (id : Nat) :
    Except Fault (Keys × Guarded ρ) := do
  let seat ← Guard.seat (min game.activeDummy 1)
  if game.localIds.get seat = some id then
    return (keys, guarded)
  else if game.localIds.main = some id ∨ game.localIds.dummy = some id then
    let partner ← Guard.difference 1 (min game.activeDummy 1)
    return (game.inputs.get (← Guard.seat partner), guarded)
  else
    guarded.botKeys id

def stepPlayer (keys : Keys) (seconds : Float32) (state : Guarded ρ × Game) (id : Nat) :
    Except Fault (Guarded ρ × Game) := do
  let (guarded, game) := state
  let slot ← Guard.index slotCount id
  if (game.slots.get slot).character.active then
    let (keys, guarded) ← guarded.keysOf game keys id
    let place ← Guard.index guarded.motions.length id
    -- The world that the player is kept inside has to have room.
    Guard.ensure .emptyRange (-Motion.halfWidth ≤ Motion.halfWidth)
    let (motion, player) := (guarded.motions.get place).step keys seconds (game.slots.get slot)
    return ({ guarded with motions := guarded.motions.set place motion },
      { game with slots := game.slots.set slot player slot.isLt })
  else
    return (guarded, game)

def swapTeam (guarded : Guarded ρ) (game : Game) : Except Fault (Guarded ρ × Game) := do
  let (id, random) ← Guard.draw Random.belowWide 2 guarded.players guarded.random
  let (team, random) ← Guard.draw Random.below 0 4 random
  let slot ← Guard.index slotCount id
  let player := (game.slots.get slot).withTeam (UInt32.ofNat team)
  return (
    { guarded with random := random, nextTeamSwap := guarded.nextTeamSwap + Demo.teamSwapInterval },
    { game with slots := game.slots.set slot player slot.isLt })

/-- Beside the two players of this machine there has to be somebody to draw. -/
theorem swapTeam_eq_error {guarded : Guarded ρ} (h : guarded.players ≤ 2) (game : Game) :
    guarded.swapTeam game = .error .emptyRange := by
  have hempty : ¬ 2 < guarded.players := by omega
  simp [swapTeam, Guard.draw, Guard.ensure, hempty, bind, Except.bind]

def step (guarded : Guarded ρ) (game : Game) (seconds : Float32) (keys : Keys) :
    Except Fault (Guarded ρ × Game) := do
  let seat ← Guard.seat (min game.activeDummy 1)
  let guarded := { guarded with time := guarded.time + seconds }
  let game := { game with inputs := game.inputs.set keys seat }
  let (guarded, game) ←
    (List.range guarded.players).foldlM (stepPlayer keys seconds) (guarded, game)
  if guarded.nextTeamSwap ≤ guarded.time ∧ 2 < guarded.players then
    guarded.swapTeam game
  else
    return (guarded, game)

def answer (state : Guarded ρ × Game) : Demo.Call → Except Fault (Guarded ρ × Game)
  | .populate => state.1.populate
  | .play (.step seconds keys) => state.1.step state.2 seconds keys
  | .play .swap => do return (state.1, ← state.1.swapDummy state.2)

def session (config : DemoConfig) (random : ρ) (calls : List Demo.Call) :
    Except Fault (Guarded ρ × Game) := do
  let guarded ← new config random
  calls.foldlM answer (guarded, {})

end

end Guarded
end Overhead
