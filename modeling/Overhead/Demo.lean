import Overhead.Game.Basic
import Overhead.Random.Basic
import Overhead.Settings.Basic

/-!
# The simulated game

A small world that takes the place of a server: players run and jump on flat ground. The first two
are the player of this machine and its dummy; the others are moved by random decisions. A larger
round has one player who spectates and left its body behind.
-/

namespace Overhead

structure Motion where
  velocity : Point := Point.zero
  /-- The keys it holds. -/
  keys : Keys := {}
  /-- When it chooses its keys the next time. -/
  nextDecision : Float32 := 0
  grounded : Bool := false
deriving DecidableEq

namespace Motion

def radius : Float32 :=
  28

/-- The height of a body that stands on the ground. -/
def standing : Float32 :=
  0 - radius

def halfWidth : Float32 :=
  1600

def runSpeed : Float32 :=
  400

def jumpSpeed : Float32 :=
  750

def gravity : Float32 :=
  1800

/-- Whether the keys make the player jump now. -/
def jumps (motion : Motion) (keys : Keys) : Bool :=
  keys.jump && motion.grounded

def steer (motion : Motion) (keys : Keys) : Motion :=
  { motion with
    keys := keys
    velocity :=
      { x := Float32.ofInt keys.direction.toInt * runSpeed
        y := if motion.jumps keys then -jumpSpeed else motion.velocity.y }
    grounded := motion.grounded && !motion.jumps keys }

def fall (motion : Motion) (seconds : Float32) : Motion :=
  { motion with
    velocity := { motion.velocity with y := motion.velocity.y + gravity * seconds } }

def land (motion : Motion) : Motion :=
  { motion with velocity := { motion.velocity with y := 0 }, grounded := true }

/-- Where the player gets to in some time; the world has an end on both sides. -/
def target (motion : Motion) (position : Point) (seconds : Float32) : Point :=
  let moved := position + motion.velocity.scale seconds
  { moved with x := Single.clamp (-halfWidth) halfWidth moved.x }

def step (motion : Motion) (keys : Keys) (seconds : Float32) (slot : Slot) : Motion × Slot :=
  let jumped := if motion.jumps keys then slot.character.jumped ||| 1 else slot.character.jumped
  let motion := (motion.steer keys).fall seconds
  let position := motion.target slot.client.position seconds
  if standing ≤ position.y then
    (motion.land,
      { slot with
        client := { slot.client with position := { position with y := standing } }
        character :=
          { slot.character with direction := keys.direction, jumped := jumped &&& ~~~1 } })
  else
    (motion,
      { slot with
        client := { slot.client with position := position }
        character := { slot.character with direction := keys.direction, jumped := jumped } })

end Motion

/-- The state of the simulation beside the game it plays. -/
structure Demo (ρ : Type) where
  motions : Vector Motion slotCount := Vector.replicate slotCount {}
  random : ρ
  time : Float32 := 0
  nextTeamSwap : Float32
  players : Nat
  playback : Bool
  two_le_players : 2 ≤ players
  players_le : players ≤ slotCount

namespace Demo

variable {ρ : Type} [RandomSource ρ]

/-- How long a team lasts before somebody is moved to another one. -/
def teamSwapInterval : Float32 :=
  12

def names : List String :=
  [ "nameless tee", "brainless tee", "Cootie", "Pioneer", "bRaiN", "Ravie", "Zwelf", "Sans",
    "hookfan", "Teeworlds", "unfreeze me", "Chillerdragon" ]

def clans : List String :=
  ["", "DDNet", "Tee Team", "Unique"]

/-- Takes turns through a list. -/
def turn (texts : List String) (id : Nat) : String :=
  texts.getD (id % texts.length) ""

/-- A simulation with at least the two players of this machine. -/
def new (config : DemoConfig) (random : ρ) : Demo ρ where
  random := random
  nextTeamSwap := teamSwapInterval
  players := max 2 (min config.players slotCount)
  playback := config.playback
  two_le_players := Nat.le_max_left _ _
  players_le := Nat.max_le.2 ⟨by decide, Nat.min_le_right _ _⟩

/-- The player who spectates, in a round with more than four. -/
def spectatorId (demo : Demo ρ) : Option Nat :=
  if 4 < demo.players then some (demo.players - 1) else none

def roster (demo : Demo ρ) : List (Fin slotCount) :=
  (List.finRange slotCount).take demo.players

def emptyGame (demo : Demo ρ) : Game :=
  { state := if demo.playback then .playback else .online
    localId := some 0
    localIds := ⟨some 0, some 1⟩ }

/-- Where a player starts: in a row around the middle. -/
def startOf (demo : Demo ρ) (id : Nat) : Point :=
  { x := (Float32.ofNat id - Float32.ofNat demo.players / 2) * 160, y := Motion.standing }

/-- Where the body of the player who spectates is. -/
def bodyPosition : Point :=
  ⟨-300, -260⟩

/-- The player of a slot, with its random color and its random hook. -/
def playerOf (demo : Demo ρ) (id : Nat) (hue : Float32) (hookRank : Int32) : Slot where
  info := some { isLocal := id == 0 }
  client :=
    { name := turn names id
      clan := turn clans id
      friend := id % 5 == 3
      team := if id < 2 then 0 else UInt32.ofNat (id % 4 * 2)
      position := demo.startOf id
      bodyColor := .hsla hue 0.6 0.6 1
      spectatorBody := if demo.spectatorId = some id then some bodyPosition else none }
  character :=
    { active := demo.spectatorId != some id
      hookRank := some hookRank }

def join (state : Demo ρ × Game) (slot : Fin slotCount) : Demo ρ × Game :=
  let (demo, game) := state
  let (hue, random) := Random.between 0 360 demo.random
  let (rank, random) := Random.below slotCount random
  ({ demo with random := random },
    { game with
      slots := game.slots.set slot (demo.playerOf slot hue (Int32.ofNat rank)) })

/-- Starts a game with all players on the ground. -/
def populate (demo : Demo ρ) : Demo ρ × Game :=
  let (demo, game) := demo.roster.foldl join (demo, demo.emptyGame)
  ({ demo with motions := demo.motions.map fun motion => { motion with grounded := true } }, game)

def markLocal (localId : Option Nat) (game : Game) (slot : Fin slotCount) : Game :=
  let player := game.slots[slot]
  { game with
    slots := game.slots.set slot
      { player with
        info := player.info.map fun info => { info with isLocal := localId == some slot.val } } }

def swapDummy (demo : Demo ρ) (game : Game) : Game :=
  let seat := game.activeSeat.partner
  let localId := game.localIds.get seat
  demo.roster.foldl (markLocal localId)
    { game with
      activeDummy := if seat = .main then 0 else 1
      localId := localId }

def botKeys (demo : Demo ρ) (slot : Fin slotCount) : Keys × Demo ρ :=
  let motion := demo.motions[slot]
  if motion.nextDecision ≤ demo.time then
    let (pause, random) := Random.between 0.5 2 demo.random
    let (direction, random) := Random.below 3 random
    let (jump, random) := Random.chance 0.3 random
    let keys : Keys := { direction := Int32.ofNat direction - 1, jump := jump }
    let motion := { motion with keys := keys, nextDecision := demo.time + pause }
    (keys, { demo with random := random, motions := demo.motions.set slot motion })
  else (motion.keys, demo)

/-- The keys of a player: the given ones for the one that is controlled, the last ones for the
partner, and random ones for everybody else. -/
def keysOf (demo : Demo ρ) (game : Game) (keys : Keys) (slot : Fin slotCount) : Keys × Demo ρ :=
  let seat := game.activeSeat
  if game.localIds.get seat = some slot.val then (keys, demo)
  else if game.localIds.get seat.partner = some slot.val then (game.inputs.get seat.partner, demo)
  else demo.botKeys slot

/-- Moves one player, unless it is not in the world. -/
def stepPlayer (keys : Keys) (seconds : Float32) (state : Demo ρ × Game) (slot : Fin slotCount) :
    Demo ρ × Game :=
  let (demo, game) := state
  if game.slots[slot].character.active then
    let (keys, demo) := demo.keysOf game keys slot
    let (motion, player) := demo.motions[slot].step keys seconds game.slots[slot]
    ({ demo with motions := demo.motions.set slot motion },
      { game with slots := game.slots.set slot player })
  else (demo, game)

def swapTeam (demo : Demo ρ) (game : Game) : Demo ρ × Game :=
  let (offset, random) := Random.belowWide (demo.players - 2) demo.random
  let (team, random) := Random.below 4 random
  ({ demo with random := random, nextTeamSwap := demo.nextTeamSwap + teamSwapInterval },
    game.modifySlot (2 + offset) fun player =>
      { player with client := { player.client with team := UInt32.ofNat team } })

def isTeamSwapDue (demo : Demo ρ) : Bool :=
  demo.nextTeamSwap ≤ demo.time && 2 < demo.players

def step (demo : Demo ρ) (game : Game) (seconds : Float32) (keys : Keys) : Demo ρ × Game :=
  let demo := { demo with time := demo.time + seconds }
  let game := { game with inputs := game.inputs.set keys game.activeSeat }
  let (demo, game) := demo.roster.foldl (stepPlayer keys seconds) (demo, game)
  if demo.isTeamSwapDue then demo.swapTeam game else (demo, game)

end Demo
end Overhead
