import Overhead.Color
import Overhead.Geometry.Vec

/-!
# The game

What the client knows of the game in one frame. There are sixty-four slots for players; every slot
has a client and a character, but only a slot with a player info is in use. Ids are not checked when
they arrive, so one may name no slot at all: looking it up is an error of its own.
-/

namespace Overhead

def slotCount : Nat :=
  64

inductive ClientState where
  | offline
  | online
  /-- A recording is played back. -/
  | playback
deriving DecidableEq

inductive Side where
  | spectators
  | red
  | blue
deriving DecidableEq

structure PlayerInfo where
  /-- Whether this machine controls the player right now. -/
  isLocal : Bool := false
deriving DecidableEq

structure Client where
  name : String := ""
  clan : String := ""
  friend : Bool := false
  side : Side := .red
  /-- The numbered team; players of different teams do not meet. -/
  team : UInt32 := 0
  solo : Bool := false
  position : Point := Point.zero
  /-- Where the body was left by a player who spectates. -/
  spectatorBody : Option Point := none
  bodyColor : Color := Color.defaultBody
  /-- Replaces the color of the body while a color effect is on. -/
  effectColor : Option Color := none
deriving DecidableEq

namespace Client

/-- Members of this team meet everybody. -/
def superTeam : UInt32 :=
  64

def isSuper (client : Client) : Bool :=
  client.team == superTeam

def renderColor (client : Client) : Color :=
  client.effectColor.getD client.bodyColor

end Client

/-- The body of a player in the world, as far as it was sent. -/
structure Character where
  active : Bool := false
  direction : Int32 := 0
  /-- The lowest bit is set while the character has jumped. -/
  jumped : Int32 := 0
  /-- The rank of the hook; only some servers send it. -/
  hookRank : Option Int32 := none
deriving DecidableEq

structure Slot where
  info : Option PlayerInfo := none
  client : Client := {}
  character : Character := {}
deriving DecidableEq

namespace Slot

def isLocal (slot : Slot) : Bool :=
  slot.info.any (·.isLocal)

end Slot

/-- The two players that one machine controls. -/
inductive Seat where
  | main
  | dummy
deriving DecidableEq

namespace Seat

def partner : Seat → Seat
  | .main => .dummy
  | .dummy => .main

@[simp] theorem partner_partner (seat : Seat) : seat.partner.partner = seat := by
  cases seat <;> rfl

/-- The seat with a number; every number but zero means the dummy. -/
def numbered (n : Nat) : Seat :=
  if n = 0 then .main else .dummy

end Seat

structure PerSeat (α : Type) where
  main : α
  dummy : α
deriving DecidableEq

namespace PerSeat

variable {α : Type}

def get (pair : PerSeat α) : Seat → α
  | .main => pair.main
  | .dummy => pair.dummy

def set (pair : PerSeat α) (value : α) : Seat → PerSeat α
  | .main => { pair with main := value }
  | .dummy => { pair with dummy := value }

@[simp] theorem get_set_same (pair : PerSeat α) (value : α) (seat : Seat) :
    (pair.set value seat).get seat = value := by
  cases seat <;> rfl

@[simp] theorem get_set_partner (pair : PerSeat α) (value : α) (seat : Seat) :
    (pair.set value seat).get seat.partner = pair.get seat.partner := by
  cases seat <;> rfl

end PerSeat

structure Keys where
  direction : Int32 := 0
  jump : Bool := false
deriving DecidableEq

/-- Whom the camera follows. -/
structure Spectating where
  active : Bool := false
  /-- Nobody in the free view. -/
  id : Option Nat := none
deriving DecidableEq

structure Game where
  state : ClientState := .offline
  slots : Vector Slot slotCount := Vector.replicate slotCount {}
  /-- The player that is controlled. -/
  localId : Option Nat := none
  /-- The players of both seats. -/
  localIds : PerSeat (Option Nat) := ⟨none, none⟩
  /-- Zero while the main player is controlled. -/
  activeDummy : Nat := 0
  inputs : PerSeat Keys := ⟨{}, {}⟩
  targets : PerSeat Point := ⟨Point.zero, Point.zero⟩
  spectating : Spectating := {}
  multiView : Bool := false
  /-- Whether the red and the blue side play against each other. -/
  teamPlay : Bool := false
deriving DecidableEq

/-- An id that names no slot was looked up. -/
structure MissingSlot where
  id : Nat
deriving DecidableEq

def MissingSlot.message (missing : MissingSlot) : String :=
  "index out of bounds: the len is " ++ toString slotCount ++ " but the index is " ++
    toString missing.id

namespace Game

/-- The slot that an id names. -/
def slot (game : Game) (id : Nat) : Except MissingSlot Slot :=
  if h : id < slotCount then .ok game.slots[id] else .error { id := id }

theorem slot_eq_ok (game : Game) {id : Nat} (h : id < slotCount) :
    game.slot id = .ok game.slots[id] := by
  simp [slot, h]

theorem slot_eq_error (game : Game) {id : Nat} (h : ¬ id < slotCount) :
    game.slot id = .error { id := id } := by
  simp [slot, h]

/-- Changes the slot that an id names, if there is one. -/
def modifySlot (game : Game) (id : Nat) (change : Slot → Slot) : Game :=
  if h : id < slotCount then { game with slots := game.slots.set id (change game.slots[id]) }
  else game

def isPlayback (game : Game) : Bool :=
  game.state == .playback

def isRunning (game : Game) : Bool :=
  game.state == .online || game.state == .playback

def activeSeat (game : Game) : Seat :=
  Seat.numbered game.activeDummy

end Game
end Overhead
