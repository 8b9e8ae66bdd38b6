import Overhead.Frame.Data
import Overhead.Plate.Basic

/-!
# The plates of a frame

Every slot keeps its plate from frame to frame. A frame decides which players are near the screen
and draws a plate for each of them, in the order of their ids; a player who spectates may have a
second one, at the body it left behind, which is drawn first and with the same plate.
-/

namespace Overhead

structure Plates where
  slots : Vector Plate slotCount := Vector.replicate slotCount {}

namespace Plates

variable {σ : Type} [Canvas σ]

def resetSlot (state : Plates × σ) (slot : Fin slotCount) : Plates × σ :=
  let (plate, canvas) := (state.1.slots.get slot).reset state.2
  ({ slots := state.1.slots.set slot plate slot.isLt }, canvas)

def reset (plates : Plates) (canvas : σ) : Plates × σ :=
  (List.finRange slotCount).foldl resetSlot (plates, canvas)

def render (plates : Plates) (slot : Fin slotCount) (data : PlateData) (canvas : σ) : Plates × σ :=
  let (plate, canvas) := (plates.slots.get slot).render data canvas
  ({ slots := plates.slots.set slot plate slot.isLt }, canvas)

end Plates

/-- A plate that is to be drawn: whose, where, and how opaque. -/
structure Sighting where
  slot : Fin slotCount
  position : Point
  alpha : Float32
  /-- Whether the opacity stays as it is. -/
  forced : Bool

namespace Sighting

def bodyAlpha : Float32 :=
  0.4

/-- The part of the world in which a player's plate may still reach the screen: plates fit into a
square of 800 units above the player. -/
def reach (screen : Area Float32) : Area Float32 :=
  screen.expand 400 0 400 800

/-- The plate at the body that a player left behind. -/
def body? (settings : PlateSettings) (area : Area Float32) (slot : Fin slotCount)
    (client : Client) : Option Sighting :=
  if settings.showSpectatorBodies then
    (client.spectatorBody.filter area.contains).map fun position =>
      { slot := slot, position := position, alpha := bodyAlpha, forced := true }
  else none

/-- The plate at the player itself. -/
def player? (area : Area Float32) (slot : Fin slotCount) (client : Client)
    (character : Character) : Option Sighting :=
  if character.active && area.contains client.position then
    some { slot := slot, position := client.position, alpha := 1, forced := false }
  else none

/-- The plates of one slot, in the order they are drawn. -/
def ofSlot (game : Game) (settings : PlateSettings) (area : Area Float32) (slot : Fin slotCount) :
    List Sighting :=
  let content := game.slots.get slot
  if content.info.isSome then
    (body? settings area slot content.client).toList ++
      (player? area slot content.client content.character).toList
  else []

/-- The plates of a frame, in the order they are drawn. -/
def all (game : Game) (settings : PlateSettings) (screen : Area Float32) : List Sighting :=
  if !game.isRunning || settings.isDisabled then []
  else (List.finRange slotCount).flatMap (ofSlot game settings (reach screen))

def data (sighting : Sighting) (game : Game) (settings : PlateSettings) :
    Except MissingSlot PlateData :=
  game.plateData settings sighting.slot sighting.position sighting.alpha sighting.forced

end Sighting

namespace Plates

variable {σ : Type} [Canvas σ]

def drawSighting (game : Game) (settings : PlateSettings) (state : Plates × σ)
    (sighting : Sighting) : Except MissingSlot (Plates × σ) := do
  return state.1.render sighting.slot (← sighting.data game settings) state.2

def draw (plates : Plates) (game : Game) (settings : PlateSettings) (canvas : σ) :
    Except MissingSlot (Nat × Plates × σ) := do
  let sightings := Sighting.all game settings (Canvas.screen canvas)
  return (sightings.length, ← sightings.foldlM (drawSighting game settings) (plates, canvas))

end Plates
end Overhead
