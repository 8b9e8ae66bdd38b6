import Overhead.Plate.Part

/-!
# Plates

The plate of one player. Its parts are made by the first update and kept from then on; every update
lays them out again above the player.
-/

namespace Overhead

structure Plate where
  parts : List Part := []
  placements : List (Placement Float32) := []
  /-- The lines of the last layout, reserved ones included. -/
  lines : Nat := 0

namespace Plate

variable {σ : Type} [Canvas σ]

/-- How far the lowest line is above the position of the player. -/
def clearance : Float32 :=
  50

def template : List Part :=
  [ Part.arrow .left,
    Part.arrow .jump,
    Part.arrow .right,
    Part.lineBreak,
    Part.clientId false,
    Part.friendMark,
    Part.name,
    Part.lineBreak,
    Part.clan,
    Part.lineBreak,
    Part.clientId true,
    Part.lineBreak,
    Part.hookIcon,
    Part.hookId ]

/-- The parts of this plate, made now if that has not happened yet. -/
def partsOrTemplate (plate : Plate) : List Part :=
  if plate.parts.isEmpty then template else plate.parts

def updateParts (data : PlateData) : List Part → σ → List Part × σ
  | [], canvas => ([], canvas)
  | part :: rest, canvas =>
      let (part, canvas) := part.update data canvas
      let (rest, canvas) := updateParts data rest canvas
      (part :: rest, canvas)

/-- The plate that consists of the given parts, laid out above a position. -/
def ofParts (parts : List Part) (position : Point) : Plate :=
  let layout := Layout.arrange (parts.map (·.box)) (position - ⟨0, clearance⟩)
  { parts := parts, placements := layout.placements, lines := layout.lines }

/-- Takes over what the data says and lays the parts out. -/
def update (plate : Plate) (data : PlateData) (canvas : σ) : Plate × σ :=
  let (parts, canvas) := updateParts data plate.partsOrTemplate canvas
  (ofParts parts data.position, canvas)

def drawPlacement (parts : List Part) (canvas : σ) (placement : Placement Float32) : σ :=
  match parts[placement.index]? with
  | some part => part.draw placement.position canvas
  | none => canvas

/-- Draws the parts in the order they were placed. -/
def drawPlacements (plate : Plate) (canvas : σ) : σ :=
  plate.placements.foldl (drawPlacement plate.parts) canvas

/-- Updates the plate and draws it, with its own text flags while that lasts. -/
def render (plate : Plate) (data : PlateData) (canvas : σ) : Plate × σ :=
  let canvas := Canvas.setFlags (RenderFlags.plate data.inGame) canvas
  let (plate, canvas) := plate.update data canvas
  (plate, Canvas.setFlags RenderFlags.none (plate.drawPlacements canvas))

/-- Gives the texts of parts back, one part after the other. -/
def resetParts : List Part → σ → List Part × σ
  | [], canvas => ([], canvas)
  | part :: rest, canvas =>
      let (part, canvas) := part.reset canvas
      let (rest, canvas) := resetParts rest canvas
      (part :: rest, canvas)

/-- Gives every text back; the next update shapes them again. -/
def reset (plate : Plate) (canvas : σ) : Plate × σ :=
  let (parts, canvas) := resetParts plate.parts canvas
  ({ plate with parts := parts }, canvas)

end Plate
end Overhead
