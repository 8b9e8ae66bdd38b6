import Overhead.Geometry.Vec

/-!
# Stacked lines

A sequence of boxes is cut into lines by line breaks. Every line is centered on the anchor; the
first line sits on the anchor and the next ones stack upwards. A line without a box that takes
space is left out entirely.
-/

namespace Overhead

/-- The room that one piece of a plate asks for. -/
structure PartBox (α : Type) where
  size : Vec α
  /-- Added to the size in the layout, not in the drawing. -/
  padding : Vec α
  /-- Moves the drawing only. -/
  offset : Vec α
  visible : Bool := true
  /-- Keeps the room while the piece is not visible. -/
  reserved : Bool := false
  /-- Ends the line; such a box is never drawn and takes no space. -/
  lineBreak : Bool := false
deriving DecidableEq

/-- Where the middle of the piece with the given index is drawn. -/
structure Placement (α : Type) where
  index : Nat
  position : Vec α
deriving DecidableEq

/-- The number of lines that were not left out, and a placement for every visible piece. -/
structure Layout (α : Type) where
  lines : Nat
  placements : List (Placement α)
deriving DecidableEq

namespace PartBox

variable {α : Type}

def takesSpace (box : PartBox α) : Bool :=
  !box.lineBreak && (box.visible || box.reserved)

def drawn (box : PartBox α) : Bool :=
  box.visible && !box.lineBreak

def footprint [Add α] (box : PartBox α) : Vec α :=
  box.size + box.padding

end PartBox

namespace Layout

variable {α : Type} [Add α] [Sub α] [Div α] [Coordinate α]

/-- Places the boxes of one line from the left end `x` on. Each box stands in the middle of the
line's height, or of its own when it is taller. -/
def placeFrom (y height : α) : α → List (Nat × PartBox α) → List (Placement α)
  | _, [] => []
  | x, (index, box) :: rest =>
      let footprint := box.footprint
      let next := if box.takesSpace then x + footprint.x else x
      let others := placeFrom y height next rest
      if box.drawn then
        { index := index
          position :=
            { x := x + footprint.x / Coordinate.ofNat 2 + box.offset.x
              y := y - Coordinate.larger height footprint.y / Coordinate.ofNat 2 + box.offset.y } }
          :: others
      else others

def placeLine (center y : α) (size : Vec α) (line : List (Nat × PartBox α)) :
    List (Placement α) :=
  placeFrom y size.y (center - size.x / Coordinate.ofNat 2) line

/-- The boxes of the line that is being read, in reverse, and what is known of it. -/
structure Pending (α : Type) where
  boxes : List (Nat × PartBox α)
  size : Vec α
  empty : Bool

def Pending.start : Pending α :=
  { boxes := [], size := ⟨Coordinate.ofNat 0, Coordinate.ofNat 0⟩, empty := true }

def Pending.push (pending : Pending α) (index : Nat) (box : PartBox α) : Pending α :=
  { boxes := (index, box) :: pending.boxes
    size :=
      if box.takesSpace then
        ⟨pending.size.x + box.footprint.x, Coordinate.larger pending.size.y box.footprint.y⟩
      else pending.size
    empty := pending.empty && !box.takesSpace }

def Pending.place (pending : Pending α) (center y : α) : List (Placement α) :=
  placeLine center y pending.size pending.boxes.reverse

/-- Reads the boxes once, from the index `index` on, and places each line when it ends. -/
def scan (center : α) : α → Nat → Pending α → List (PartBox α) → Layout α
  | y, _, pending, [] =>
      if pending.empty then { lines := 0, placements := [] }
      else { lines := 1, placements := pending.place center y }
  | y, index, pending, box :: rest =>
      if box.lineBreak then
        if pending.empty then scan center y (index + 1) Pending.start rest
        else
          let above := scan center (y - pending.size.y) (index + 1) Pending.start rest
          { lines := above.lines + 1
            placements := pending.place center y ++ above.placements }
      else scan center y (index + 1) (pending.push index box) rest

def arrange (boxes : List (PartBox α)) (anchor : Vec α) : Layout α :=
  scan anchor.x anchor.y 0 Pending.start boxes

end Layout

namespace PartBox

/-- An empty visible box with the usual padding. -/
def plain : PartBox Float32 :=
  { size := Point.zero, padding := ⟨5, 5⟩, offset := Point.zero }

def newLine : PartBox Float32 :=
  { plain with visible := false, lineBreak := true }

end PartBox
end Overhead
