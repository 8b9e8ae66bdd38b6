import Overhead.Geometry.Vec

/-!
# Rectangles

A rectangle names the part of the world that is on screen, or the part of the window it is drawn
to. Its corners are kept as they were given: a rectangle may be turned over, empty or undefined.
-/

namespace Overhead

structure Area (α : Type) where
  left : α
  top : α
  right : α
  bottom : α
deriving DecidableEq

namespace Area

variable {α : Type}

def width [Sub α] (a : Area α) : α :=
  a.right - a.left

def height [Sub α] (a : Area α) : α :=
  a.bottom - a.top

def aspect [Sub α] [Div α] (a : Area α) : α :=
  a.width / a.height

/-- The rectangle of the given size around a center. -/
def around [Add α] [Sub α] [Div α] [Coordinate α] (center size : Vec α) : Area α :=
  { left := center.x - size.x / Coordinate.ofNat 2
    top := center.y - size.y / Coordinate.ofNat 2
    right := center.x + size.x / Coordinate.ofNat 2
    bottom := center.y + size.y / Coordinate.ofNat 2 }

def center [Add α] [Div α] [Coordinate α] (a : Area α) : Vec α :=
  ⟨(a.left + a.right) / Coordinate.ofNat 2, (a.top + a.bottom) / Coordinate.ofNat 2⟩

/-- Moves each side outwards by its own amount. -/
def expand [Add α] [Sub α] (a : Area α) (left top right bottom : α) : Area α :=
  { left := a.left - left
    top := a.top - top
    right := a.right + right
    bottom := a.bottom + bottom }

def contains (a : Area Float32) (p : Point) : Bool :=
  a.left ≤ p.x && p.x ≤ a.right && (a.top ≤ p.y && p.y ≤ a.bottom)

/-- Where a point of the world lies in a viewport that shows the area `screen`, with one scale for
each direction. -/
def toViewport [Add α] [Sub α] [Mul α] [Div α] (screen viewport : Area α) (p : Vec α) : Vec α :=
  { x := viewport.left + (p.x - screen.left) * (viewport.width / screen.width)
    y := viewport.top + (p.y - screen.top) * (viewport.height / screen.height) }

/-- The same mapping with the vertical scale for both directions. -/
def toViewportByHeight [Add α] [Sub α] [Mul α] [Div α] (screen viewport : Area α) (p : Vec α) :
    Vec α :=
  let scale := viewport.height / screen.height
  ⟨viewport.left + (p.x - screen.left) * scale, viewport.top + (p.y - screen.top) * scale⟩

end Area
end Overhead
