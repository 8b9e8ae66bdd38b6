import Overhead.Geometry.Coordinate

/-!
# Points and sizes

A pair of coordinates stands for a position or for an extent. Operations act on both coordinates.
-/

namespace Overhead

/-- A position or an extent; `y` grows downwards. -/
structure Vec (α : Type) where
  x : α
  y : α
deriving DecidableEq

/-- Positions and extents in the coordinates the program computes in. -/
abbrev Point := Vec Float32

namespace Vec

variable {α : Type}

def add [Add α] (a b : Vec α) : Vec α :=
  ⟨a.x + b.x, a.y + b.y⟩

def sub [Sub α] (a b : Vec α) : Vec α :=
  ⟨a.x - b.x, a.y - b.y⟩

def scale [Mul α] (a : Vec α) (factor : α) : Vec α :=
  ⟨a.x * factor, a.y * factor⟩

def half [Div α] [Coordinate α] (a : Vec α) : Vec α :=
  ⟨a.x / Coordinate.ofNat 2, a.y / Coordinate.ofNat 2⟩

instance [Add α] : Add (Vec α) := ⟨add⟩

instance [Sub α] : Sub (Vec α) := ⟨sub⟩

def square (a : α) : Vec α :=
  ⟨a, a⟩

@[simp] theorem add_x [Add α] (a b : Vec α) : (a + b).x = a.x + b.x := rfl

@[simp] theorem add_y [Add α] (a b : Vec α) : (a + b).y = a.y + b.y := rfl

@[simp] theorem sub_x [Sub α] (a b : Vec α) : (a - b).x = a.x - b.x := rfl

@[simp] theorem sub_y [Sub α] (a b : Vec α) : (a - b).y = a.y - b.y := rfl

end Vec

namespace Point

def zero : Point :=
  ⟨0, 0⟩

/-- The length of the straight line between two points. -/
def distance (a b : Point) : Float32 :=
  let d := a - b
  (d.x * d.x + d.y * d.y).sqrt

/-- The point that lies the fraction `t` of the way from `a` to `b`. -/
def towards (a b : Point) (t : Float32) : Point :=
  a + (b - a).scale t

end Point
end Overhead
