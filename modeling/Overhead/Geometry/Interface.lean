import Overhead.Geometry.Area

/-!
# The reference screen

At the reference zoom every aspect ratio sees the same area of the world, within a widest and a
tallest screen. The camera shows that screen enlarged by its zoom.
-/

namespace Overhead
namespace Interface

variable {α : Type} [Add α] [Sub α] [Mul α] [Div α] [Measure α]

/-- Square world units seen at the reference zoom when no limit applies. -/
def visibleArea : Nat :=
  1150 * 1000

def widest : Nat :=
  1500

def tallest : Nat :=
  1050

/-- A screen that is wider than allowed keeps its aspect ratio at the greatest width. -/
def limitWidth (aspect : α) (size : Vec α) : Vec α :=
  let limit : α := Coordinate.ofNat widest
  if Measure.below limit size.x then ⟨limit, limit / aspect⟩ else size

/-- A screen that is taller than allowed keeps its aspect ratio at the greatest height. -/
def limitHeight (aspect : α) (size : Vec α) : Vec α :=
  let limit : α := Coordinate.ofNat tallest
  if Measure.below limit size.y then ⟨limit * aspect, limit⟩ else size

/-- The size of the world area seen at the reference zoom. A ratio that no screen can have counts
as a square screen. -/
def size (aspect : α) : Vec α :=
  let aspect := if Measure.usable aspect then aspect else Coordinate.ofNat 1
  let height := Measure.sqrt (Coordinate.ofNat visibleArea : α) / Measure.sqrt aspect
  limitHeight aspect (limitWidth aspect ⟨height * aspect, height⟩)

end Interface

/-- The middle of the screen and how far it is zoomed out. -/
structure Camera (α : Type) where
  center : Vec α
  zoom : α

namespace Camera

/-- The world area that a viewport of the given aspect ratio shows. -/
def screen {α : Type} [Add α] [Sub α] [Mul α] [Div α] [Measure α] (camera : Camera α) (aspect : α) :
    Area α :=
  Area.around camera.center ((Interface.size aspect).scale camera.zoom)

def initial : Camera Float32 :=
  { center := Point.zero, zoom := 1 }

/-- Zooms in by a tenth a step, and out by negative steps, between half and three times the
reference zoom. -/
def zoomBy (camera : Camera Float32) (steps : Float32) : Camera Float32 :=
  { camera with zoom := Single.clamp 0.5 3 (camera.zoom * Float32.pow 1.1 (-steps)) }

end Camera
end Overhead
