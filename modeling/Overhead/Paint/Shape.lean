import Overhead.Color.Pixel
import Overhead.Geometry.Area

/-!
# Painted shapes

What a frame consists of in the end: shapes in points of the window, in the order they are painted.
-/

namespace Overhead

structure Stroke where
  width : Float32
  color : Pixel
deriving DecidableEq

def Stroke.none : Stroke :=
  { width := 0, color := Pixel.transparent }

/-- A corner of a textured shape. -/
structure Vertex where
  position : Point
  /-- Where the corner lies on the texture. -/
  uv : Point
  color : Pixel
deriving DecidableEq

inductive Shape where
  | circle (center : Point) (radius : Float32) (fill : Pixel) (stroke : Stroke)
  | rect (low high : Point) (fill : Pixel) (stroke : Stroke)
  | path (points : List Point) (closed : Bool) (fill : Pixel) (stroke : Stroke)
  | text (text : String) (position : Point) (color : Pixel)
  /-- Textured triangles, three indices each. -/
  | mesh (texture : Nat) (indices : List Nat) (vertices : List Vertex)
deriving DecidableEq

namespace Shape

def disc (center : Point) (radius : Float32) (color : Pixel) : Shape :=
  .circle center radius color Stroke.none

def ring (center : Point) (radius width : Float32) (color : Pixel) : Shape :=
  .circle center radius Pixel.transparent { width := width, color := color }

def polygon (points : List Point) (color : Pixel) : Shape :=
  .path points true color Stroke.none

end Shape

namespace Point

/-- Turns a point around the origin. -/
def turn (p : Point) (angle : Float32) : Point :=
  let s := angle.sin
  let c := angle.cos
  ⟨c * p.x - s * p.y, s * p.x + c * p.y⟩

end Point
end Overhead
