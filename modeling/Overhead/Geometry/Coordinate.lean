import Overhead.Single

/-!
# Coordinates

Layout and screen mapping only add, subtract, scale and compare, so they are written for any type
of coordinates. The program computes in single precision; statements about the geometry itself can
be made in an exact field.
-/

namespace Overhead

/-- What coordinates need beyond the four operations: whole numbers and the larger of two. -/
class Coordinate (α : Type) where
  ofNat : Nat → α
  larger : α → α → α

/-- What the size of a screen needs beyond that: square roots and an order that can be tested.
`usable` tells the numbers a ratio may have: positive and neither infinite nor undefined. -/
class Measure (α : Type) extends Coordinate α where
  sqrt : α → α
  below : α → α → Bool
  usable : α → Bool

instance : Measure Float32 where
  ofNat := Float32.ofNat
  larger := Single.larger
  sqrt := Float32.sqrt
  below a b := decide (a < b)
  usable a := a.isFinite && decide (0 < a)

end Overhead
