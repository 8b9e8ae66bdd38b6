/-!
# Exact operations on single-precision numbers

Rounding to an integer and remainders of division have exactly representable results, so they are
computed here on the significand and exponent of a number instead of by rounding. Every result
keeps the sign of its first argument, also when it is zero.
-/

namespace Overhead
namespace Single

/-- A finite number `± significand * 2 ^ exponent`. -/
structure Parts where
  negative : Bool
  significand : Nat
  exponent : Int

/-- The sign, significand and exponent that the bits of a finite number stand for. -/
def parts (x : Float32) : Parts :=
  let bits : Nat := x.toBits.toNat
  let field : Nat := bits / Nat.pow 2 23 % 256
  { negative := bits / Nat.pow 2 31 == 1
    significand := if field = 0 then bits % Nat.pow 2 23 else bits % Nat.pow 2 23 + Nat.pow 2 23
    exponent := if field = 0 then -149 else (field : Int) - 150 }

/-- The number `± significand * 2 ^ exponent`, for a significand below `2 ^ 24` and an exponent of
at least `-149`, so that nothing has to be rounded. -/
def ofParts (p : Parts) : Float32 :=
  let sign := if p.negative then Nat.pow 2 31 else 0
  let width := p.significand.log2
  let magnitude :=
    if p.significand = 0 then 0
    else if p.exponent + width < -126 then p.significand * Nat.pow 2 (p.exponent + 149).toNat
    else
      (p.exponent + width + 127).toNat * Nat.pow 2 23 +
        (p.significand * Nat.pow 2 (23 - width) - Nat.pow 2 23)
  Float32.ofBits (UInt32.ofNat (sign + magnitude))

/-- The largest integer that is not above `x`; infinities and NaN stay as they are. -/
def floor (x : Float32) : Float32 :=
  let p := parts x
  if !x.isFinite || 0 ≤ p.exponent then x
  else
    let unit : Nat := Nat.pow 2 (-p.exponent).toNat
    let whole := p.significand / unit
    let up := p.negative && p.significand % unit != 0
    ofParts { p with significand := if up then whole + 1 else whole, exponent := 0 }

/-- The nearest integer, where a half goes away from zero. -/
def round (x : Float32) : Float32 :=
  let p := parts x
  if !x.isFinite || 0 ≤ p.exponent then x
  else
    let unit : Nat := Nat.pow 2 (-p.exponent).toNat
    ofParts { p with significand := (p.significand + unit / 2) / unit, exponent := 0 }

/-- The remainder of the division of `x` by `y` whose quotient is cut towards zero. -/
def remainder (x y : Float32) : Float32 :=
  if !x.isFinite || y.isNaN || y == 0 then Float32.ofBits 0x7fc00000
  else if !y.isFinite then x
  else
    let p := parts x
    let q := parts y
    let exponent := min p.exponent q.exponent
    let scale (r : Parts) : Nat := r.significand * Nat.pow 2 (r.exponent - exponent).toNat
    ofParts { p with significand := scale p % scale q, exponent := exponent }

/-- The remainder that is moved into `0 .. |y|` when it is negative. -/
def remainderUp (x y : Float32) : Float32 :=
  let r := remainder x y
  if r < 0 then r + y.abs else r

/-- The larger of two numbers; NaN loses against every number. -/
def larger (a b : Float32) : Float32 :=
  if a.isNaN then b else if a < b then b else a

/-- The smaller of two numbers; NaN loses against every number. -/
def smaller (a b : Float32) : Float32 :=
  if a.isNaN then b else if b < a then b else a

/-- Moves `x` into `low .. high`; NaN stays NaN. -/
def clamp (low high x : Float32) : Float32 :=
  let x := if x < low then low else x
  if high < x then high else x

def halfTurn : Float32 :=
  Float32.ofBits 0x40490fdb

/-- Negative infinity, below every font size. -/
def belowAll : Float32 :=
  Float32.ofBits 0xff800000

end Single
end Overhead
