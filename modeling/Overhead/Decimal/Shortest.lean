/-!
# The shortest decimal of a double

A double is written with the fewest digits that read back as the same double, and among those with
the digits nearest to it. The digits are found on the coarsest decimal grid that has a point in the
interval of numbers rounding to the double.
-/

namespace Overhead
namespace Decimal

/-- The number `digits * 10 ^ exponent`. -/
structure Scientific where
  digits : Nat
  exponent : Int
deriving DecidableEq

/-- A positive double and the interval of the numbers that round to it, all three as multiples of
`numerator / denominator`. The ends of the interval count if `closed` is set. -/
structure Rounding where
  low : Nat
  value : Nat
  high : Nat
  numerator : Nat
  denominator : Nat
  closed : Bool

/-- The rounding interval of the positive finite double with the given bits. Below a power of two
the doubles are twice as close as above it. -/
def Rounding.ofBits (bits : Nat) : Rounding :=
  let field : Nat := bits / Nat.pow 2 52 % Nat.pow 2 11
  let fraction : Nat := bits % Nat.pow 2 52
  let significand : Nat := if field = 0 then fraction else fraction + Nat.pow 2 52
  let exponent : Int := (if field = 0 then 1 else (field : Int)) - 1077
  { low := 4 * significand - (if fraction = 0 && 1 < field then 1 else 2)
    value := 4 * significand
    high := 4 * significand + 2
    numerator := Nat.pow 2 exponent.toNat
    denominator := Nat.pow 2 (-exponent).toNat
    closed := significand % 2 == 0 }

/-- The point of the grid of multiples of `10 ^ exponent` that is nearest to the double, if a point
of the grid lies in its interval. -/
def Rounding.gridPoint (r : Rounding) (exponent : Int) : Option Scientific :=
  let unit := r.denominator * Nat.pow 10 exponent.toNat
  let scale := r.numerator * Nat.pow 10 (-exponent).toNat
  let inside (point : Nat) : Bool :=
    if r.closed then r.low * scale ≤ point * unit && point * unit ≤ r.high * scale
    else r.low * scale < point * unit && point * unit < r.high * scale
  let below := r.value * scale / unit
  let above := below + 1
  let nearerBelow := r.value * scale - below * unit ≤ above * unit - r.value * scale
  if inside below && (nearerBelow || !inside above) then some ⟨below, exponent⟩
  else if inside above then some ⟨above, exponent⟩
  else none

def topExponent : Nat :=
  309

/-- The shortest decimal of a positive finite double. -/
def shortest (bits : Nat) : Option Scientific :=
  let r := Rounding.ofBits bits
  (List.range 660).findSome? fun (step : Nat) => r.gridPoint ((topExponent : Int) - (step : Int))

/-- Writes a number without an exponent, and with a fraction even if that is zero. -/
def Scientific.positional (s : Scientific) : String :=
  let digits := Nat.toDigits 10 s.digits
  if 0 ≤ s.exponent then
    String.ofList (digits ++ List.replicate s.exponent.toNat '0' ++ ['.', '0'])
  else
    let places := (-s.exponent).toNat
    let padded := List.replicate (places + 1 - digits.length) '0' ++ digits
    String.ofList
      (padded.take (padded.length - places) ++ '.' :: padded.drop (padded.length - places))

def ofFloat (x : Float) : String :=
  let bits : Nat := x.toBits.toNat
  let sign := if bits / Nat.pow 2 63 = 1 then "-" else ""
  if x.isNaN then "NaN"
  else if x.isInf then sign ++ "inf"
  else
    match shortest (bits % Nat.pow 2 63) with
    | some s => if bits % Nat.pow 2 63 = 0 then sign ++ "0.0" else sign ++ s.positional
    | none => sign ++ "0.0"

end Decimal
end Overhead
