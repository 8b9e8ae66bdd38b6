import Overhead.Single

/-!
# Random numbers

Everything random is drawn from a source of 32-bit words. Whole numbers below a bound are drawn
without bias: a word that would make some results more likely than others is thrown away.
-/

namespace Overhead

/-- A sequence of words that is read one by one. -/
class RandomSource (ρ : Type) where
  next : ρ → UInt32 × ρ

namespace Random

variable {ρ : Type} [RandomSource ρ]

def word (source : ρ) : Nat × ρ :=
  let (w, source) := RandomSource.next source
  (w.toNat, source)

/-- The next two words as a number, the low one first. -/
def doubleWord (source : ρ) : Nat × ρ :=
  let (low, source) := word source
  let (high, source) := word source
  (low + Nat.pow 2 32 * high, source)

/-- A number below one. -/
def unit (source : ρ) : Float32 × ρ :=
  let (w, source) := RandomSource.next source
  ((w >>> 8).toFloat32 * Float32.ofBits 0x33800000, source)

/-- A number from `low` on and below `high`. The bits of a word make up a number between one and
two, which is then moved into the range. -/
def between (low high : Float32) (source : ρ) : Float32 × ρ :=
  let (w, source) := RandomSource.next source
  ((Float32.ofBits (w >>> 9 ||| 0x3f800000) - 1) * (high - low) + low, source)

/-- How often a draw is repeated at most. Every second draw is thrown away if the bound is a power
of two, and fewer for any other bound. -/
def tries : Nat :=
  512

/-- The largest low half of `draw * n` that is taken, for draws of the given number of bits. -/
def zone (bits n : Nat) : Nat :=
  n * Nat.pow 2 (bits - (n.log2 + 1)) - 1

/-- Draws until the low half of `draw * n` is taken; its high half is the result. Sampling of this
kind has no limit of its own: it would go on where all tries are used up, so the 0 that is given
then is not a number that it has drawn. -/
def takeBelow (draw : ρ → Nat × ρ) (bits n : Nat) : Nat → ρ → Nat × ρ
  | 0, source => (0, source)
  | left + 1, source =>
      let (v, source) := draw source
      if v * n % Nat.pow 2 bits ≤ zone bits n then (v * n / Nat.pow 2 bits, source)
      else takeBelow draw bits n left source

/-- A whole number below `n`, from single words. -/
def below (n : Nat) (source : ρ) : Nat × ρ :=
  takeBelow word 32 n tries source

/-- A whole number below `n`, from pairs of words. -/
def belowWide (n : Nat) (source : ρ) : Nat × ρ :=
  takeBelow doubleWord 64 n tries source

def chance (probability : Float) (source : ρ) : Bool × ρ :=
  let (v, source) := doubleWord source
  (v < (probability * 18446744073709551616).toUInt64.toNat, source)

end Random

/-- Given words that start over at their end. -/
structure WordCycle where
  words : Array UInt32
  index : Nat := 0

instance : RandomSource WordCycle where
  next cycle :=
    (cycle.words.getD (cycle.index % cycle.words.size) 0, { cycle with index := cycle.index + 1 })

end Overhead
