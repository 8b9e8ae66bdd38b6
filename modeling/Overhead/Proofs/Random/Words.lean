import Overhead.Rainbow

/-!
# The words of a source

What a source gives is told by how many words were read from it before. Every source can be made to
count them.
-/

namespace Overhead

namespace Random

variable {ρ : Type} [RandomSource ρ]

/-- What is left of a source when some words were read. -/
def skip (source : ρ) : Nat → ρ
  | 0 => source
  | n + 1 => (RandomSource.next (skip source n)).2

/-- The number below one that follows when some words were read. -/
def unitAt (source : ρ) (n : Nat) : Float32 :=
  (unit (skip source n)).1

theorem unit_skip (source : ρ) (n : Nat) :
    unit (skip source n) = (unitAt source n, skip source (n + 1)) := rfl

end Random

namespace Tint

variable {ρ : Type} [RandomSource ρ]

/-- The tints of a source, one after another. Each takes two words, one for the hue and then one
for the lightness. -/
def nth (source : ρ) (k : Nat) : Tint :=
  { hue := Random.unitAt source (2 * k)
    saturation := 1
    lightness := Random.unitAt source (2 * k + 1)
    alpha := 1 }

theorem random_skip (source : ρ) (k : Nat) :
    random (Random.skip source (2 * k)) = (nth source k, Random.skip source (2 * (k + 1))) := by
  have hsecond := Random.unit_skip source (2 * k + 1)
  simp only [random, Random.unit_skip, hsecond]
  rfl

end Tint

/-! ## Counted words -/

namespace Random

structure Counted (ρ : Type) where
  source : ρ
  count : Nat := 0

namespace Counted

variable {ρ : Type} [RandomSource ρ]

instance : RandomSource (Counted ρ) where
  next counted :=
    let (w, source) := RandomSource.next counted.source
    (w, { source := source, count := counted.count + 1 })

theorem skip_eq (counted : Counted ρ) (n : Nat) :
    skip counted n = { source := skip counted.source n, count := counted.count + n } := by
  induction n with
  | zero => rfl
  | succ n ih =>
      rw [skip, ih]
      rfl

end Counted
end Random
end Overhead
