import Overhead.Random.Basic

/-!
# Whole numbers below a bound

A draw that is taken is a fraction of the numbers of its width, and its high half is the same
fraction of the bound. So whatever the words of a source are, a number that is drawn below a bound
is below it.
-/

namespace Overhead
namespace Random

variable {ρ : Type}

theorem takeBelow_lt {draw : ρ → Nat × ρ} {bits n : Nat}
    (hdraw : ∀ source, (draw source).1 < Nat.pow 2 bits) (hn : 0 < n) (left : Nat) (source : ρ) :
    (takeBelow draw bits n left source).1 < n := by
  induction left generalizing source with
  | zero => exact hn
  | succ left ih =>
      simp only [takeBelow]
      split
      · exact Nat.div_lt_of_lt_mul (Nat.mul_lt_mul_of_pos_right (hdraw source) hn)
      · exact ih (draw source).2

variable [RandomSource ρ]

theorem word_lt (source : ρ) : (word source).1 < Nat.pow 2 32 :=
  (RandomSource.next source).1.toNat_lt

theorem doubleWord_lt (source : ρ) : (doubleWord source).1 < Nat.pow 2 64 := by
  have hlow := word_lt source
  have hhigh := word_lt (word source).2
  show (word source).1 + Nat.pow 2 32 * (word (word source).2).1 < Nat.pow 2 64
  simp only [Nat.pow_eq] at hlow hhigh ⊢
  omega

theorem below_lt {n : Nat} (hn : 0 < n) (source : ρ) : (below n source).1 < n :=
  takeBelow_lt word_lt hn tries source

theorem belowWide_lt {n : Nat} (hn : 0 < n) (source : ρ) : (belowWide n source).1 < n :=
  takeBelow_lt doubleWord_lt hn tries source

end Random
end Overhead
