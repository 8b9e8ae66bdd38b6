import Mathlib
import Overhead.Single

/-!
# The order of single-precision numbers

The order is partial: NaN is neither below nor above anything. So a bound is told by what a number
is not, and clamping keeps such bounds for every number. NaN does not even equal itself, but numbers
that do equal each other cannot be told apart by comparing them with a third.

The laws of this equality come from Batteries. No single file of Mathlib brings them in, so this
module takes in the whole of it.
-/

namespace Overhead
namespace Single

open Float.Model

theorem le_of_lt {a b : Float32} (h : a < b) : a ≤ b := by
  have hlt : a < b ↔ UnpackedFloat.lt a.toModel.unpack b.toModel.unpack = true :=
    decide_eq_true_iff
  have hle : a ≤ b ↔ UnpackedFloat.le a.toModel.unpack b.toModel.unpack = true :=
    decide_eq_true_iff
  have hbelow := hlt.mp h
  rw [UnpackedFloat.lt, beq_iff_eq] at hbelow
  rw [hle, UnpackedFloat.le, hbelow]
  rfl

section

variable {low high : Float32}

theorem not_clamp_lt (hlow : ¬ low < low) (hhigh : ¬ high < low) (x : Float32) :
    ¬ clamp low high x < low := by
  unfold clamp
  by_cases hx : x < low
  · simp only [if_pos hx]
    split
    · exact hhigh
    · exact hlow
  · simp only [if_neg hx]
    split
    · exact hhigh
    · exact hx

theorem not_lt_clamp (hhigh : ¬ high < high) (x : Float32) : ¬ high < clamp low high x := by
  unfold clamp
  generalize (if x < low then low else x) = y
  by_cases hy : high < y
  · simp only [if_pos hy]
    exact hhigh
  · simp only [if_neg hy]
    exact hy

end

/-! ## Equality -/

theorem bne_eq_of_beq {a b : Float32} (h : a == b) (c : Float32) : (a != c) = (b != c) := by
  have hzeros : ((0 : Float32) == c) = (-0 == c) := by
    rw [Bool.eq_iff_iff, Float32.beq_iff_ne_nan_and_eq, Float32.beq_iff_ne_nan_and_eq]
    have hzero : (0 : Float32) ≠ Float32.nan := by decide
    have hminus : (-0 : Float32) ≠ Float32.nan := by decide
    have hsigns : (0 : Float32) ≠ -0 := by decide
    constructor
    · rintro ⟨-, hc, rfl | ⟨-, rfl⟩ | ⟨heq, -⟩⟩
      · exact ⟨hminus, hc, .inr (.inr ⟨rfl, rfl⟩)⟩
      · exact ⟨hminus, hc, .inl rfl⟩
      · exact (hsigns heq).elim
    · rintro ⟨-, hc, rfl | ⟨heq, -⟩ | ⟨-, rfl⟩⟩
      · exact ⟨hzero, hc, .inr (.inl ⟨rfl, rfl⟩)⟩
      · exact (hsigns heq.symm).elim
      · exact ⟨hzero, hc, .inl rfl⟩
  obtain ⟨-, -, rfl | ⟨rfl, rfl⟩ | ⟨rfl, rfl⟩⟩ := Float32.beq_iff_ne_nan_and_eq.mp h
  · rfl
  · rw [bne, bne, hzeros]
  · rw [bne, bne, hzeros]

end Single
end Overhead
