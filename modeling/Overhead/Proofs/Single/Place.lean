import Mathlib.Data.Prod.Lex
import Overhead.Proofs.Single.Order

/-!
# The places of single-precision numbers

Apart from NaN, single-precision numbers stand in a row in which the two zeros share a place. Whether
a number is below another or equal to it is told by their places, so what holds of any linear order
holds of numbers.
-/

namespace Overhead
namespace Single

open Float.Model

/-! ## Places -/

/-- The place of a number: its side and kind, then its exponent and significand, which count
backwards below zero. -/
def place : UnpackedFloat → ℤ ×ₗ ℤ ×ₗ ℤ
  | .infinity .negative => toLex (-2, toLex (0, 0))
  | .finite .negative m e _ => toLex (-1, toLex (-e, -m))
  | .zero _ | .notANumber => toLex (0, toLex (0, 0))
  | .finite .positive m e _ => toLex (1, toLex (e, m))
  | .infinity .positive => toLex (2, toLex (0, 0))

theorem compare_neg (a b : ℤ) : compare (-a) (-b) = (compare a b).swap := by
  rw [Int.compare_swap]
  simp only [Int.compare_eq_ite_lt, neg_lt_neg_iff]

theorem compare_natCast (m n : ℕ) : compare (m : ℤ) n = compare m n := by
  simp only [Int.compare_eq_ite_lt, Nat.compare_eq_ite_lt, Nat.cast_lt]

theorem compare_eq_place {a b : UnpackedFloat} (ha : a ≠ .notANumber) (hb : b ≠ .notANumber) :
    a.compare b = some (compare (place a) (place b)) := by
  cases a with
  | notANumber => exact absurd rfl ha
  | infinity s =>
      cases b with
      | notANumber => exact absurd rfl hb
      | infinity t => cases s <;> cases t <;> rfl
      | zero t => cases s <;> rfl
      | finite t n f hn => cases s <;> cases t <;> rfl
  | zero s =>
      cases b with
      | notANumber => exact absurd rfl hb
      | infinity t => cases t <;> rfl
      | zero t => rfl
      | finite t n f hn => cases t <;> rfl
  | finite s m e hm =>
      cases b with
      | notANumber => exact absurd rfl hb
      | infinity t => cases s <;> cases t <;> rfl
      | zero t => cases s <;> rfl
      | finite t n f hn =>
          cases s with
          | negative =>
              cases t with
              | negative =>
                  have hplaces : compare (place (.finite .negative m e hm))
                      (place (.finite .negative n f hn)) =
                        (compare (-e) (-f)).then (compare (-m : ℤ) (-n)) := rfl
                  rw [hplaces, compare_neg, compare_neg, compare_natCast, ← Ordering.swap_then]
                  rfl
              | positive => rfl
          | positive =>
              cases t with
              | negative => rfl
              | positive =>
                  have hplaces : compare (place (.finite .positive m e hm))
                      (place (.finite .positive n f hn)) =
                        (compare e f).then (compare (m : ℤ) n) := rfl
                  rw [hplaces, compare_natCast]
                  rfl

theorem compare_eq_some_iff {a b : UnpackedFloat} {order : Ordering} :
    a.compare b = some order ↔
      a ≠ .notANumber ∧ b ≠ .notANumber ∧ compare (place a) (place b) = order := by
  by_cases ha : a = .notANumber
  · simp [ha, UnpackedFloat.compare]
  by_cases hb : b = .notANumber
  · cases a <;> simp [hb, UnpackedFloat.compare]
  rw [compare_eq_place ha hb, Option.some.injEq]
  exact ⟨fun h => ⟨ha, hb, h⟩, fun h => h.2.2⟩

theorem isNaN_eq_false_iff {a : Float32} :
    a.isNaN = false ↔ a.toModel.unpack ≠ .notANumber := by
  rw [← Bool.not_eq_true]
  exact not_congr UnpackedFloat.isNaN_iff

def placeOf (a : Float32) : ℤ ×ₗ ℤ ×ₗ ℤ :=
  place a.toModel.unpack

section

variable {a b : Float32}

theorem lt_iff_place : a < b ↔ a.isNaN = false ∧ b.isNaN = false ∧ placeOf a < placeOf b := by
  have hlt : a < b ↔ UnpackedFloat.lt a.toModel.unpack b.toModel.unpack = true :=
    decide_eq_true_iff
  rw [hlt, UnpackedFloat.lt, beq_iff_eq, compare_eq_some_iff, compare_lt_iff_lt,
    isNaN_eq_false_iff, isNaN_eq_false_iff]
  rfl

theorem beq_iff_place : a == b ↔ a.isNaN = false ∧ b.isNaN = false ∧ placeOf a = placeOf b := by
  have hbeq : a == b ↔ UnpackedFloat.beq a.toModel.unpack b.toModel.unpack = true := Iff.rfl
  rw [hbeq, UnpackedFloat.beq, beq_iff_eq, compare_eq_some_iff, compare_eq_iff_eq,
    isNaN_eq_false_iff, isNaN_eq_false_iff]
  rfl

theorem le_iff_place : a ≤ b ↔ a.isNaN = false ∧ b.isNaN = false ∧ placeOf a ≤ placeOf b := by
  have hle : a ≤ b ↔ UnpackedFloat.le a.toModel.unpack b.toModel.unpack = true :=
    decide_eq_true_iff
  rw [hle, UnpackedFloat.le, Option.any_eq_true]
  simp only [compare_eq_some_iff, isNaN_eq_false_iff, and_assoc, exists_and_left, exists_eq_left']
  rw [Ordering.isLE_iff_ne_gt, ← ne_eq, compare_le_iff_le]
  rfl

end

protected theorem le_trans {a b c : Float32} (h : a ≤ b) (h' : b ≤ c) : a ≤ c := by
  obtain ⟨ha, -, hab⟩ := le_iff_place.mp h
  obtain ⟨-, hc, hbc⟩ := le_iff_place.mp h'
  exact le_iff_place.mpr ⟨ha, hc, hab.trans hbc⟩

/-! ## The larger of two numbers -/

/-- An operation that gives the larger of two numbers. NaN loses against every number, and of two
numbers that equal each other either may be given. -/
structure Maximum (larger : Float32 → Float32 → Float32) : Prop where
  of_nan_left {a b : Float32} : a.isNaN → larger a b = b
  of_nan_right {a b : Float32} : b.isNaN → larger a b = a
  of_lt {a b : Float32} : a < b → larger a b = b
  of_gt {a b : Float32} : b < a → larger a b = a
  of_beq {a b : Float32} : a == b → larger a b = a ∨ larger a b = b

theorem maximum_larger : Maximum larger where
  of_nan_left h := if_pos h
  of_nan_right {a b} h := by
    by_cases ha : a.isNaN
    · rw [larger, if_pos ha]
      rw [Float32.isNaN_eq_decide_eq_nan, decide_eq_true_eq] at h ha
      rw [h, ha]
    · have hlt : ¬ a < b := fun hlt => ne_true_of_eq_false (lt_iff_place.mp hlt).2.1 h
      rw [larger, if_neg ha, if_neg hlt]
  of_lt {a b} h := by
    obtain ⟨ha, -⟩ := lt_iff_place.mp h
    rw [larger, if_neg (ne_true_of_eq_false ha), if_pos h]
  of_gt {a b} h := by
    obtain ⟨-, ha, hplaces⟩ := lt_iff_place.mp h
    have hlt : ¬ a < b := fun hlt => lt_asymm hplaces (lt_iff_place.mp hlt).2.2
    rw [larger, if_neg (ne_true_of_eq_false ha), if_neg hlt]
  of_beq {a b} h := by
    obtain ⟨ha, -, hplaces⟩ := beq_iff_place.mp h
    have hlt : ¬ a < b := fun hlt => (lt_iff_place.mp hlt).2.2.ne hplaces
    rw [larger, if_neg (ne_true_of_eq_false ha), if_neg hlt]
    exact Or.inl rfl

/-- The larger of a number and anything is a number. Its place is the higher one, or that of the
number where there is no other. -/
theorem Maximum.place_larger {larger : Float32 → Float32 → Float32} (h : Maximum larger)
    {a : Float32} (ha : a.isNaN = false) (b : Float32) :
    (larger a b).isNaN = false ∧
      placeOf (larger a b) = if b.isNaN then placeOf a else max (placeOf a) (placeOf b) := by
  by_cases hb : b.isNaN
  · rw [h.of_nan_right hb, if_pos hb]
    exact ⟨ha, rfl⟩
  · have hb' : b.isNaN = false := eq_false_of_ne_true hb
    rw [if_neg hb]
    rcases lt_trichotomy (placeOf a) (placeOf b) with hlt | heq | hgt
    · rw [h.of_lt (lt_iff_place.mpr ⟨ha, hb', hlt⟩), max_eq_right hlt.le]
      exact ⟨hb', rfl⟩
    · rw [← heq, max_self]
      rcases h.of_beq (beq_iff_place.mpr ⟨ha, hb', heq⟩) with hleft | hright
      · rw [hleft]
        exact ⟨ha, rfl⟩
      · rw [hright]
        exact ⟨hb', heq.symm⟩
    · rw [h.of_gt (lt_iff_place.mpr ⟨hb', ha, hgt⟩), max_eq_left hgt.le]
      exact ⟨ha, rfl⟩

section

variable {larger : Float32 → Float32 → Float32} {a b : Float32}

theorem Maximum.le_left (h : Maximum larger) (ha : a.isNaN = false) : a ≤ larger a b := by
  obtain ⟨hnumber, hplace⟩ := h.place_larger ha b
  refine le_iff_place.mpr ⟨ha, hnumber, ?_⟩
  rw [hplace]
  split
  · exact le_rfl
  · exact le_max_left _ _

theorem Maximum.le_right (h : Maximum larger) (ha : a.isNaN = false) (hb : b.isNaN = false) :
    b ≤ larger a b := by
  obtain ⟨hnumber, hplace⟩ := h.place_larger ha b
  refine le_iff_place.mpr ⟨hb, hnumber, ?_⟩
  rw [hplace, if_neg (ne_true_of_eq_false hb)]
  exact le_max_right _ _

/-- A number stays what it is beside NaN and beside a number that is no higher. -/
theorem Maximum.beq_left (h : Maximum larger) (ha : a.isNaN = false) (hb : b.isNaN ∨ b ≤ a) :
    larger a b == a := by
  obtain ⟨hnumber, hplace⟩ := h.place_larger ha b
  refine beq_iff_place.mpr ⟨hnumber, ha, ?_⟩
  rw [hplace]
  rcases hb with hnan | hle
  · exact if_pos hnan
  · obtain ⟨hb, -, hplaces⟩ := le_iff_place.mp hle
    rw [if_neg (ne_true_of_eq_false hb)]
    exact max_eq_left hplaces

end

/-! ## Numbers that are the same -/

def Same (a b : Float32) : Prop :=
  a == b ∨ a.isNaN ∧ b.isNaN

instance (a b : Float32) : Decidable (Same a b) :=
  inferInstanceAs (Decidable (_ ∨ _))

/-- Numbers that are the same are identical, apart from the sign of a zero. -/
theorem same_iff {a b : Float32} : Same a b ↔ a = b ∨ a = 0 ∧ b = -0 ∨ a = -0 ∧ b = 0 := by
  rw [Same, Float32.beq_iff_ne_nan_and_eq, Float32.isNaN_eq_decide_eq_nan,
    Float32.isNaN_eq_decide_eq_nan, decide_eq_true_iff, decide_eq_true_iff]
  have hzero : (0 : Float32) ≠ Float32.nan := by decide
  have hminus : (-0 : Float32) ≠ Float32.nan := by decide
  constructor
  · rintro (⟨-, -, h⟩ | ⟨ha, hb⟩)
    · exact h
    · exact Or.inl (ha.trans hb.symm)
  · rintro (rfl | ⟨rfl, rfl⟩ | ⟨rfl, rfl⟩)
    · by_cases ha : a = Float32.nan
      · exact Or.inr ⟨ha, ha⟩
      · exact Or.inl ⟨ha, ha, Or.inl rfl⟩
    · exact Or.inl ⟨hzero, hminus, Or.inr (Or.inl ⟨rfl, rfl⟩)⟩
    · exact Or.inl ⟨hminus, hzero, Or.inr (Or.inr ⟨rfl, rfl⟩)⟩

theorem Same.refl (a : Float32) : Same a a :=
  same_iff.mpr (Or.inl rfl)

theorem Same.symm {a b : Float32} (h : Same a b) : Same b a := by
  rcases same_iff.mp h with rfl | ⟨rfl, rfl⟩ | ⟨rfl, rfl⟩
  · exact h
  · exact same_iff.mpr (Or.inr (Or.inr ⟨rfl, rfl⟩))
  · exact same_iff.mpr (Or.inr (Or.inl ⟨rfl, rfl⟩))

theorem Same.trans {a b c : Float32} (h : Same a b) (h' : Same b c) : Same a c := by
  have hsigns : (0 : Float32) ≠ -0 := by decide
  rcases same_iff.mp h with rfl | ⟨rfl, rfl⟩ | ⟨rfl, rfl⟩
  · exact h'
  · rcases same_iff.mp h' with rfl | ⟨hzero, -⟩ | ⟨-, rfl⟩
    · exact h
    · exact absurd hzero.symm hsigns
    · exact .refl 0
  · rcases same_iff.mp h' with rfl | ⟨-, rfl⟩ | ⟨hminus, -⟩
    · exact h
    · exact .refl (-0)
    · exact absurd hminus hsigns

/-- An operation that cannot tell the two zeros apart cannot tell any same numbers apart. -/
theorem Same.map {a b : Float32} (h : Same a b) {f : Float32 → Float32}
    (hzeros : Same (f 0) (f (-0))) : Same (f a) (f b) := by
  rcases same_iff.mp h with rfl | ⟨rfl, rfl⟩ | ⟨rfl, rfl⟩
  · exact .refl _
  · exact hzeros
  · exact hzeros.symm

/-- An operation that tells the two zeros apart only beside a third zero, and gives a zero there,
gives the same for both. -/
theorem same_at_zeros {f : UnpackedFloat → UnpackedFloat → UnpackedFloat}
    (hothers : ∀ x, (∀ s, x ≠ .zero s) → f x (.zero .positive) = f x (.zero .negative))
    (hzeros : ∀ s t, ∃ u, f (.zero s) (.zero t) = .zero u) (x : UnpackedFloat) :
    Same (.ofModel (.pack (f x (.zero .positive)))) (.ofModel (.pack (f x (.zero .negative)))) := by
  by_cases hx : ∃ s, x = .zero s
  · obtain ⟨s, rfl⟩ := hx
    obtain ⟨u, hu⟩ := hzeros s .positive
    obtain ⟨v, hv⟩ := hzeros s .negative
    rw [hu, hv]
    cases u <;> cases v <;> decide
  · rw [hothers x (not_exists.mp hx)]
    exact .refl _

theorem same_sub_zeros (a : Float32) : Same (a - 0) (a - -0) := by
  refine same_at_zeros (f := UnpackedFloat.sub .binary32) (fun x hx => ?_) (fun s t => ?_)
    a.toModel.unpack
  · cases x with
    | zero s => exact absurd rfl (hx s)
    | notANumber | infinity | finite => rfl
  · cases s <;> cases t <;> exact ⟨_, rfl⟩

theorem same_add_zeros (a : Float32) : Same (a + 0) (a + -0) := by
  refine same_at_zeros (f := UnpackedFloat.add .binary32) (fun x hx => ?_) (fun s t => ?_)
    a.toModel.unpack
  · cases x with
    | zero s => exact absurd rfl (hx s)
    | notANumber | infinity | finite => rfl
  · cases s <;> cases t <;> exact ⟨_, rfl⟩

theorem same_zeros_add (a : Float32) : Same (0 + a) (-0 + a) := by
  refine same_at_zeros (f := fun x z => UnpackedFloat.add .binary32 z x) (fun x hx => ?_)
    (fun s t => ?_) a.toModel.unpack
  · cases x with
    | zero s => exact absurd rfl (hx s)
    | notANumber | infinity | finite => rfl
  · cases s <;> cases t <;> exact ⟨_, rfl⟩

theorem Same.add {a b c d : Float32} (h : Same a b) (h' : Same c d) : Same (a + c) (b + d) := by
  have hleft : Same (a + c) (b + c) := h.map (f := (· + c)) (same_zeros_add c)
  have hright : Same (b + c) (b + d) := h'.map (f := (b + ·)) (same_add_zeros b)
  exact hleft.trans hright

theorem Same.sub_left {a b : Float32} (h : Same a b) (c : Float32) : Same (c - a) (c - b) :=
  h.map (f := (c - ·)) (same_sub_zeros c)

end Single
end Overhead
