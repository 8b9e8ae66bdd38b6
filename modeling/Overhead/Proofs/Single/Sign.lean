import Overhead.Plate.Data
import Overhead.Proofs.Single.Order

/-!
# Positive numbers in single precision

A sum of a positive number and one that is not negative is positive, however it is rounded, and a
positive number is equal only to itself. So the size of a font is positive, and two sizes are the
same if they compare as equal.
-/

namespace Overhead
namespace Single

open Float.Model Float.Model.UnpackedFloat

/-! ## Taking numbers apart and putting them together -/

/-- A significand that is read with its implicit bit is not zero. -/
theorem toNat_implicit_append_pos {width : Nat} (m : BitVec width) : 0 < (1#1 ++ m).toNat := by
  simp

/-- What a number is when its fields are read again. -/
theorem unpack_packComponents {spec : Format} (s : Sign) (e : BitVec spec.exponentBits)
    (m : BitVec spec.mantissaBitsWithoutImplicit) :
    unpack spec (packComponents spec s e m) =
      let exponent : Int := e.toNat - (spec.exponentBias + spec.mantissaBitsWithoutImplicit)
      if e = -1#_ then if m = 0#_ then .infinity s else .notANumber
      else if e = 0#_ then
        if h : m = 0#_ then .zero s
        else .finite s m.toNat (exponent + 1) (by simpa [BitVec.toNat_pos, BitVec.pos_iff_ne_zero])
      else .finite s (1#1 ++ m).toNat exponent (toNat_implicit_append_pos m) := by
  unfold UnpackedFloat.unpack
  simp only [unpackMantissa_packComponents, unpackExponent_packComponents,
    unpackSign_packComponents, Sign.ofBitVec_toBitVec]

/-! ## Signs -/

/-- Neither undefined nor with a minus sign. -/
def Unsigned : UnpackedFloat → Prop
  | .notANumber => False
  | .infinity s | .zero s | .finite s _ _ _ => s = .positive

def Positive : UnpackedFloat → Prop
  | .notANumber | .zero _ => False
  | .infinity s | .finite s _ _ _ => s = .positive

/-- Positive, and too large to be rounded to zero. -/
def Sturdy : UnpackedFloat → Prop
  | .notANumber | .zero _ => False
  | .infinity s => s = .positive
  | .finite s m e _ => s = .positive ∧ m < 2 ^ 24 ∧ -149 ≤ e

theorem Unsigned.unpack_packComponents (e : BitVec Format.binary32.exponentBits)
    (m : BitVec Format.binary32.mantissaBitsWithoutImplicit) (h : e ≠ -1#_ ∨ m = 0#_) :
    Unsigned (unpack Format.binary32 (packComponents Format.binary32 .positive e m)) := by
  rw [Single.unpack_packComponents]
  dsimp only
  split_ifs with he hm hz hm
  · trivial
  · exact (h.elim (· he) hm).elim
  · trivial
  · trivial
  · trivial

theorem Positive.unpack_packComponents {e : BitVec Format.binary32.exponentBits}
    {m : BitVec Format.binary32.mantissaBitsWithoutImplicit}
    (he : e ≠ -1#_ ∨ m = 0#_) (h : e ≠ 0#_ ∨ m ≠ 0#_) :
    Positive (unpack Format.binary32 (packComponents Format.binary32 .positive e m)) := by
  rw [Single.unpack_packComponents]
  dsimp only
  split_ifs with hones hm hz hm
  · trivial
  · exact (he.elim (· hones) hm).elim
  · exact (h.elim (· hz) (· hm)).elim
  · trivial
  · trivial

theorem ofNat_ne_neg_one {e : Nat} (h : e + 1 < 256) :
    BitVec.ofNat Format.binary32.exponentBits e ≠ -1#_ := by
  intro heq
  have hnat : e % 256 = 255 := congrArg BitVec.toNat heq
  omega

theorem ofNat_ne_zero {width n : Nat} (hpos : 0 < n) (h : n < 2 ^ width) :
    BitVec.ofNat width n ≠ BitVec.ofNat width 0 := by
  intro heq
  have hnat := congrArg BitVec.toNat heq
  rw [BitVec.toNat_ofNat, Nat.mod_eq_of_lt h, BitVec.toNat_zero] at hnat
  omega

/-- Putting a number together keeps its sign. -/
theorem Unsigned.unpack_pack {x : UnpackedFloat} (h : Unsigned x) :
    Unsigned (unpack Format.binary32 (pack Format.binary32 x)) := by
  cases x with
  | notANumber => exact h.elim
  | infinity s =>
      obtain rfl : s = .positive := h
      exact Unsigned.unpack_packComponents _ _ (Or.inr rfl)
  | zero s =>
      obtain rfl : s = .positive := h
      exact Unsigned.unpack_packComponents _ _ (Or.inr rfl)
  | finite s m e hm =>
      obtain rfl : s = .positive := h
      unfold UnpackedFloat.pack
      dsimp only
      split_ifs with hlarge hnormal
      · exact Unsigned.unpack_packComponents _ _ (Or.inr rfl)
      · exact Unsigned.unpack_packComponents _ _ (Or.inl (ofNat_ne_neg_one (Nat.lt_of_not_le hlarge)))
      · exact Unsigned.unpack_packComponents _ _ (Or.inl (by decide))

/-- A sturdy number is still positive when it is put together. -/
theorem Sturdy.unpack_pack {x : UnpackedFloat} (h : Sturdy x) :
    Positive (unpack Format.binary32 (pack Format.binary32 x)) := by
  cases x with
  | notANumber => exact h.elim
  | zero s => exact h.elim
  | infinity s =>
      obtain rfl : s = .positive := h
      exact Positive.unpack_packComponents (Or.inr rfl) (Or.inl (by decide))
  | finite s m e hm =>
      obtain ⟨rfl, hsmall, he⟩ : s = .positive ∧ m < 2 ^ 24 ∧ -149 ≤ e := h
      unfold UnpackedFloat.pack
      dsimp only
      split_ifs with hlarge hnormal
      · exact Positive.unpack_packComponents (Or.inr rfl) (Or.inl (by decide))
      · refine Positive.unpack_packComponents (Or.inl (ofNat_ne_neg_one (Nat.lt_of_not_le hlarge)))
          (Or.inl (ofNat_ne_zero ?_ ?_))
        · have hbias : (Format.binary32.exponentBias : Int) = 127 := rfl
          simp only [hbias]
          omega
        · simp at hlarge ⊢
          omega
      · refine Positive.unpack_packComponents (Or.inl (by decide)) (Or.inr (ofNat_ne_zero hm ?_))
        have hlog : m.log2 < 24 := (Nat.log2_lt hm.ne').mpr hsmall
        have hbits : Format.binary32.mantissaBits = 24 := rfl
        rw [← Nat.log2_lt hm.ne']
        show m.log2 < 23
        omega

/-! ## Rounding -/

theorem mantissa_shiftRight (em : ExtendedMantissa) (n : Nat) :
    (em >>> n).mantissa = em.mantissa / 2 ^ n := by
  induction n with
  | zero => simp [HShiftRight.hShiftRight, Nat.repeat]
  | succ n ih =>
      calc
        (em >>> (n + 1)).mantissa = (em >>> n).mantissa / 2 := rfl
        _ = em.mantissa / 2 ^ (n + 1) := by
          rw [ih, Nat.div_div_eq_div_mul, Nat.pow_succ]

theorem mantissa_ofMantissaAndAccuracy (m : Nat) (accuracy : Accuracy) :
    (ExtendedMantissa.ofMantissaAndAccuracy m accuracy).mantissa = m := by
  cases accuracy with
  | exact => rfl
  | inexact order => cases order <;> rfl

theorem le_roundedMantissa (em : ExtendedMantissa) : em.mantissa ≤ em.roundedMantissa := by
  have hround : ∀ m accuracy, m ≤ Accuracy.roundToNearestEven m accuracy := by
    intro m accuracy
    cases accuracy with
    | exact => exact Nat.le_refl m
    | inexact order => cases order <;> simp [Accuracy.roundToNearestEven]
  exact hround em.mantissa em.accuracy

theorem targetExponent_eq (total : Int) :
    Format.binary32.targetExponent total = max (total - 24) (-149) := rfl

/-- A positive significand that is shifted to its target exponent fits and is not lost. -/
theorem shift_bounds {m : Nat} {e : Int} (hm : 0 < m) (he : -149 ≤ e) (accuracy : Accuracy) :
    let shifted := shiftToTargetExponent Format.binary32 m e accuracy
    0 < shifted.1.mantissa ∧ shifted.1.mantissa < 2 ^ 24 ∧ -149 ≤ shifted.2 := by
  intro shifted
  let shift := (Format.binary32.targetExponent (totalExponent m e) - e).toNat
  have hmantissa : shifted.1.mantissa = m / 2 ^ shift := by
    show (ExtendedMantissa.ofMantissaAndAccuracy m accuracy >>> shift).mantissa = _
    rw [mantissa_shiftRight, mantissa_ofMantissaAndAccuracy]
  have hexponent : shifted.2 = e + shift := rfl
  have hshift : shift = m.log2 - 23 := by
    show (Format.binary32.targetExponent (m.log2 + 1 + e) - e).toNat = _
    rw [targetExponent_eq]
    omega
  have hlow : 2 ^ m.log2 ≤ m := Nat.log2_self_le hm.ne'
  have hhigh : m < 2 ^ (m.log2 + 1) := Nat.lt_log2_self
  refine ⟨?_, ?_, by omega⟩
  · rw [hmantissa, hshift]
    refine Nat.div_pos (Nat.le_trans ?_ hlow) (Nat.two_pow_pos _)
    exact Nat.pow_le_pow_right (by decide) (by omega)
  · rw [hmantissa, hshift, Nat.div_lt_iff_lt_mul (Nat.two_pow_pos _), ← Nat.pow_add]
    exact Nat.lt_of_lt_of_le hhigh (Nat.pow_le_pow_right (by decide) (by omega))

theorem sturdy_roundWithAccuracy {m : Nat} {e : Int} (hm : 0 < m) (he : -149 ≤ e)
    (accuracy : Accuracy) :
    Sturdy (roundWithAccuracy Format.binary32 .positive m e accuracy) := by
  obtain ⟨hpos, _, hexponent⟩ := shift_bounds hm he accuracy
  have hrounded := Nat.lt_of_lt_of_le hpos (le_roundedMantissa _)
  obtain ⟨hpos', hsmall', hexponent'⟩ := shift_bounds hrounded hexponent .exact
  unfold roundWithAccuracy
  simp only [dif_neg hpos'.ne']
  exact ⟨rfl, hsmall', hexponent'⟩

theorem sturdy_round {m : Nat} {e : Int} (hm : 0 < m) (he : -149 ≤ e) :
    Sturdy (UnpackedFloat.round Format.binary32 .positive m e) := by
  refine sturdy_roundWithAccuracy ?_ ?_ _
  · show 0 < m <<< _
    rw [Nat.shiftLeft_eq]
    exact Nat.mul_pos hm (Nat.two_pow_pos _)
  · show -149 ≤ e - ((e - Format.binary32.targetExponent _).toNat : Int)
    rw [targetExponent_eq]
    omega

theorem unsigned_roundWithAccuracy (m : Nat) (e : Int) (accuracy : Accuracy) :
    Unsigned (roundWithAccuracy Format.binary32 .positive m e accuracy) := by
  unfold roundWithAccuracy
  dsimp only
  split_ifs <;> rfl

/-! ## Operations -/

/-- The exponents of packed numbers are not below the least one. -/
theorem le_exponent_unpack {bits : BitVec Format.binary32.numBits} {s : Sign} {m : Nat} {e : Int}
    {hm : 0 < m} (h : unpack Format.binary32 bits = .finite s m e hm) : -149 ≤ e := by
  have hbias : (Format.binary32.exponentBias : Int) = 127 := rfl
  unfold UnpackedFloat.unpack at h
  dsimp only at h
  split_ifs at h with hones hz hz hm
  · obtain ⟨-, -, rfl⟩ := UnpackedFloat.finite.inj h
    omega
  · obtain ⟨-, -, rfl⟩ := UnpackedFloat.finite.inj h
    have hpos : 0 < (unpackExponent bits).toNat :=
      Nat.pos_of_ne_zero fun hzero => hz (BitVec.eq_of_toNat_eq hzero)
    omega

/-- A product with a positive finite number has the sign of the other factor. -/
theorem unsigned_mul {m : Nat} {e : Int} {hm : 0 < m} {x : UnpackedFloat} (h : Unsigned x) :
    Unsigned (mul Format.binary32 (.finite .positive m e hm) x) := by
  cases x with
  | notANumber => exact h.elim
  | infinity s =>
      obtain rfl : s = .positive := h
      rfl
  | zero s =>
      obtain rfl : s = .positive := h
      rfl
  | finite s m' e' hm' =>
      obtain rfl : s = .positive := h
      exact unsigned_roundWithAccuracy _ _ _

theorem unsigned_div {m : Nat} {e : Int} {hm : 0 < m} {x : UnpackedFloat} (h : Unsigned x) :
    Unsigned (div Format.binary32 x (.finite .positive m e hm)) := by
  cases x with
  | notANumber => exact h.elim
  | infinity s =>
      obtain rfl : s = .positive := h
      rfl
  | zero s =>
      obtain rfl : s = .positive := h
      rfl
  | finite s m' e' hm' =>
      obtain rfl : s = .positive := h
      exact unsigned_roundWithAccuracy _ _ _

theorem normalize_of_pos {n : Nat} (h : 0 < n) (e : Int) (s : Sign) :
    UnpackedFloat.normalize Format.binary32 n e s =
      UnpackedFloat.round Format.binary32 .positive n e := by
  have hcompare : compare (n : Int) 0 = .gt := Int.compare_eq_gt.mpr (by omega)
  unfold UnpackedFloat.normalize
  rw [hcompare]
  rfl

theorem unsigned_ofNat (n : Nat) : Unsigned (ofNat Format.binary32 n) := by
  rcases Nat.eq_zero_or_pos n with rfl | hn
  · rfl
  · have hnormal : ofNat Format.binary32 n =
        UnpackedFloat.normalize Format.binary32 n 0 .positive := rfl
    rw [hnormal, normalize_of_pos hn]
    exact unsigned_roundWithAccuracy _ _ _

/-- A positive number that nothing is taken away from stays positive. -/
theorem positive_add {m : Nat} {e : Int} {hm : 0 < m} {x : UnpackedFloat} (he : -149 ≤ e)
    (hsmall : m < 2 ^ 24) (h : Unsigned x)
    (hx : ∀ s m' e' hm', x = .finite s m' e' hm' → -149 ≤ e') :
    Sturdy (add Format.binary32 (.finite .positive m e hm) x) := by
  cases x with
  | notANumber => exact h.elim
  | infinity s =>
      obtain rfl : s = .positive := h
      rfl
  | zero s => exact ⟨rfl, hsmall, he⟩
  | finite s m' e' hm' =>
      obtain rfl : s = .positive := h
      have he' := hx _ _ _ _ rfl
      have hpos : 0 < m <<< (e - min e e').toNat + m' <<< (e' - min e e').toNat := by
        have hterm : 0 < m <<< (e - min e e').toNat := by
          rw [Nat.shiftLeft_eq]
          exact Nat.mul_pos hm (Nat.two_pow_pos _)
        exact Nat.add_pos_left hterm _
      have hadd : add Format.binary32 (.finite .positive m e hm) (.finite .positive m' e' hm') =
          UnpackedFloat.round Format.binary32 .positive
            (m <<< (e - min e e').toNat + m' <<< (e' - min e e').toNat) (min e e') := by
        rw [← normalize_of_pos hpos _ .positive]
        rfl
      rw [hadd]
      exact sturdy_round hpos (by omega)

/-! ## Comparisons -/

theorem zero_lt_iff (x : Float32) : 0 < x ↔ Positive x.toModel.unpack := by
  have hlt : 0 < x ↔ UnpackedFloat.lt (.zero .positive) x.toModel.unpack = true :=
    decide_eq_true_iff
  rw [hlt]
  cases x.toModel.unpack with
  | notANumber => simp [UnpackedFloat.lt, UnpackedFloat.compare, Positive]
  | infinity s => cases s <;> simp [UnpackedFloat.lt, UnpackedFloat.compare, Positive]
  | zero s => simp [UnpackedFloat.lt, UnpackedFloat.compare, Positive]
  | finite s m e hm => cases s <;> simp [UnpackedFloat.lt, UnpackedFloat.compare, Positive]

/-- Of the numbers that are equal to a positive one, none is another. -/
theorem eq_of_beq_of_pos {a b : Float32} (h : a == b) (hb : 0 < b) : a = b := by
  have hzero : ¬ (0 : Float32) < 0 := by decide
  have hminus : ¬ (0 : Float32) < -0 := by decide
  obtain ⟨-, -, heq | ⟨-, rfl⟩ | ⟨-, rfl⟩⟩ := Float32.beq_iff_ne_nan_and_eq.mp h
  · exact heq
  · exact (hminus hb).elim
  · exact (hzero hb).elim

theorem beq_self_of_pos {a : Float32} (h : 0 < a) : (a == a) = true := by
  have hnan : a ≠ Float32.nan := by
    rintro rfl
    exact absurd h (by decide)
  exact Float32.beq_self_iff.mpr hnan

/-! ## Arithmetic that keeps numbers positive -/

section

variable {a b : Float32} {m : Nat} {e : Int} {hm : 0 < m}

theorem unsigned_toFloat32 (n : UInt32) : Unsigned n.toFloat32.toModel.unpack :=
  (unsigned_ofNat n.toNat).unpack_pack

theorem unsigned_hMul (ha : a.toModel.unpack = .finite .positive m e hm)
    (hb : Unsigned b.toModel.unpack) : Unsigned (a * b).toModel.unpack := by
  have hmul : Unsigned (mul Format.binary32 a.toModel.unpack b.toModel.unpack) := by
    rw [ha]
    exact unsigned_mul hb
  exact hmul.unpack_pack

theorem unsigned_hDiv (ha : Unsigned a.toModel.unpack)
    (hb : b.toModel.unpack = .finite .positive m e hm) : Unsigned (a / b).toModel.unpack := by
  have hdiv : Unsigned (div Format.binary32 a.toModel.unpack b.toModel.unpack) := by
    rw [hb]
    exact unsigned_div ha
  exact hdiv.unpack_pack

theorem zero_lt_hAdd (ha : a.toModel.unpack = .finite .positive m e hm) (hsmall : m < 2 ^ 24)
    (hb : Unsigned b.toModel.unpack) : 0 < a + b := by
  have hadd : Sturdy (add Format.binary32 a.toModel.unpack b.toModel.unpack) := by
    rw [ha]
    exact positive_add (le_exponent_unpack ha) hsmall hb fun _ _ _ _ => le_exponent_unpack
  exact (zero_lt_iff _).mpr hadd.unpack_pack

end

end Single

/-- Sizes are percentages on top of a smallest font, so every font has a size. -/
theorem fontSizeOfPercent_pos (percent : UInt32) : 0 < fontSizeOfPercent percent := by
  have hsmallest : (18 : Float32).toModel.unpack =
      .finite .positive 9437184 (-19) (by decide) := rfl
  have htwenty : (20 : Float32).toModel.unpack =
      .finite .positive 10485760 (-19) (by decide) := rfl
  have hhundred : (100 : Float32).toModel.unpack =
      .finite .positive 13107200 (-17) (by decide) := rfl
  have hscaled := Single.unsigned_hMul htwenty (Single.unsigned_toFloat32 percent)
  exact Single.zero_lt_hAdd hsmallest (by decide) (Single.unsigned_hDiv hscaled hhundred)

end Overhead
