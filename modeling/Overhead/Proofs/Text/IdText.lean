import Mathlib.Data.Nat.Digits.Defs
import Mathlib.Tactic.IntervalCases
import Overhead.Text.IdText

/-!
# Id texts are complete

The buffer of an id text has room for the longest id and a mark of one byte, so no piece is ever
left out. The text of an id is its decimal digits, and it tells the id apart from any other.
-/

namespace Overhead
namespace IdText

theorem utf8ByteSize_digit {n : Nat} (h : n < 10) :
    (String.singleton (Nat.digitChar n)).utf8ByteSize = 1 := by
  rw [String.utf8ByteSize_singleton]
  interval_cases n <;> rfl

theorem utf8ByteSize_repr_le {n k : Nat} (h : n < 10 ^ (k + 1)) :
    (Nat.repr n).utf8ByteSize ≤ k + 1 := by
  induction k generalizing n with
  | zero =>
      have hdigit : n < 10 := by omega
      rw [Nat.repr_of_lt hdigit, utf8ByteSize_digit hdigit]
  | succ k ih =>
      by_cases hdigit : n < 10
      · rw [Nat.repr_of_lt hdigit, utf8ByteSize_digit hdigit]
        omega
      · have hrest : n / 10 < 10 ^ (k + 1) := by
          rw [Nat.div_lt_iff_lt_mul (by omega)]
          exact lt_of_lt_of_eq h (Nat.pow_succ 10 (k + 1))
        have hsize := ih hrest
        rw [Nat.repr_of_ge (by omega), String.utf8ByteSize_append,
          utf8ByteSize_digit (Nat.mod_lt n (by omega))]
        omega

def totalSize (texts : List String) : Nat :=
  (texts.map String.utf8ByteSize).sum

/-- Pieces that fit together are all written. -/
theorem appendFitting_eq {written : String} {texts : List String}
    (h : written.utf8ByteSize + totalSize texts ≤ capacity) :
    appendFitting written texts = texts.foldl (· ++ ·) written := by
  induction texts generalizing written with
  | nil => rfl
  | cons text texts ih =>
      have hsum : totalSize (text :: texts) = text.utf8ByteSize + totalSize texts := by
        simp [totalSize]
      have hfits : written.utf8ByteSize + text.utf8ByteSize ≤ capacity := by omega
      have hrest : (written ++ text).utf8ByteSize + totalSize texts ≤ capacity := by
        rw [String.utf8ByteSize_append]
        omega
      rw [appendFitting, if_pos hfits, ih hrest, List.foldl_cons]

theorem totalSize_pieces_le {id : Int} (hlow : -2 ^ 63 ≤ id) (hhigh : id < 2 ^ 64) :
    totalSize (pieces id) ≤ 21 := by
  cases id with
  | ofNat n =>
      have hn : n < 10 ^ 20 := by
        have hcast : Int.ofNat n = n := rfl
        omega
      have hsize := utf8ByteSize_repr_le hn
      simp only [pieces, totalSize, List.map_cons, List.map_nil, List.sum_cons, List.sum_nil]
      omega
  | negSucc n =>
      have hn : n + 1 < 10 ^ 20 := by omega
      have hsize := utf8ByteSize_repr_le hn
      have hsign : "-".utf8ByteSize = 1 := rfl
      simp only [pieces, totalSize, List.map_cons, List.map_nil, List.sum_cons, List.sum_nil]
      omega

theorem concat_pieces (id : Int) : (pieces id).foldl (· ++ ·) "" = id.repr := by
  cases id with
  | ofNat n => exact String.empty_append
  | negSucc n =>
      show "" ++ "-" ++ Nat.repr (n + 1) = "-" ++ Nat.repr (n + 1)
      rw [String.empty_append]

/-- The text of an id is the number and the mark, with nothing left out. -/
theorem format_eq {id : Int} {mark : String} (hlow : -2 ^ 63 ≤ id) (hhigh : id < 2 ^ 64)
    (hmark : mark.utf8ByteSize ≤ 1) : format id mark = id.repr ++ mark := by
  have hsize := totalSize_pieces_le hlow hhigh
  have hfits : "".utf8ByteSize + totalSize (pieces id ++ [mark]) ≤ capacity := by
    have hsum : totalSize (pieces id ++ [mark]) =
        totalSize (pieces id) + mark.utf8ByteSize := by
      simp [totalSize]
    have hempty : "".utf8ByteSize = 0 := rfl
    have hcapacity : capacity = 24 := rfl
    omega
  rw [format, appendFitting_eq hfits, List.foldl_append, List.foldl_cons, List.foldl_nil,
    concat_pieces]

theorem format_ne_empty {id : Int} {mark : String} (hlow : -2 ^ 63 ≤ id) (hhigh : id < 2 ^ 64)
    (hmark : mark.utf8ByteSize ≤ 1) : format id mark ≠ "" := by
  rw [format_eq hlow hhigh hmark]
  cases id with
  | ofNat n => simp [Int.repr]
  | negSucc n => simp [Int.repr]

/-! ## Decimal digits -/

/-- The decimal digits of a number, the highest first. -/
def numeral (n : Nat) : List Char :=
  if n = 0 then ['0'] else ((Nat.digits 10 n).map Nat.digitChar).reverse

def decimal (id : Int) : List Char :=
  (if id < 0 then ['-'] else []) ++ numeral id.natAbs

theorem numeral_of_lt {n : Nat} (h : n < 10) : numeral n = [Nat.digitChar n] := by
  by_cases hzero : n = 0
  · subst hzero
    rfl
  · rw [numeral, if_neg hzero, Nat.digits_of_lt 10 n hzero h]
    rfl

theorem numeral_of_ge {n : Nat} (h : 10 ≤ n) :
    numeral n = numeral (n / 10) ++ [Nat.digitChar (n % 10)] := by
  have hzero : n ≠ 0 := by omega
  have hrest : n / 10 ≠ 0 := by omega
  rw [numeral, numeral, if_neg hzero, if_neg hrest,
    Nat.digits_def' (by decide) (Nat.pos_of_ne_zero hzero), List.map_cons, List.reverse_cons]

theorem toDigits_eq_numeral (n : Nat) : Nat.toDigits 10 n = numeral n := by
  induction n using Nat.strong_induction_on with
  | _ n ih =>
      by_cases hdigit : n < 10
      · rw [Nat.toDigits_of_lt_base hdigit, numeral_of_lt hdigit]
      · have hge : 10 ≤ n := by omega
        rw [Nat.toDigits_of_base_le (by decide) hge, numeral_of_ge hge, ih (n / 10) (by omega)]

theorem toList_repr (id : Int) : id.repr.toList = decimal id := by
  cases id with
  | ofNat n =>
      have hsign : ¬ Int.ofNat n < 0 := not_lt.mpr (Int.natCast_nonneg n)
      rw [decimal, if_neg hsign, List.nil_append]
      show n.repr.toList = numeral n
      rw [Nat.toList_repr, toDigits_eq_numeral]
  | negSucc n =>
      have hsign : Int.negSucc n < 0 := Int.negSucc_lt_zero n
      rw [decimal, if_pos hsign]
      show ("-" ++ (n + 1).repr).toList = ['-'] ++ numeral (n + 1)
      rw [String.toList_append, Nat.toList_repr, toDigits_eq_numeral]
      rfl

theorem toList_format {id : Int} {mark : String} (hlow : -2 ^ 63 ≤ id) (hhigh : id < 2 ^ 64)
    (hmark : mark.utf8ByteSize ≤ 1) :
    (format id mark).toList = decimal id ++ mark.toList := by
  rw [format_eq hlow hhigh hmark, String.toList_append, toList_repr]

theorem numeral_injective : Function.Injective numeral := by
  intro n m h
  have hdigits : Nat.toDigits 10 n = Nat.toDigits 10 m := by
    rw [toDigits_eq_numeral, toDigits_eq_numeral, h]
  calc
    n = Nat.ofDigitChars 10 (Nat.toDigits 10 n) 0 := Nat.ofDigitChars_ten_toDigits.symm
    _ = Nat.ofDigitChars 10 (Nat.toDigits 10 m) 0 := by rw [hdigits]
    _ = m := Nat.ofDigitChars_ten_toDigits

theorem minus_mem_decimal {id : Int} : '-' ∈ decimal id ↔ id < 0 := by
  have hdigits : '-' ∉ numeral id.natAbs := by
    intro hminus
    rw [← toDigits_eq_numeral] at hminus
    exact absurd (Nat.isDigit_of_mem_toDigits (by decide) (by decide) hminus) (by decide)
  rw [decimal]
  split
  · next hneg => simp [hneg]
  · next hneg => simp [hneg, hdigits]

theorem decimal_injective : Function.Injective decimal := by
  intro id other h
  have hsign : id < 0 ↔ other < 0 := by rw [← minus_mem_decimal, h, minus_mem_decimal]
  have habs : id.natAbs = other.natAbs := by
    simp only [decimal, hsign] at h
    exact numeral_injective (List.append_cancel_left h)
  omega

/-- Ids with the same mark have the same text only if they are equal. -/
theorem eq_of_format_eq {id other : Int} {mark : String} (hlow : -2 ^ 63 ≤ id)
    (hhigh : id < 2 ^ 64) (hlow' : -2 ^ 63 ≤ other) (hhigh' : other < 2 ^ 64)
    (hmark : mark.utf8ByteSize ≤ 1) (h : format id mark = format other mark) : id = other := by
  rw [← String.toList_inj, toList_format hlow hhigh hmark, toList_format hlow' hhigh' hmark] at h
  exact decimal_injective (List.append_cancel_right h)

end IdText
end Overhead
