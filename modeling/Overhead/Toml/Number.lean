import Overhead.Data.Tree
import Overhead.Toml.Text

/-!
# Bare values

Numbers, booleans, dates and times are written without quotes. Such a word ends where no character
of one can follow, and must be a value as a whole.
-/

namespace Overhead
namespace Toml

/-- Digits of which each test holds, with single underscores between them, as one list. -/
def grouped? (isDigit : Char → Bool) : List Char → Option (List Char)
  | [] => none
  | [c] => if isDigit c then some [c] else none
  | c :: '_' :: rest =>
      if isDigit c then (grouped? isDigit rest).map (c :: ·) else none
  | c :: rest => if isDigit c then (grouped? isDigit rest).map (c :: ·) else none

/-- The number that digits of a base write. -/
def numberOf (base : Nat) (digits : List Char) : Nat :=
  digits.foldl (fun n c => base * n + (hexDigit? c).getD 0) 0

/-- A sign, if there is one, and what follows it. -/
def splitSign : List Char → Bool × List Char
  | '-' :: rest => (true, rest)
  | '+' :: rest => (false, rest)
  | word => (false, word)

/-- Decimal digits that do not start with a zero, except for zero itself. -/
def decimal? (word : List Char) : Option (List Char) :=
  match grouped? isDigit word with
  | some ['0'] => some ['0']
  | some ('0' :: _) => none
  | digits => digits

/-- Whole numbers have 64 bits and a sign. -/
def inRange? (n : Int) : Option Int :=
  if -Int.pow 2 63 ≤ n ∧ n < Int.pow 2 63 then some n else none

/-- A whole number in a base that its first letters name. -/
def based? (base : Nat) (word : List Char) : Option Int :=
  let valid (c : Char) : Bool := (hexDigit? c).any (· < base)
  (grouped? valid word).bind fun digits => inRange? (numberOf base digits)

def integer? : List Char → Option Int
  | '0' :: 'x' :: word => based? 16 word
  | '0' :: 'o' :: word => based? 8 word
  | '0' :: 'b' :: word => based? 2 word
  | word => do
      let (negative, word) := splitSign word
      let n : Nat := numberOf 10 (← decimal? word)
      inRange? (if negative then -(n : Int) else n)

/-- The double nearest to `± digits * 10 ^ exponent`. Numbers far outside of the range of a double
need no arithmetic. -/
def double (negative : Bool) (digits : List Char) (exponent : Int) : Float :=
  let significand := numberOf 10 digits
  let size : Int := (Nat.toDigits 10 significand).length + exponent
  let magnitude : Float :=
    if significand = 0 || size < -400 then 0
    else if 400 < size then 1 / 0
    else if 0 ≤ exponent then Float.ofScientific significand false exponent.toNat
    else Float.ofScientific significand true (-exponent).toNat
  if negative then -magnitude else magnitude

/-- The value of an exponent: a letter, a sign and digits. No letter means zero. -/
def exponent? : List Char → Option Int
  | [] => some 0
  | c :: word =>
      if c == 'e' || c == 'E' then do
        let (negative, word) := splitSign word
        let n : Nat := numberOf 10 (← grouped? isDigit word)
        return if negative then -(n : Int) else n
      else none

/-- The value of a fraction or an exponent behind the whole part of a number. -/
def realPart? (negative : Bool) (whole : List Char) : List Char → Option Float
  | [] => none
  | '.' :: rest => do
      let isExponent (c : Char) : Bool := c == 'e' || c == 'E'
      let fraction ← grouped? isDigit (rest.takeWhile (!isExponent ·))
      let exponent ← exponent? (rest.dropWhile (!isExponent ·))
      return double negative (whole ++ fraction) (exponent - fraction.length)
  | rest => (exponent? rest).map (double negative whole)

/-- A number with a fraction or an exponent. One that is too large for a double is refused, unless
it is negative. -/
def float? (word : List Char) : Option Float :=
  let (negative, word) := splitSign word
  if word = "inf".toList then some (if negative then -(1 / 0) else 1 / 0)
  else if word = "nan".toList then some (0 / 0)
  else
    let isMark (c : Char) : Bool := c == '.' || c == 'e' || c == 'E'
    let value := (decimal? (word.takeWhile (!isMark ·))).bind fun whole =>
      realPart? negative whole (word.dropWhile (!isMark ·))
    value.filter fun x => !x.isInf || negative

def twoDigits? : List Char → Option (Nat × List Char)
  | a :: b :: rest =>
      if isDigit a && isDigit b then some (numberOf 10 [a, b], rest) else none
  | _ => none

/-- A number of two digits within bounds. -/
def bounded? (low high : Nat) (word : List Char) : Option (Nat × List Char) :=
  (twoDigits? word).filter fun (n, _) => low ≤ n && n ≤ high

def after? (c : Char) : List Char → Option (List Char)
  | d :: rest => if c = d then some rest else none
  | [] => none

/-- Reads a day and gives back what follows it. Every month may have 31 days here. -/
def day? (word : List Char) : Option (List Char) := do
  let (_, rest) ← twoDigits? word
  let (_, rest) ← twoDigits? rest
  let (_, rest) ← bounded? 1 12 (← after? '-' rest)
  let (_, rest) ← bounded? 1 31 (← after? '-' rest)
  return rest

/-- Reads a time of day and gives back what follows it. -/
def time? (word : List Char) : Option (List Char) := do
  let (_, rest) ← bounded? 0 23 word
  let (_, rest) ← bounded? 0 59 (← after? ':' rest)
  let (_, rest) ← bounded? 0 60 (← after? ':' rest)
  match rest with
  | '.' :: fraction =>
      if (fraction.takeWhile isDigit).isEmpty then none else return fraction.dropWhile isDigit
  | rest => return rest

/-- Whether a word is an offset from universal time, or nothing. -/
def isOffset (word : List Char) : Bool :=
  match word with
  | [] | ['Z'] | ['z'] => true
  | sign :: rest =>
      (sign == '+' || sign == '-') &&
        ((bounded? 0 23 rest).bind fun (_, rest) =>
          (after? ':' rest).bind fun rest => bounded? 0 59 rest).any (·.2.isEmpty)

/-- Whether a word is a time of day that may have an offset. -/
def isZonedTime (word : List Char) : Bool :=
  (time? word).any isOffset

/-- Whether a word is a day, a day with a time, or a time. -/
def isDate (word : List Char) : Bool :=
  (time? word).any (·.isEmpty) ||
    match day? word with
    | some [] => true
    | some ('T' :: rest) | some ('t' :: rest) => isZonedTime rest
    | _ => false

def bare? (word : List Char) : Option Data :=
  if word = "true".toList then some (.bool true)
  else if word = "false".toList then some (.bool false)
  else if isDate word then some .date
  else
    match integer? word with
    | some n => some (.int n)
    | none => (float? word).map .float

def isBare (c : Char) : Bool :=
  isBareKey c || c == '+' || c == '.' || c == ':'

/-- Reads a bare value. A day may be followed by one space and a time. -/
def bareValue? (input : Input) : Option (Data × Input) := do
  let word := input.takeWhile isBare
  let rest := input.dropWhile isBare
  let value ← bare? word
  match rest with
  | ' ' :: later =>
      if (day? word).any (·.isEmpty) && isZonedTime (later.takeWhile isBare) then
        return (value, later.dropWhile isBare)
      else return (value, rest)
  | _ => return (value, rest)

end Toml
end Overhead
