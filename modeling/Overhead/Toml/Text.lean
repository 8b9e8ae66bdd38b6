import Overhead.Toml.Scan

/-!
# Quoted strings

TOML has four kinds of strings: basic and literal ones, each on one line or on several. Basic
strings have escapes; literal strings are taken as they stand. Line ends inside a string become a
single newline.
-/

namespace Overhead
namespace Toml

/-- The character that a letter stands for behind a backslash. -/
def simpleEscape? : Char → Option Char
  | 'b' => some '\x08'
  | 't' => some '\t'
  | 'n' => some '\n'
  | 'f' => some '\x0c'
  | 'r' => some '\r'
  | '"' => some '"'
  | '\\' => some '\\'
  | _ => none

def hexDigit? (c : Char) : Option Nat :=
  if isDigit c then some (c.toNat - '0'.toNat)
  else if 'a' ≤ c ∧ c ≤ 'f' then some (c.toNat - 'a'.toNat + 10)
  else if 'A' ≤ c ∧ c ≤ 'F' then some (c.toNat - 'A'.toNat + 10)
  else none

/-- The number that hexadecimal digits write. -/
def hexNumber? (digits : List Char) : Option Nat :=
  digits.foldlM (fun n c => (hexDigit? c).map (16 * n + ·)) 0

def char? (n : Nat) : Option Char :=
  if n.isValidChar then some (Char.ofNat n) else none

/-- Adds a character in front of what a scanner found. -/
def consChar (c : Char) : Option (List Char × Input) → Option (List Char × Input) :=
  Option.map fun (chars, rest) => (c :: chars, rest)

/-- The contents of a basic string on one line, up to its closing quote. -/
def basic? : Input → Option (List Char × Input)
  | '"' :: rest => some ([], rest)
  | '\\' :: 'u' :: a :: b :: c :: d :: rest => do
      consChar (← char? (← hexNumber? [a, b, c, d])) (basic? rest)
  | '\\' :: 'U' :: a :: b :: c :: d :: e :: f :: g :: h :: rest => do
      consChar (← char? (← hexNumber? [a, b, c, d, e, f, g, h])) (basic? rest)
  | '\\' :: letter :: rest => do
      consChar (← simpleEscape? letter) (basic? rest)
  | c :: rest => if isPrintable c && c != '\\' then consChar c (basic? rest) else none
  | [] => none

/-- The contents of a literal string on one line. -/
def literal? : Input → Option (List Char × Input)
  | '\'' :: rest => some ([], rest)
  | c :: rest => if isPrintable c then consChar c (literal? rest) else none
  | [] => none

/-- How a basic string of several lines is being read: as text; behind a backslash at the end of a
line; or past such a line end, where blanks and line ends are skipped. -/
inductive Folding where
  | no
  | lineEnd
  | skipping
deriving DecidableEq

/-- The contents of a basic string of several lines. Up to two quotes may stand before the closing
ones. -/
def basicLines? : Folding → Input → Option (List Char × Input)
  | .lineEnd, ' ' :: rest | .lineEnd, '\t' :: rest => basicLines? .lineEnd rest
  | .lineEnd, '\n' :: rest | .lineEnd, '\r' :: '\n' :: rest => basicLines? .skipping rest
  | .lineEnd, _ => none
  | .skipping, ' ' :: rest | .skipping, '\t' :: rest => basicLines? .skipping rest
  | .skipping, '\n' :: rest | .skipping, '\r' :: '\n' :: rest => basicLines? .skipping rest
  | _, '"' :: '"' :: '"' :: '"' :: '"' :: rest => some (['"', '"'], rest)
  | _, '"' :: '"' :: '"' :: '"' :: rest => some (['"'], rest)
  | _, '"' :: '"' :: '"' :: rest => some ([], rest)
  | _, '\n' :: rest | _, '\r' :: '\n' :: rest => consChar '\n' (basicLines? .no rest)
  | _, '\\' :: 'u' :: a :: b :: c :: d :: rest => do
      consChar (← char? (← hexNumber? [a, b, c, d])) (basicLines? .no rest)
  | _, '\\' :: 'U' :: a :: b :: c :: d :: e :: f :: g :: h :: rest => do
      consChar (← char? (← hexNumber? [a, b, c, d, e, f, g, h])) (basicLines? .no rest)
  | _, '\\' :: ' ' :: rest | _, '\\' :: '\t' :: rest => basicLines? .lineEnd rest
  | _, '\\' :: '\n' :: rest | _, '\\' :: '\r' :: '\n' :: rest => basicLines? .skipping rest
  | _, '\\' :: letter :: rest => do
      consChar (← simpleEscape? letter) (basicLines? .no rest)
  | _, c :: rest => if isPrintable c && c != '\\' then consChar c (basicLines? .no rest) else none
  | _, [] => none

/-- The contents of a literal string of several lines. -/
def literalLines? : Input → Option (List Char × Input)
  | '\'' :: '\'' :: '\'' :: '\'' :: '\'' :: rest => some (['\'', '\''], rest)
  | '\'' :: '\'' :: '\'' :: '\'' :: rest => some (['\''], rest)
  | '\'' :: '\'' :: '\'' :: rest => some ([], rest)
  | '\n' :: rest | '\r' :: '\n' :: rest => consChar '\n' (literalLines? rest)
  | c :: rest => if isPrintable c then consChar c (literalLines? rest) else none
  | [] => none

/-- A line end directly behind the opening quotes is not part of the string. -/
def skipFirstNewline (input : Input) : Input :=
  (newline? input).getD input

def string? : Input → Option (String × Input)
  | '"' :: '"' :: '"' :: rest => (basicLines? .no (skipFirstNewline rest)).map found
  | '\'' :: '\'' :: '\'' :: rest => (literalLines? (skipFirstNewline rest)).map found
  | '"' :: rest => (basic? rest).map found
  | '\'' :: rest => (literal? rest).map found
  | _ => none
where
  found : List Char × Input → String × Input
    | (chars, rest) => (String.ofList chars, rest)

/-- One key of a path: a bare word or a string on one line. -/
def simpleKey? : Input → Option (String × Input)
  | '"' :: rest => (basic? rest).map fun (chars, rest) => (String.ofList chars, rest)
  | '\'' :: rest => (literal? rest).map fun (chars, rest) => (String.ofList chars, rest)
  | input =>
      let word := input.takeWhile isBareKey
      if word.isEmpty then none else some (String.ofList word, input.dropWhile isBareKey)

/-- Keys joined by dots, with blanks around each. The fuel bounds their number. -/
def keyPath? : Nat → Input → Option (List String × Input)
  | 0, _ => none
  | fuel + 1, input => do
      let (key, rest) ← simpleKey? (skipBlanks input)
      match skipBlanks rest with
      | '.' :: rest => do
          let (keys, rest) ← keyPath? fuel rest
          return (key :: keys, rest)
      | rest => return ([key], rest)

end Toml
end Overhead
