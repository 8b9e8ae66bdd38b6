/-!
# Characters of a document

The classes of characters that the grammar of TOML distinguishes, and what is skipped between
tokens. Every scanner takes the remaining characters and gives back what remains behind it.
-/

namespace Overhead
namespace Toml

/-- What remains to be read. -/
abbrev Input := List Char

def isBlank (c : Char) : Bool :=
  c == ' ' || c == '\t'

/-- Characters of a comment: no control character except the tab. -/
def isPrintable (c : Char) : Bool :=
  c == '\t' || (0x20 ≤ c.toNat && c.toNat != 0x7f)

def isDigit (c : Char) : Bool :=
  '0' ≤ c && c ≤ '9'

def isBareKey (c : Char) : Bool :=
  isDigit c || ('A' ≤ c && c ≤ 'Z') || ('a' ≤ c && c ≤ 'z') || c == '-' || c == '_'

def skipBlanks (input : Input) : Input :=
  input.dropWhile isBlank

def newline? : Input → Option Input
  | '\n' :: rest => some rest
  | '\r' :: '\n' :: rest => some rest
  | _ => none

/-- Skips a comment up to the end of its line, if one starts here. -/
def skipComment : Input → Input
  | '#' :: rest => rest.dropWhile isPrintable
  | input => input

/-- Skips what may follow a statement on its line, and the line end. -/
def endLine? (input : Input) : Option Input :=
  match skipComment (skipBlanks input) with
  | [] => some []
  | rest => newline? rest

/-- Skips blanks, comments and line ends, which all may stand between the items of a list. -/
def skipLines : Nat → Input → Input
  | 0, input => input
  | fuel + 1, input =>
      match newline? (skipComment (skipBlanks input)) with
      | some rest => skipLines fuel rest
      | none => skipComment (skipBlanks input)

end Toml
end Overhead
