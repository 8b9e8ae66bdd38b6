import Overhead.Toml.Number
import Overhead.Toml.Table

/-!
# Values

Strings, bare values, lists in brackets and tables in braces. Lists may run over several lines and
end with a comma; tables in braces may not.
-/

namespace Overhead
namespace Toml

/-- How deep values may be nested, and how many keys a dotted key may have. -/
def depthLimit : Nat :=
  127

/-- The items of a list up to its closing bracket. The fuel bounds their number. -/
def items? (value? : Input → Option (Data × Input)) : Nat → Input → Option (List Data × Input)
  | 0, _ => none
  | fuel + 1, input =>
      match skipLines input.length input with
      | ']' :: rest => some ([], rest)
      | rest => do
          let (item, rest) ← value? rest
          match skipLines rest.length rest with
          | ',' :: rest => do
              let (items, rest) ← items? value? fuel rest
              return (item :: items, rest)
          | ']' :: rest => return ([item], rest)
          | _ => none

def pair? (value? : Input → Option (Data × Input)) (input : Input) :
    Option ((List String × Data) × Input) := do
  let (path, rest) ← keyPath? depthLimit input
  let (data, rest) ← value? (skipBlanks (← after? '=' rest))
  return ((path, data), rest)

/-- Adds the pairs of a table to its entries, up to its closing brace. The fuel bounds their
number. -/
def pairs? (value? : Input → Option (Data × Input)) :
    Nat → List (String × Data) → Input → Option (List (String × Data) × Input)
  | 0, _, _ => none
  | fuel + 1, entries, input => do
      let ((path, data), rest) ← pair? value? input
      let entries ← extend? data path entries
      match skipBlanks rest with
      | ',' :: rest => pairs? value? fuel entries rest
      | '}' :: rest => return (entries, rest)
      | _ => none

/-- A table behind its opening brace. -/
def inline? (value? : Input → Option (Data × Input)) (input : Input) : Option (Data × Input) :=
  match skipBlanks input with
  | '}' :: rest => some (.table [], rest)
  | rest => (pairs? value? rest.length [] rest).map fun (entries, rest) =>
      (.table entries, rest)

/-- A value in which lists and tables are nested at most as deep as given. -/
def value? : Nat → Input → Option (Data × Input)
  | _, '"' :: rest => quoted ('"' :: rest)
  | _, '\'' :: rest => quoted ('\'' :: rest)
  | 0, '[' :: _ => none
  | 0, '{' :: _ => none
  | depth + 1, '[' :: rest =>
      (items? (value? depth) (rest.length + 1) rest).map fun (items, rest) => (.list items, rest)
  | depth + 1, '{' :: rest => inline? (value? depth) rest
  | _, input => bareValue? input
where
  quoted (input : Input) : Option (Data × Input) :=
    (string? input).map fun (text, rest) => (.text text, rest)

end Toml
end Overhead
