import Overhead.Toml.Value

/-!
# Documents

A document is a sequence of lines: headers, pairs of a key and a value, and lines with nothing but a
comment. Values may take up several lines.
-/

namespace Overhead
namespace Toml

def statement? (document : Document) : Input → Option (Document × Input)
  | '[' :: '[' :: rest => do
      let (path, rest) ← keyPath? depthLimit rest
      let rest ← after? ']' (← after? ']' rest)
      return (← document.openNext? path, rest)
  | '[' :: rest => do
      let (path, rest) ← keyPath? depthLimit rest
      return (← document.openTable? path, ← after? ']' rest)
  | input => do
      let ((path, data), rest) ← pair? (value? depthLimit) input
      return (← document.assign? path data, rest)

/-- Reads lines up to the end. The fuel bounds their number. -/
def lines? : Nat → Document → Input → Option Document
  | 0, _, _ => none
  | fuel + 1, document, input =>
      match endLine? input with
      | some [] => some document
      | some rest => lines? fuel document rest
      | none => do
          let (document, rest) ← statement? document (skipBlanks input)
          lines? fuel document (← endLine? rest)

def skipMark : Input → Input
  | '\uFEFF' :: rest => rest
  | input => input

/-- The data that a text writes, or `none` if it is no document. -/
def read? (text : String) : Option Data :=
  let input := skipMark text.toList
  (lines? (input.length + 1) {} input).map Document.toData

end Toml
end Overhead
