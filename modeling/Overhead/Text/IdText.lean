/-!
# The text of an id

Ids are written into a small buffer of fixed capacity. A piece that does not fit is left out, with
everything after it, instead of being cut.
-/

namespace Overhead
namespace IdText

/-- The bytes an id text may have: twenty digits, or a sign and ten, and a mark of one byte. -/
def capacity : Nat :=
  24

/-- Appends pieces in order for as long as they fit. -/
def appendFitting (written : String) : List String → String
  | [] => written
  | piece :: rest =>
      if written.utf8ByteSize + piece.utf8ByteSize ≤ capacity then
        appendFitting (written ++ piece) rest
      else written

/-- The pieces of a number: its sign, if it is negative, and its digits. -/
def pieces : Int → List String
  | .ofNat n => [Nat.repr n]
  | .negSucc n => ["-", Nat.repr (n + 1)]

/-- The decimal digits of an id and a mark behind them. -/
def format (id : Int) (mark : String) : String :=
  appendFitting "" (pieces id ++ [mark])

end IdText
end Overhead
