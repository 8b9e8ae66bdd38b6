/-!
# Data trees

The values of configuration files and of settings on the wire: numbers, texts, lists and tables. A
table keeps its entries in the order they were written.
-/

namespace Overhead

inductive Data where
  | null
  | bool (value : Bool)
  | int (value : Int)
  | float (value : Float)
  | text (value : String)
  /-- A date or a time of day; nothing here reads one. -/
  | date
  | list (items : List Data)
  /-- A list of tables, written as one section for each of them. It reads as any other list. -/
  | sections (items : List Data)
  | table (entries : List (String × Data))
deriving Inhabited

end Overhead
