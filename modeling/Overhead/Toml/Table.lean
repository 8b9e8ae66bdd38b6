import Overhead.Data.Tree

/-!
# Tables under construction

A document fills its tables piece by piece, and how a table came to be decides what may be added to
it: a header may complete a table that other headers only implied, and a dotted key may not reach
into a table that has a header of its own. A table in braces is filled by nothing but what stands
between them, and is finished at its closing brace.
-/

namespace Overhead
namespace Toml

/-- How a table came to be: by a header of its own, as a step on the way of a longer header, or as a
step on the way of a dotted key. -/
inductive Origin where
  | header
  | implied
  | dotted
deriving DecidableEq

inductive Node where
  /-- A finished value; nothing can be added to it. -/
  | value (data : Data)
  | table (origin : Origin) (entries : List (String × Node))
  /-- A list of tables that headers extend; only the last one is still open. -/
  | tables (earlier : List Data) (last : List (String × Node))

/-- The entries of an open table. -/
abbrev Entries := List (String × Node)

mutual

/-- What a node stands for. -/
def Node.toData : Node → Data
  | .value data => data
  | .table _ entries => .table (Entries.toData entries)
  | .tables earlier last => .sections (earlier ++ [.table (Entries.toData last)])

def Entries.toData : List (String × Node) → List (String × Data)
  | [] => []
  | (key, node) :: rest => (key, node.toData) :: Entries.toData rest

end

/-- Replaces the value of a key where it stands, or adds one behind all others. -/
def update? {α : Type} (key : String) (change : Option α → Option α) :
    List (String × α) → Option (List (String × α))
  | [] => (change none).map fun value => [(key, value)]
  | (k, value) :: rest =>
      if k = key then (change (some value)).map fun value => (k, value) :: rest
      else (update? key change rest).map ((k, value) :: ·)

/-- Adds a value under a dotted key to a table in braces. Tables that are missing on the way are
made, and those that are there may be extended however they came to be. -/
def extend? (data : Data) : List String → List (String × Data) → Option (List (String × Data))
  | [], _ => none
  | [key], entries =>
      update? key (fun old => if old.isNone then some data else none) entries
  | key :: path, entries =>
      update? key
        (fun
          | none => (extend? data path []).map .table
          | some (.table inner) => (extend? data path inner).map .table
          | some _ => none)
        entries

namespace Entries

/-- Changes the table that a path leads to. A table that is missing on the way is made with the
origin `making`, and one with a header of its own is closed to dotted keys. -/
def within? (making : Origin) (change : Origin → Entries → Option Entries) :
    List String → Origin → Entries → Option Entries
  | [], origin, entries => change origin entries
  | key :: path, _, entries =>
      update? key
        (fun
          | none => (within? making change path making []).map (.table making)
          | some (.value _) => none
          | some (.table origin inner) =>
              if making = .dotted ∧ origin = .header then none
              else (within? making change path origin inner).map (.table origin)
          | some (.tables earlier last) =>
              (within? making change path .header last).map (.tables earlier))
        entries

/-- Adds a key that must be new. -/
def add? (key : String) (data : Data) (entries : Entries) : Option Entries :=
  update? key (fun old => if old.isNone then some (.value data) else none) entries

/-- Adds a value under a dotted key. The table that holds it must have come to be by dotted keys if
the key has dots, and only then. -/
def assign? (path : List String) (data : Data) (entries : Entries) : Option Entries :=
  match path.getLast? with
  | none => none
  | some key =>
      let way := path.dropLast
      within? .dotted
        (fun origin inner =>
          if (origin == .dotted) == way.isEmpty then none else inner.add? key data)
        way .header entries

/-- Opens the table of a header. One that was only implied so far moves behind its neighbours. -/
def openTable? (key : String) (entries : Entries) : Option Entries :=
  match entries.lookup key with
  | none => some (entries ++ [(key, .table .header [])])
  | some (.table .implied inner) =>
      some (entries.filter (·.1 != key) ++ [(key, .table .header inner)])
  | some _ => none

/-- Opens the next table of a list. -/
def openNext? (key : String) (entries : Entries) : Option Entries :=
  update? key
    (fun
      | none => some (.tables [] [])
      | some (.tables earlier last) => some (.tables (earlier ++ [.table (toData last)]) [])
      | some _ => none)
    entries

/-- Opens the table that a header names by a path, in the way given for its last key. -/
def openAt? (opening : String → Entries → Option Entries) (path : List String)
    (entries : Entries) : Option Entries :=
  match path.getLast? with
  | none => none
  | some key => within? .implied (fun _ inner => opening key inner) path.dropLast .header entries

end Entries

/-- A document that is being read: its entries and the table that is open. -/
structure Document where
  entries : Entries := []
  current : List String := []

namespace Document

/-- Adds a value to the open table. -/
def assign? (document : Document) (path : List String) (data : Data) : Option Document := do
  let entries ←
    Entries.within? .implied (fun _ inner => inner.assign? path data) document.current .header
      document.entries
  return { document with entries := entries }

def openTable? (document : Document) (path : List String) : Option Document := do
  return { entries := ← document.entries.openAt? Entries.openTable? path, current := path }

def openNext? (document : Document) (path : List String) : Option Document := do
  return { entries := ← document.entries.openAt? Entries.openNext? path, current := path }

def toData (document : Document) : Data :=
  .table (Entries.toData document.entries)

end Document
end Toml
end Overhead
