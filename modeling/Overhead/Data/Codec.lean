import Overhead.Data.Error

/-!
# Codecs and records

A codec writes values as data and reads them back. A record is read field by field: entries that
belong to no field are skipped, fields without an entry keep their default, and a list stands for
the fields in the order they are declared.
-/

namespace Overhead

structure Codec (α : Type) where
  encode : α → Data
  decode : Data → Except DecodeError α

namespace Codec

def bool : Codec Bool where
  encode := .bool
  decode
    | .bool value => .ok value
    | found => .error (.wrongType found "a boolean")

def text : Codec String where
  encode := .text
  decode
    | .text value => .ok value
    | found => .error (.wrongType found "a string")

/-- Whole numbers below `bound`, under the name that errors give their type. -/
def natural (bound : Nat) (name : String) : Codec Nat where
  encode value := .int value
  decode
    | .int value =>
        if 0 ≤ value ∧ value < bound then .ok value.toNat else .error (.outOfRange value name)
    | found => .error (.wrongType found name)

def map {α β : Type} (codec : Codec α) (forth : α → β) (back : β → α) : Codec β where
  encode value := codec.encode (back value)
  decode data := (codec.decode data).map forth

def word : Codec UInt32 :=
  (natural (Nat.pow 2 32) "u32").map UInt32.ofNat UInt32.toNat

def size : Codec Nat :=
  natural (Nat.pow 2 64) "usize"

def longWord : Codec Nat :=
  natural (Nat.pow 2 64) "u64"

/-- A value that may be left out; what is written must be a value. -/
def optional {α : Type} (codec : Codec α) : Codec (Option α) where
  encode
    | none => .null
    | some value => codec.encode value
  decode
    | .null => .ok none
    | data => (codec.decode data).map some

/-- The value that a name stands for. -/
def chosen {α : Type} (options : List (String × α)) (name : String) : Except DecodeError α :=
  match options.lookup name with
  | some value => .ok value
  | none => .error (.unknownVariant name (options.map (·.1)))

/-- A choice carries nothing: what stands for its contents must be a table without entries. -/
def requireEmpty : Data → Except DecodeError Unit
  | .table [] => .ok ()
  | .table _ => .error .choiceNotEmpty
  | found => .error (.choiceNotTable found)

/-- One of a few named values, given by its name or as a table with nothing but its name. -/
def choice {α : Type} [DecidableEq α] (options : List (String × α)) : Codec α where
  encode value :=
    match options.find? (·.2 = value) with
    | some (name, _) => .text name
    | none => .null
  decode
    | .text name => chosen options name
    | .table [] => .error .choiceMissing
    | .table [(name, contents)] => do
        let value ← chosen options name
        requireEmpty contents
        return value
    | .table _ => .error .choiceAmbiguous
    | _ => .error .notAChoice

end Codec

structure Field (ρ : Type) where
  key : String
  write : ρ → Data
  read : Data → ρ → Except DecodeError ρ

/-- The field that a codec reads and writes. -/
def Codec.field {α ρ : Type} (codec : Codec α) (key : String) (get : ρ → α) (set : α → ρ → ρ) :
    Field ρ where
  key := key
  write record := codec.encode (get record)
  read data record := (codec.decode data).map fun value => set value record

/-- The fields of a record, in the order they are declared, and its default. -/
structure Schema (ρ : Type) where
  /-- How errors call the record. -/
  name : String
  default : ρ
  fields : List (Field ρ)

namespace Schema

variable {ρ : Type}

def readEntry (schema : Schema ρ) (record : ρ) (entry : String × Data) : Except DecodeError ρ :=
  match schema.fields.find? (·.key == entry.1) with
  | some field => field.read entry.2 record
  | none => .ok record

def readItem (record : ρ) (item : Field ρ × Data) : Except DecodeError ρ :=
  item.1.read item.2 record

def decode (schema : Schema ρ) : Data → Except DecodeError ρ
  | .table entries => entries.foldlM schema.readEntry schema.default
  | .list items | .sections items => (schema.fields.zip items).foldlM readItem schema.default
  | .date => .ok schema.default
  | found => .error (.wrongType found ("struct " ++ schema.name))

def encode (schema : Schema ρ) (record : ρ) : Data :=
  .table (schema.fields.map fun field => (field.key, field.write record))

/-- A record as a codec, for the fields of larger records. -/
def codec (schema : Schema ρ) : Codec ρ :=
  { encode := schema.encode, decode := schema.decode }

end Schema
end Overhead
