import Overhead.Settings.Basic

/-!
# The configuration

Five sections, each with defaults for everything. The graphics mode is the only entry that has to be
complete: it names its type and, for a window, both sides.
-/

namespace Overhead

inductive GraphicsMode where
  | window (width height : Float32)
  | fullscreen
deriving DecidableEq

namespace GraphicsMode

inductive Kind where
  | window
  | fullscreen
deriving DecidableEq

/-- How errors call a mode, and a window. -/
def name : String :=
  "internally tagged enum GraphicsModeConfig"

def windowName : String :=
  "struct variant GraphicsModeConfig::Window"

def kind : Data → Except DecodeError Kind
  | .text "window" => .ok .window
  | .text "fullscreen" => .ok .fullscreen
  | .text other => .error (.unknownVariant other ["window", "fullscreen"])
  | found => .error (.wrongType found "variant identifier")

/-- The length of a side; whole numbers will do. -/
def side : Data → Except DecodeError Float32
  | .float value => .ok value.toFloat32
  | .int value => .ok (Float32.ofInt value)
  | found => .error (.wrongType found "f32")

structure Sides where
  width : Option Float32 := none
  height : Option Float32 := none

def readSide (sides : Sides) (entry : String × Data) : Except DecodeError Sides :=
  if entry.1 = "width" then (side entry.2).map fun v => { sides with width := some v }
  else if entry.1 = "height" then (side entry.2).map fun v => { sides with height := some v }
  else .ok sides

/-- A window from the entries beside its type. -/
def windowOfEntries (entries : List (String × Data)) : Except DecodeError GraphicsMode := do
  let sides ← entries.foldlM readSide {}
  match sides.width, sides.height with
  | none, _ => .error (.missingField "width")
  | some _, none => .error (.missingField "height")
  | some width, some height => .ok (.window width height)

/-- How an error calls a number of list items. -/
def itemCount (n : Nat) : String :=
  if n = 1 then "1 element in sequence" else toString n ++ " elements in sequence"

/-- Refuses items after the last one that has a meaning. -/
def refuseRest (read : Nat) (rest : List Data) : Except DecodeError Unit :=
  if rest.isEmpty then .ok () else .error (.wrongLength (read + rest.length) (itemCount read))

/-- A window from the list items behind its type. -/
def windowOfItems : List Data → Except DecodeError GraphicsMode
  | [] => .error (.wrongLength 0 (windowName ++ " with 2 elements"))
  | [first] => do
      let _ ← side first
      .error (.wrongLength 1 (windowName ++ " with 2 elements"))
  | first :: second :: rest => do
      let width ← side first
      let height ← side second
      refuseRest 2 rest
      return .window width height

/-- Reads the type of a mode wherever it stands in a table, and gives back the other entries. -/
def splitKind : List (String × Data) → Except DecodeError (Option Kind × List (String × Data))
  | [] => .ok (none, [])
  | (key, value) :: rest =>
      if key = "type" then do
        let found ← kind value
        let (_, others) ← splitKind rest
        return (some found, others)
      else do
        let (found, others) ← splitKind rest
        return (found, (key, value) :: others)

/-- A mode from a list, of which the first item is its type. -/
def ofItems : List Data → Except DecodeError GraphicsMode
  | [] => .error (.missingField "type")
  | first :: rest => do
      match ← kind first with
      | .window => windowOfItems rest
      | .fullscreen => do
          refuseRest 0 rest
          return .fullscreen

def decode : Data → Except DecodeError GraphicsMode
  | .table entries => do
      match ← splitKind entries with
      | (none, _) => .error (.missingField "type")
      | (some .window, others) => windowOfEntries others
      | (some .fullscreen, _) => .ok .fullscreen
  | .date => .error (.missingField "type")
  | .list items | .sections items => ofItems items
  | found => .error (.wrongType found name)

def encode : GraphicsMode → Data
  | .window width height =>
      .table
        [ ("type", .text "window"),
          ("width", .float width.toFloat),
          ("height", .float height.toFloat) ]
  | .fullscreen => .table [("type", .text "fullscreen")]

def codec : Codec GraphicsMode where
  encode := encode
  decode := decode

end GraphicsMode

structure Graphics where
  mode : GraphicsMode := .window 1280 720
  disableVsync : Bool := false
  /-- The directory of the icon textures; icons are plain shapes without one. -/
  spriteDirectory : Option String := none
deriving DecidableEq

namespace Graphics

def schema : Schema Graphics where
  name := "GraphicsConfig"
  default := {}
  fields :=
    [ GraphicsMode.codec.field "mode" (·.mode) fun v r => { r with mode := v },
      Codec.bool.field "disable_vsync" (·.disableVsync) fun v r => { r with disableVsync := v },
      Codec.text.optional.field "name_plate_sprites" (·.spriteDirectory) fun v r =>
        { r with spriteDirectory := v } ]

end Graphics

structure Config where
  graphics : Graphics := {}
  plates : PlateSettings := {}
  profile : Profile := {}
  rainbow : RainbowSettings := {}
  demo : DemoConfig := {}
deriving DecidableEq

namespace Config

def schema : Schema Config where
  name := "Config"
  default := {}
  fields :=
    [ Graphics.schema.codec.field "graphics" (·.graphics) fun v r => { r with graphics := v },
      PlateSettings.schema.codec.field "name_plates" (·.plates) fun v r => { r with plates := v },
      Profile.schema.codec.field "player" (·.profile) fun v r => { r with profile := v },
      RainbowSettings.schema.codec.field "rainbow" (·.rainbow) fun v r => { r with rainbow := v },
      DemoConfig.schema.codec.field "demo" (·.demo) fun v r => { r with demo := v } ]

end Config
end Overhead
