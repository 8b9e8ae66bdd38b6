import Overhead.Canvas

/-!
# The recording canvas

A canvas that paints nothing and remembers everything asked of it. Its containers are never used
twice: a new text always gets a new one, so a handle says when its text was first shaped.
-/

namespace Overhead

structure Container where
  text : String
  fontSize : Float32
deriving DecidableEq

structure DrawnText where
  text : String
  color : Color
  outline : Color
  position : Point
deriving DecidableEq

structure DrawnSprite where
  sprite : Sprite
  center : Point
  size : Point
  rotation : Float32
  color : Color
deriving DecidableEq

structure Recording where
  containers : Array (Option Container) := #[]
  /-- The screen at each shaping. -/
  shapedOn : Array (Area Float32) := #[]
  /-- How often a valid handle was released. -/
  releases : Nat := 0
  texts : Array DrawnText := #[]
  sprites : Array DrawnSprite := #[]
  flags : Array RenderFlags := #[]
  screen : Area Float32 := ⟨0, 0, 1500, 1000⟩
  interface : Area Float32 := ⟨-100, -100, 1400, 900⟩
  /-- Whether shaping fails, as it does when a font is missing. -/
  failShaping : Bool := false

namespace Recording

def find (handle : TextHandle) (canvas : Recording) : Option Container :=
  handle.bind fun index => (canvas.containers[index]?).bind id

def live (canvas : Recording) : Nat :=
  canvas.containers.countP (·.isSome)

def release (handle : TextHandle) (canvas : Recording) : Recording :=
  match handle with
  | none => canvas
  | some index =>
      { canvas with
        releases := canvas.releases + 1
        containers := canvas.containers.setIfInBounds index none }

/-- Remembers that a text is shaped on the current screen. -/
def noteShaping (canvas : Recording) : Recording :=
  { canvas with shapedOn := canvas.shapedOn.push canvas.screen }

/-- Keeps a text in the container of a handle, or in a new one. -/
def keep (handle : TextHandle) (container : Container) (canvas : Recording) :
    TextHandle × Recording :=
  match handle with
  | some index =>
      (handle, { canvas with containers := canvas.containers.setIfInBounds index (some container) })
  | none =>
      (some canvas.containers.size,
        { canvas with containers := canvas.containers.push (some container) })

/-- Shapes a text. A failure and an empty text give the old text back instead. -/
def shape (handle : TextHandle) (text : String) (fontSize : Float32) (canvas : Recording) :
    TextHandle × Recording :=
  let canvas := canvas.noteShaping
  if canvas.failShaping || text.isEmpty then (none, canvas.release handle)
  else canvas.keep handle { text := text, fontSize := fontSize }

/-- Every byte of a text is half as wide as the font is high. -/
def extent (handle : TextHandle) (canvas : Recording) : Point :=
  match canvas.find handle with
  | none => Point.zero
  | some c => ⟨Float32.ofNat c.text.utf8ByteSize * c.fontSize / 2, c.fontSize⟩

def drawText (handle : TextHandle) (color outline : Color) (position : Point) (canvas : Recording) :
    Recording :=
  match canvas.find handle with
  | none => canvas
  | some c =>
      { canvas with
        texts := canvas.texts.push
          { text := c.text, color := color, outline := outline, position := position } }

def drawSprite (sprite : Sprite) (center size : Point) (rotation : Float32) (color : Color)
    (canvas : Recording) : Recording :=
  { canvas with
    sprites := canvas.sprites.push
      { sprite := sprite, center := center, size := size, rotation := rotation, color := color } }

instance : Canvas Recording where
  screen := Recording.screen
  setScreen area canvas := { canvas with screen := area }
  setInterface canvas := { canvas with screen := canvas.interface }
  shape := Recording.shape
  extent := Recording.extent
  release := Recording.release
  drawText := Recording.drawText
  drawSprite := Recording.drawSprite
  setFlags flags canvas := { canvas with flags := canvas.flags.push flags }

/-- What was asked of a canvas since an earlier state of it, and the state it is in now. -/
structure Report where
  shapedOn : List (Area Float32)
  releases : Nat
  live : Nat
  flags : List RenderFlags
  screen : Area Float32
  texts : List DrawnText
  sprites : List DrawnSprite

def since (earlier canvas : Recording) : Report :=
  { shapedOn := canvas.shapedOn.toList.drop earlier.shapedOn.size
    releases := canvas.releases - earlier.releases
    live := canvas.live
    flags := canvas.flags.toList.drop earlier.flags.size
    screen := canvas.screen
    texts := canvas.texts.toList.drop earlier.texts.size
    sprites := canvas.sprites.toList.drop earlier.sprites.size }

end Recording
end Overhead
