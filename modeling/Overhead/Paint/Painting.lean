import Overhead.Geometry.Interface
import Overhead.Paint.Icon
import Overhead.Paint.TextStore

/-!
# Paintings

A painting turns what plates draw into shapes in a viewport of the window. It belongs to one frame;
the texts it keeps are handed on to the next one.
-/

namespace Overhead

/-- How large texts are: the extent in points of a text in a font size in points. -/
structure Typeface where
  extent : String → Float32 → Point

/-- A typeface in which every byte is half as wide as the font is high. -/
def Typeface.even : Typeface where
  extent text fontSize :=
    let lines := text.splitOn "\n"
    let widest := lines.foldl (fun width line => max width line.utf8ByteSize) 0
    ⟨Float32.ofNat widest * fontSize / 2, Float32.ofNat lines.length * fontSize⟩

structure Painting where
  viewport : Area Float32
  /-- Pixels of the display for a point of the window. -/
  pixelsPerPoint : Float32
  typeface : Typeface := Typeface.even
  sprites : SpriteTable
  texts : TextStore
  /-- The part of the world that the viewport shows. -/
  screen : Area Float32
  /-- What it shows at the reference zoom. -/
  interface : Area Float32
  flags : RenderFlags := RenderFlags.none
  shapes : Array Shape := #[]

namespace Painting

/-- Starts a painting with the texts of the last one. -/
def start (viewport : Area Float32) (pixelsPerPoint : Float32) (sprites : SpriteTable)
    (texts : TextStore) (screen : Area Float32) : Painting where
  viewport := viewport
  pixelsPerPoint := pixelsPerPoint
  sprites := sprites
  texts := texts
  screen := screen
  interface := Area.around screen.center (Interface.size viewport.aspect)

/-- Points of the window for a unit of the world, by the height. -/
def scale (painting : Painting) : Float32 :=
  if 0 < painting.screen.height then painting.viewport.height / painting.screen.height else 1

/-- Where a point of the world lies in the window. -/
def toPoints (painting : Painting) (p : Point) : Point :=
  painting.screen.toViewport painting.viewport p

/-- The nearest point that lies on whole pixels. -/
def toWholePixels (painting : Painting) (p : Point) : Point :=
  let whole (x : Float32) : Float32 :=
    Single.round (x * painting.pixelsPerPoint) / painting.pixelsPerPoint
  ⟨whole p.x, whole p.y⟩

def add (painting : Painting) (shapes : List Shape) : Painting :=
  { painting with shapes := painting.shapes ++ shapes }

/-- Lays a text out at the current scale. -/
def layOut (painting : Painting) (text : String) (fontSize : Float32) : ShapedText where
  text := text
  fontSize := fontSize
  extent := painting.typeface.extent text (fontSize * painting.scale)
  scale := painting.scale

/-- Shapes a text. An empty text is given back instead. -/
def shape (handle : TextHandle) (text : String) (fontSize : Float32) (painting : Painting) :
    TextHandle × Painting :=
  if text.isEmpty then (none, { painting with texts := painting.texts.release handle })
  else
    let (handle, texts) := painting.texts.keep handle (painting.layOut text fontSize)
    (handle, { painting with texts := texts })

/-- The extent of a text in units of the world. -/
def extent (handle : TextHandle) (painting : Painting) : Point :=
  match painting.texts.find handle with
  | some text => ⟨text.extent.x / text.scale, text.extent.y / text.scale⟩
  | none => Point.zero

/-- The copies of a text that make up its outline. -/
def outlineOffsets : List Point :=
  [⟨-1, 0⟩, ⟨1, 0⟩, ⟨0, -1⟩, ⟨0, 1⟩]

/-- The shapes of a text at a point of the window. An outline that cannot be seen is left out. -/
def textShapes (text : String) (position : Point) (color outline : Pixel) : List Shape :=
  let around :=
    if outline.alpha = 0 then []
    else outlineOffsets.map fun offset => .text text (position + offset) outline
  around ++ [.text text position color]

def drawText (handle : TextHandle) (color outline : Color) (position : Point)
    (painting : Painting) : Painting :=
  match painting.texts.find handle with
  | none => painting
  | some text =>
      let position := painting.toPoints position
      let position :=
        if painting.flags.noPixelAlignment then position else painting.toWholePixels position
      painting.add (textShapes text.text position (.ofColor color) (.ofColor outline))

def drawSprite (sprite : Sprite) (center size : Point) (rotation : Float32) (color : Color)
    (painting : Painting) : Painting :=
  painting.add
    (Icon.shapes painting.sprites sprite (painting.toPoints center) (size.scale painting.scale)
      rotation (.ofColor color))

instance : Canvas Painting where
  screen := Painting.screen
  setScreen area painting := { painting with screen := area }
  setInterface painting := { painting with screen := painting.interface }
  shape := Painting.shape
  extent := Painting.extent
  release handle painting := { painting with texts := painting.texts.release handle }
  drawText := Painting.drawText
  drawSprite := Painting.drawSprite
  setFlags flags painting := { painting with flags := flags }

end Painting
end Overhead
