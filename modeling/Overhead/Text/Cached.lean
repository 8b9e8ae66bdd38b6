import Overhead.Canvas

/-!
# Cached text

A text that is drawn in every frame is shaped only when its string or its font size changes. The
cache remembers what it last asked for, also when nothing came of it.
-/

namespace Overhead

structure CachedText where
  handle : TextHandle := none
  text : String := ""
  fontSize : Float32 := Single.belowAll
deriving DecidableEq

namespace CachedText

variable {σ : Type} [Canvas σ]

/-- Whether showing the given text means shaping it. -/
def needsUpdate (cached : CachedText) (text : String) (fontSize : Float32) : Bool :=
  cached.handle.isNone || cached.fontSize != fontSize || cached.text != text

def reshape (cached : CachedText) (text : String) (fontSize : Float32) (canvas : σ) :
    CachedText × σ :=
  let (handle, canvas) := Canvas.shape cached.handle text fontSize canvas
  ({ handle := handle, text := text, fontSize := fontSize }, canvas)

/-- Shapes a text at the reference zoom, so that it looks the same at every zoom, and returns to the
screen that was mapped before. The old text is given back first. -/
def reshapeInGame (cached : CachedText) (text : String) (fontSize : Float32) (canvas : σ) :
    CachedText × σ :=
  let screen := Canvas.screen canvas
  let canvas := Canvas.release cached.handle (Canvas.setInterface canvas)
  let (cached, canvas) := { cached with handle := none }.reshape text fontSize canvas
  (cached, Canvas.setScreen screen canvas)

/-- The extent of the shaped text, if there is one. -/
def extent? (cached : CachedText) (canvas : σ) : Option Point :=
  if cached.handle.isSome then some (Canvas.extent cached.handle canvas) else none

/-- Makes the cache hold a text and tells how large it is, or `none` if it could not be shaped. -/
def update (cached : CachedText) (text : String) (fontSize : Float32) (inGame : Bool) (canvas : σ) :
    Option Point × CachedText × σ :=
  let (cached, canvas) :=
    if cached.needsUpdate text fontSize then
      if inGame then cached.reshapeInGame text fontSize canvas
      else cached.reshape text fontSize canvas
    else (cached, canvas)
  (cached.extent? canvas, cached, canvas)

/-- Draws the text around a center. The outline fades with the text. -/
def draw (cached : CachedText) (center size : Point) (color : Color) (canvas : σ) : σ :=
  if cached.handle.isSome then
    let outline := Color.defaultOutline
    Canvas.drawText cached.handle color (outline.withAlpha (outline.alpha * color.alpha))
      (center - size.half) canvas
  else canvas

/-- Gives the text back and forgets what was asked for. -/
def reset (cached : CachedText) (canvas : σ) : CachedText × σ :=
  ({}, Canvas.release cached.handle canvas)

end CachedText
end Overhead
