import Overhead.Color

/-!
# Painted colors

What reaches the screen has a byte a channel, and the opacity already multiplied into the other
three in linear light.
-/

namespace Overhead

structure Pixel where
  red : UInt8
  green : UInt8
  blue : UInt8
  alpha : UInt8
deriving DecidableEq

namespace Pixel

def transparent : Pixel :=
  ⟨0, 0, 0, 0⟩

def black : Pixel :=
  ⟨0, 0, 0, 255⟩

/-- Linear light of a byte on the display's curve, which is straight near black. -/
def linearOfByte (byte : UInt8) : Float32 :=
  let value := byte.toFloat32
  if byte ≤ 10 then value / 3294.6 else Float32.pow ((value + 14.025) / 269.025) 2.4

/-- The byte nearest to an amount of linear light on the same curve. -/
def byteOfLinear (light : Float32) : UInt8 :=
  let nearest (value : Float32) : UInt8 := (Single.floor (value + 0.5)).toUInt8
  if light ≤ 0 then 0
  else if light ≤ 0.0031308 then nearest (3294.6 * light)
  else if light ≤ 1 then nearest (269.025 * Float32.pow light (1 / 2.4) - 14.025)
  else 255

/-- Multiplies the opacity into the other channels. -/
def premultiply (red green blue alpha : UInt8) : Pixel :=
  if alpha = 255 then ⟨red, green, blue, 255⟩
  else if alpha = 0 then transparent
  else
    let opacity := alpha.toFloat32 / 255
    let dim (byte : UInt8) : UInt8 := byteOfLinear (linearOfByte byte * opacity)
    ⟨dim red, dim green, dim blue, alpha⟩

/-- The painted form of a color, with channels outside `0 .. 1` cut off. -/
def ofColor (color : Color) : Pixel :=
  let byte (value : Float32) : UInt8 := (Single.round (Single.clamp 0 1 value * 255)).toUInt8
  let c := color.channels
  premultiply (byte c.red) (byte c.green) (byte c.blue) (byte c.alpha)

/-- Dims all four channels by the same factor, without the display's curve. -/
def dim (pixel : Pixel) (factor : Float32) : Pixel :=
  let byte (value : UInt8) : UInt8 := (value.toFloat32 * factor + 0.5).toUInt8
  ⟨byte pixel.red, byte pixel.green, byte pixel.blue, byte pixel.alpha⟩

end Pixel
end Overhead
