import Overhead.Single

/-!
# Colors

A color keeps the model it was given in, by red, green and blue or by hue, saturation and lightness,
and is only turned into red, green and blue where it is painted. Replacing the opacity leaves the
other three numbers alone in either model.
-/

namespace Overhead

inductive Color where
  | rgba (red green blue alpha : Float32)
  | hsla (hue saturation lightness alpha : Float32)
deriving DecidableEq

namespace Color

def white : Color :=
  .rgba 1 1 1 1

def black : Color :=
  .rgba 0 0 0 1

/-- Text is white unless something asks for another color. -/
def defaultText : Color :=
  white

/-- The faint black outline of text. -/
def defaultOutline : Color :=
  .rgba 0 0 0 0.3

def defaultBody : Color :=
  .rgba 0.8 0.6 0.4 1

def alpha : Color → Float32
  | .rgba _ _ _ a => a
  | .hsla _ _ _ a => a

def withAlpha (alpha : Float32) : Color → Color
  | .rgba r g b _ => .rgba r g b alpha
  | .hsla h s l _ => .hsla h s l alpha

@[simp] theorem alpha_withAlpha (a : Float32) (c : Color) : (c.withAlpha a).alpha = a := by
  cases c <;> rfl

@[simp] theorem withAlpha_withAlpha (a b : Float32) (c : Color) :
    (c.withAlpha b).withAlpha a = c.withAlpha a := by
  cases c <;> rfl

structure Channels where
  red : Float32
  green : Float32
  blue : Float32
  alpha : Float32
deriving DecidableEq

/-- The channels of a color. Around the hue circle the two strongest of red, green and blue change
every sixty degrees; the lightness lifts all three. -/
def channels : Color → Channels
  | .rgba r g b a => ⟨r, g, b, a⟩
  | .hsla hue saturation lightness a =>
      let chroma := (1 - (2 * lightness - 1).abs) * saturation
      let sector := hue / 60
      let second := chroma * (1 - (Single.remainder sector 2 - 1).abs)
      let lift := lightness - chroma / 2
      let lifted (r g b : Float32) : Channels := ⟨r + lift, g + lift, b + lift, a⟩
      if sector < 1 then lifted chroma second 0
      else if sector < 2 then lifted second chroma 0
      else if sector < 3 then lifted 0 chroma second
      else if sector < 4 then lifted 0 second chroma
      else if sector < 5 then lifted second 0 chroma
      else lifted chroma 0 second

/-- Reads hue, saturation and lightness from the three low bytes of a word, each byte scaled to its
whole range. -/
def ofPacked (packed : UInt32) : Color :=
  let channel (shift : UInt32) : Float32 := ((packed >>> shift) &&& 0xff).toFloat32 / 255
  .hsla (channel 16 * 360) (channel 8) (channel 0) 1

/-- The color of a numbered team. Neighbouring numbers are a golden angle apart on the hue circle,
so that they never look alike. -/
def ofTeam (team : UInt32) (lightness : Float32) : Color :=
  let angle := (team.toFloat32 - 1) * 360 / (1 + Float32.sqrt 5)
  .hsla (Single.remainderUp angle 360) 1 lightness 1

end Color
end Overhead
