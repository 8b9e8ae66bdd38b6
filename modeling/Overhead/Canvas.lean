import Overhead.Color
import Overhead.Geometry.Area

/-!
# Canvases

A canvas draws sprites and shaped text. Shaping a text is expensive, so a canvas keeps shaped texts
under handles until they are released; whoever holds a handle owns the text behind it. An operation
takes the state of the canvas and returns the next one.
-/

namespace Overhead

/-- Names a text that a canvas keeps. A handle that names nothing is invalid. Handles have no fixed
width, so a canvas never runs out of them; one whose handles are 32 bits wide does the same until
all of them are used. -/
abbrev TextHandle := Option Nat

inductive Sprite where
  | arrow
  | friendHeart
  | hookStrong
  | hookWeak
  | hookIcon
deriving DecidableEq

namespace Sprite

/-- Every sprite, in the order textures are numbered. -/
def all : List Sprite :=
  [.arrow, .friendHeart, .hookStrong, .hookWeak, .hookIcon]

def name : Sprite → String
  | .arrow => "arrow"
  | .friendHeart => "friend_heart"
  | .hookStrong => "hook_strong"
  | .hookWeak => "hook_weak"
  | .hookIcon => "hook_icon"

end Sprite

/-- How text is set while a plate is drawn. -/
structure RenderFlags where
  noFirstBearing : Bool := false
  noLastAdvance : Bool := false
  noPixelAlignment : Bool := false
deriving DecidableEq

namespace RenderFlags

def none : RenderFlags :=
  {}

/-- The flags of a plate. Plates in the game are not moved to whole pixels. -/
def plate (inGame : Bool) : RenderFlags :=
  { noFirstBearing := true, noLastAdvance := true, noPixelAlignment := inGame }

def bits (flags : RenderFlags) : Nat :=
  flags.noFirstBearing.toNat + 2 * flags.noLastAdvance.toNat + 4 * flags.noPixelAlignment.toNat

/-- Reads a set of bits; bits beyond the third mean nothing. -/
def ofBits (bits : Nat) : RenderFlags :=
  { noFirstBearing := bits.testBit 0
    noLastAdvance := bits.testBit 1
    noPixelAlignment := bits.testBit 2 }

@[simp] theorem ofBits_bits (flags : RenderFlags) : ofBits flags.bits = flags := by
  cases flags with
  | mk a b c => cases a <;> cases b <;> cases c <;> decide

end RenderFlags

/-- The operations that plates are drawn with. -/
class Canvas (σ : Type) where
  /-- The part of the world that is on the screen. -/
  screen : σ → Area Float32
  setScreen : Area Float32 → σ → σ
  /-- Shows the world at the reference zoom. -/
  setInterface : σ → σ
  /-- Replaces the text behind a handle, or makes a handle for it. The handle that comes back is
  invalid if nothing could be shaped. -/
  shape : TextHandle → String → Float32 → σ → TextHandle × σ
  /-- The extent of a shaped text. -/
  extent : TextHandle → σ → Point
  /-- Gives a text back; its handle is invalid from then on. -/
  release : TextHandle → σ → σ
  /-- Draws a shaped text in a color and an outline color, from its upper left corner on. -/
  drawText : TextHandle → Color → Color → Point → σ → σ
  /-- Draws a sprite around a center, in a size, turned and in a color. -/
  drawSprite : Sprite → Point → Point → Float32 → Color → σ → σ
  setFlags : RenderFlags → σ → σ

end Overhead
