import Overhead.Game.Basic
import Overhead.Random.Basic
import Overhead.Settings.Basic

/-!
# The color effect

Time runs faster or slower by a percentage and drives a color that players may be drawn in. In the
random mode the color moves from one random color to the next, and a new one is drawn whenever more
than a unit of time has passed.
-/

namespace Overhead

/-- A color by hue, saturation, lightness and opacity, all of them between zero and one. -/
structure Tint where
  hue : Float32 := 0
  saturation : Float32 := 0
  lightness : Float32 := 0
  alpha : Float32 := 0
deriving DecidableEq

namespace Tint

/-- The tint that lies the fraction `t` of the way to another one. -/
def towards (a b : Tint) (t : Float32) : Tint :=
  let mix (x y : Float32) : Float32 := x + t * (y - x)
  { hue := mix a.hue b.hue
    saturation := mix a.saturation b.saturation
    lightness := mix a.lightness b.lightness
    alpha := mix a.alpha b.alpha }

def color (tint : Tint) : Color :=
  .hsla (Single.remainderUp tint.hue 1 * 360) tint.saturation tint.lightness tint.alpha

/-- A tint with random hue and lightness, in this order. -/
def random {ρ : Type} [RandomSource ρ] (source : ρ) : Tint × ρ :=
  let (hue, source) := Random.unit source
  let (lightness, source) := Random.unit source
  ({ hue := hue, saturation := 1, lightness := lightness, alpha := 1 }, source)

end Tint

structure Rainbow where
  time : Float32 := 0
  /-- The random tint it comes from. -/
  origin : Tint := {}
  /-- The random tint it goes to, once one was drawn. -/
  target : Option Tint := none
  /-- When the last random tint was drawn. -/
  lastSwap : Option Float32 := none
  /-- The color of the current frame, if the effect is on. -/
  color : Option Color := none
deriving DecidableEq

namespace Rainbow

variable {ρ : Type} [RandomSource ρ]

/-- Where the time stands between two units. -/
def tick (rainbow : Rainbow) : Float32 :=
  Single.remainderUp rainbow.time 1

/-- All hues in a unit of time. -/
def cycling (rainbow : Rainbow) : Color :=
  { hue := rainbow.tick, saturation := 1, lightness := 0.5, alpha := 1 : Tint }.color

/-- One hue a unit of time, going down from white and up again. -/
def pulsing (rainbow : Rainbow) : Color :=
  { hue := Single.remainderUp (Single.floor rainbow.time * 0.1) 1
    saturation := 1
    lightness := 0.5 + (rainbow.tick - 0.5).abs
    alpha := 1 : Tint }.color

def isSwapDue (rainbow : Rainbow) : Bool :=
  rainbow.lastSwap.all fun last => 1 < rainbow.time - last

/-- The tint to go to, drawn now if there is none. -/
def targetOrRandom (rainbow : Rainbow) (source : ρ) : Tint × ρ :=
  match rainbow.target with
  | some tint => (tint, source)
  | none => Tint.random source

/-- Goes on to the next random tint if that is due. -/
def swapTarget (rainbow : Rainbow) (source : ρ) : Rainbow × ρ :=
  let (target, source) := rainbow.targetOrRandom source
  if rainbow.isSwapDue then
    let (next, source) := Tint.random source
    ({ rainbow with origin := target, target := some next, lastSwap := some rainbow.time }, source)
  else ({ rainbow with target := some target }, source)

/-- The color on the way from one random tint to the next. -/
def wandering (rainbow : Rainbow) : Color :=
  (rainbow.origin.towards (rainbow.target.getD rainbow.origin) rainbow.tick).color

/-- Lets time pass, at a speed in percent. -/
def pass (rainbow : Rainbow) (seconds : Float32) (speed : UInt32) : Rainbow :=
  { rainbow with time := rainbow.time + seconds * speed.toFloat32 / 100 }

/-- The color of a mode, if it has one. -/
def shade? (rainbow : Rainbow) : RainbowMode → Option Color
  | .off => none
  | .rainbow => some rainbow.cycling
  | .pulse => some rainbow.pulsing
  | .darkness => some Color.black
  | .random => some rainbow.wandering

/-- Takes the color of a mode, which is kept until the next one. -/
def take (rainbow : Rainbow) (mode : RainbowMode) : Option Color × Rainbow :=
  match rainbow.shade? mode with
  | none => (none, rainbow)
  | some color => (some color, { rainbow with color := some color })

/-- Only the random mode draws anything. -/
def prepare (rainbow : Rainbow) (mode : RainbowMode) (source : ρ) : Rainbow × ρ :=
  if mode = .random then rainbow.swapTarget source else (rainbow, source)

/-- One frame, and the color that it has. Time stands still while the effect is off. -/
def frame (rainbow : Rainbow) (settings : RainbowSettings) (seconds : Float32) (source : ρ) :
    Option Color × Rainbow × ρ :=
  if settings.isEnabled then
    let (rainbow, source) := (rainbow.pass seconds settings.speed).prepare settings.mode source
    let (color, rainbow) := rainbow.take settings.mode
    (color, rainbow, source)
  else (none, { rainbow with color := none }, source)

/-- What is left of a frame. -/
def advance (rainbow : Rainbow) (settings : RainbowSettings) (seconds : Float32) (source : ρ) :
    Rainbow × ρ :=
  (rainbow.frame settings seconds source).2

end Rainbow

namespace Game

/-- The color that the effect gives a player. -/
def effectOn (game : Game) (settings : RainbowSettings) (color : Option Color) (id : Nat)
    (slot : Slot) : Option Color :=
  if slot.character.active && settings.appliesTo (game.localId == some id) then color else none

/-- Colors every player anew; an effect that does not apply any more goes away. -/
def applyEffect (game : Game) (settings : RainbowSettings) (color : Option Color) : Game :=
  { game with
    slots := game.slots.mapIdx fun id slot =>
      { slot with
        client := { slot.client with effectColor := game.effectOn settings color id slot } } }

end Game

/-- One frame of a game with the effect. -/
def Rainbow.frameIn {ρ : Type} [RandomSource ρ] (rainbow : Rainbow) (game : Game)
    (settings : RainbowSettings) (seconds : Float32) (source : ρ) : Rainbow × Game × ρ :=
  let (color, rainbow, source) := rainbow.frame settings seconds source
  (rainbow, game.applyEffect settings color, source)

end Overhead
