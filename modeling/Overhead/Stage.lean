import Overhead.Demo
import Overhead.Geometry.Interface
import Overhead.Paint.World
import Overhead.Rainbow
import Overhead.Random.ChaCha

/-!
# The stage

The simulated game in a window: keys move the player, the wheel zooms, the camera follows, and the
cursor is the target that plates fade away from.
-/

namespace Overhead

inductive Key where
  | a
  | d
  | left
  | right
  | space
  | w
  | tab
  | f1
  | escape
  | q
deriving DecidableEq

/-- The keys that are held, and those that went down in this frame. -/
structure Keyboard where
  held : List Key := []
  pressed : List Key := []
deriving DecidableEq

namespace Keyboard

/-- Presses a key. A key that is held already does not go down again. -/
def press (keyboard : Keyboard) (key : Key) : Keyboard :=
  if keyboard.held.contains key then keyboard
  else { held := key :: keyboard.held, pressed := key :: keyboard.pressed }

def release (keyboard : Keyboard) (key : Key) : Keyboard :=
  { keyboard with held := keyboard.held.erase key }

def next (keyboard : Keyboard) (presses releases : List Key) : Keyboard :=
  releases.foldl release (presses.foldl press { keyboard with pressed := [] })

def isHeld (keyboard : Keyboard) (key : Key) : Bool :=
  keyboard.held.contains key

def isPressed (keyboard : Keyboard) (key : Key) : Bool :=
  keyboard.pressed.contains key

/-- What the held keys make the player do. Opposite directions cancel out. -/
def keys (keyboard : Keyboard) : Keys :=
  let left : Int32 := if keyboard.isHeld .a || keyboard.isHeld .left then 1 else 0
  let right : Int32 := if keyboard.isHeld .d || keyboard.isHeld .right then 1 else 0
  { direction := right - left, jump := keyboard.isHeld .space || keyboard.isHeld .w }

end Keyboard

/-- A turn of the wheel, in lines or in pixels. -/
inductive Wheel where
  | lines (amount : Float32)
  | pixels (amount : Float32)
deriving DecidableEq

/-- The steps that a turn of the wheel zooms by. -/
def Wheel.steps : Wheel → Float32
  | .lines amount => amount
  | .pixels amount => amount / 40

/-- What reaches the stage before a frame. -/
structure StageInput where
  /-- The time since the last frame, in microseconds. -/
  elapsed : Nat
  presses : List Key := []
  releases : List Key := []
  wheel : List Wheel := []

structure Stage where
  demo : Demo ChaCha
  /-- Where random colors come from. -/
  tints : ChaCha
  game : Game := {}
  camera : Camera Float32 := Camera.initial
  rainbow : Rainbow := {}
  rainbowSettings : RainbowSettings := {}
  keyboard : Keyboard := {}
  window : Point
  cursor : Option Point := none
  /-- Whether the players have joined. -/
  started : Bool := false

namespace Stage

/-- A stage whose random numbers come from a seed. -/
def new (config : DemoConfig) (seed : UInt64) (window : Point) : Stage where
  demo := Demo.new config (ChaCha.ofSeed seed)
  tints := ChaCha.ofSeed seed
  window := window

/-- A time in seconds, whole seconds and the rest apart. -/
def seconds (microseconds : Nat) : Float32 :=
  Float32.ofNat (microseconds / Nat.pow 10 6) +
    Float32.ofNat (microseconds % Nat.pow 10 6 * 1000) / 1000000000

def viewport (stage : Stage) : Area Float32 :=
  ⟨0, 0, stage.window.x, stage.window.y⟩

def start (stage : Stage) : Stage :=
  if stage.started then stage
  else
    let (demo, game) := stage.demo.populate
    { stage with demo := demo, game := game, started := true }

/-- Plays the game for the time of a frame. -/
def play (stage : Stage) (elapsed : Float32) : Stage :=
  let game :=
    if stage.keyboard.isPressed .tab then stage.demo.swapDummy stage.game else stage.game
  let (demo, game) := stage.demo.step game elapsed stage.keyboard.keys
  { stage with demo := demo, game := game }

def zoom (stage : Stage) (wheel : List Wheel) : Stage :=
  { stage with camera := wheel.foldl (fun camera turn => camera.zoomBy turn.steps) stage.camera }

/-- How far the camera looks above the player. -/
def lookUp : Point :=
  ⟨0, 100⟩

/-- Moves the camera towards the player that is controlled. -/
def follow (stage : Stage) (elapsed : Float32) : Except MissingSlot Stage :=
  match stage.game.localId with
  | none => return stage
  | some id => do
      let position := (← stage.game.slot id).client.position
      let part := Single.smaller (elapsed * 8) 1
      let center := Point.towards stage.camera.center (position - lookUp) part
      return { stage with camera := { stage.camera with center := center } }

/-- The point of the world under a point of the window. -/
def pointAt (stage : Stage) (cursor : Point) : Point :=
  let size := stage.window
  let screen := stage.camera.screen (size.x / size.y)
  { x := screen.left + cursor.x / size.x * screen.width
    y := screen.top + cursor.y / size.y * screen.height }

/-- The cursor is the target of the player that is controlled. -/
def aim (stage : Stage) : Stage :=
  match stage.cursor with
  | none => stage
  | some cursor =>
      let game := stage.game
      let targets := game.targets.set (stage.pointAt cursor) game.activeSeat
      { stage with game := { game with targets := targets } }

def colorPlayers (stage : Stage) (elapsed : Float32) : Stage :=
  let (rainbow, game, tints) :=
    stage.rainbow.frameIn stage.game stage.rainbowSettings elapsed stage.tints
  { stage with rainbow := rainbow, game := game, tints := tints }

def shapes (stage : Stage) : List Shape :=
  (World.View.ofCamera stage.camera stage.viewport).shapes stage.game

/-- Takes over what happened since the last frame. -/
def receive (stage : Stage) (input : StageInput) : Stage :=
  { stage with keyboard := stage.keyboard.next input.presses input.releases }

def frame (stage : Stage) (input : StageInput) : Except MissingSlot Stage := do
  let elapsed := seconds input.elapsed
  let stage := ((stage.receive input).start.play elapsed).zoom input.wheel
  return (← stage.follow elapsed).aim.colorPlayers elapsed

end Stage
end Overhead
