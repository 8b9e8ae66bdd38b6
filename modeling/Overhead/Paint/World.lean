import Overhead.Game.Basic
import Overhead.Geometry.Interface
import Overhead.Paint.Shape

/-!
# The world behind the plates

The ground, the bodies of the players and the bodies that were left behind.
-/

namespace Overhead
namespace World

def ground : Float32 :=
  0

def radius : Float32 :=
  28

def groundColor : Pixel :=
  ⟨74, 64, 58, 255⟩

structure View where
  screen : Area Float32
  viewport : Area Float32

namespace View

def scale (view : View) : Float32 :=
  view.viewport.height / view.screen.height

def toPoints (view : View) (p : Point) : Point :=
  view.screen.toViewportByHeight view.viewport p

/-- The ground fills the viewport below its edge. -/
def groundShape (view : View) : Shape :=
  let edge := view.toPoints ⟨view.screen.left, ground⟩
  .rect ⟨view.viewport.left, edge.y⟩ ⟨view.viewport.right, view.viewport.bottom⟩ groundColor
    Stroke.none

def leftBody (view : View) (client : Client) (position : Point) : Shape :=
  .disc (view.toPoints position) (radius * view.scale)
    ((Pixel.ofColor client.renderColor).dim 0.4)

/-- A body with eyes that look where it goes. -/
def body (view : View) (client : Client) (character : Character) : List Shape :=
  let center := view.toPoints client.position
  let look := Float32.ofInt character.direction.toInt * radius * 0.3 * view.scale
  let eye (side : Float32) : Shape :=
    .disc (center + ⟨look + side * radius * view.scale, -radius * 0.2 * view.scale⟩)
      (radius * 0.12 * view.scale) Pixel.black
  [ .circle center (radius * view.scale) (Pixel.ofColor client.renderColor)
      { width := 2, color := Pixel.black },
    eye (-0.25),
    eye 0.25 ]

def slotShapes (view : View) (slot : Slot) : List Shape :=
  if slot.info.isSome then
    (slot.client.spectatorBody.map (view.leftBody slot.client)).toList ++
      if slot.character.active then view.body slot.client slot.character else []
  else []

def shapes (view : View) (game : Game) : List Shape :=
  view.groundShape :: game.slots.toList.flatMap view.slotShapes

end View

def View.ofCamera (camera : Camera Float32) (viewport : Area Float32) : View :=
  { screen := camera.screen viewport.aspect, viewport := viewport }

end World
end Overhead
