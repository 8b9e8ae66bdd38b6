import Overhead.Frame.Overlay
import Overhead.Menu.Basic
import Overhead.Stage

/-!
# The application

The stage, the plates over it and the settings menu over both. The plates are drawn with the
settings a frame starts with; what the menu changes shows in the next one.
-/

namespace Overhead

/-- What reaches the application before a frame. -/
structure AppInput extends StageInput where
  /-- How often the window was resized. -/
  resized : Nat := 0
  /-- How often somebody outside asked for new texts. -/
  requested : Nat := 0
  /-- A click on a text of the menu: the text, and its number among those that read alike. -/
  click : Option (String × Nat) := none

structure App where
  stage : Stage
  settings : PlateSettings := {}
  profile : Profile := {}
  pixelsPerPoint : Float32 := 1
  spriteDirectory : Option String := none
  overlay : Overlay := {}
  texts : TextStore := {}
  menu : Menu := {}
  /-- How often the menu asked for new texts in the last frame. -/
  pendingRequests : Nat := 0

structure AppFrame where
  app : App
  /-- The world and the plates over it. -/
  shapes : List Shape
  /-- Whether the text that was clicked is there. -/
  clicked : Bool

namespace App

def sprites (app : App) : SpriteTable :=
  SpriteTable.load app.spriteDirectory

/-- The canvas for the plates of a frame. -/
def canvas (app : App) : Painting :=
  let viewport := app.stage.viewport
  Painting.start viewport app.pixelsPerPoint app.sprites app.texts
    (app.stage.camera.screen viewport.aspect)

def drawPlates (app : App) (input : AppInput) : Except MissingSlot (App × List Shape) := do
  let events : FrameEvents :=
    { scale := app.pixelsPerPoint
      resized := input.resized
      requested := input.requested + app.pendingRequests }
  let (_, overlay, painting) ←
    app.overlay.frame events app.stage.game app.settings app.canvas
  return ({ app with overlay := overlay, texts := painting.texts }, painting.shapes.toList)

def isMenuKeyPressed (app : App) : Bool :=
  app.stage.keyboard.isPressed .f1 || app.stage.keyboard.isPressed .escape

def showMenu (app : App) (click : Option Label) : App :=
  let around : Menu.Surroundings :=
    { profile := app.profile, pixelsPerPoint := app.pixelsPerPoint, sprites := app.sprites }
  let choices : Choices := { plates := app.settings, rainbow := app.stage.rainbowSettings }
  let outcome := app.menu.frame around choices app.isMenuKeyPressed click app.texts
  { app with
    menu := outcome.menu
    texts := outcome.texts
    settings := outcome.choices.plates
    stage := { app.stage with rainbowSettings := outcome.choices.rainbow }
    pendingRequests := outcome.resetTexts.toNat }

def frame (app : App) (input : AppInput) : Except MissingSlot AppFrame := do
  let click := input.click.bind fun (text, number) => app.menu.find text number
  let app := { app with stage := ← app.stage.frame input.toStageInput }
  let (app, plates) ← app.drawPlates input
  return {
    app := app.showMenu click
    shapes := app.stage.shapes ++ plates
    clicked := click.isSome }

end App
end Overhead
