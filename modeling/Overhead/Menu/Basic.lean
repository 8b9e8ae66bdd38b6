import Overhead.Frame.Preview
import Overhead.Menu.Control
import Overhead.Menu.Window
import Overhead.Paint.Painting

/-!
# The settings menu

A window with two pages over the game. It is gone through from top to bottom in every frame, and a
click acts where its text stands, so what stands below already shows the outcome. The list of a
chooser lies over the rows that follow it and closes with the next click that is not on the chooser.
-/

namespace Overhead

/-- The number of a slider while it is written by hand. -/
structure NumberEntry where
  slider : Slider
  /-- What is written, once the number has been shown without its sign. -/
  number : Option Nat := none
deriving DecidableEq

/-- What the pages keep from frame to frame. -/
structure MenuMemory where
  /-- The chooser whose list is open. -/
  opened : Option Chooser := none
  /-- The choosers whose lists were open before. A list is first seen in its second frame. -/
  unfolded : List Chooser := []
  /-- The pages that were shown before. The rows of a page are first seen in its second frame. -/
  visited : List Page := []
  /-- The number that is written by hand. -/
  entry : Option NumberEntry := none
deriving DecidableEq

/-- What is known while a page is gone through. -/
structure MenuPass where
  choices : Choices
  memory : MenuMemory
  /-- The text that is clicked in this frame. -/
  click : Option Label
  labels : List Label := []
  /-- The texts of open lists. -/
  options : List Label := []
  /-- The list that lies over the rows to come, and the number of its option over the next row. -/
  cover : Option (Chooser × Nat) := none
  /-- Whether the shaped texts are to be given back. -/
  resetTexts : Bool := false

namespace MenuPass

def isClicked (pass : MenuPass) (control : Control) : Bool :=
  pass.click.any (·.control == some control)

def add (pass : MenuPass) (labels : List Label) : MenuPass :=
  { pass with labels := pass.labels ++ labels }

def addText (pass : MenuPass) (text : String) : MenuPass :=
  pass.add [{ text := text }]

/-- The option that lies over the next row. -/
def covering (pass : MenuPass) : Option Control :=
  pass.cover.bind fun (chooser, index) =>
    if index < chooser.options.length then some (.option chooser index) else none

/-- Adds a text of the column that lists lie over. A click on it meets the list, if there is one. -/
def addCovered (pass : MenuPass) (text : String) (control : Control) : MenuPass :=
  pass.add [{ text := text, control := pass.covering.or (some control) }]

def endRow (pass : MenuPass) : MenuPass :=
  { pass with cover := pass.cover.map fun (chooser, index) => (chooser, index + 1) }

def addToggle (pass : MenuPass) (toggle : Toggle) : MenuPass :=
  let choices :=
    if pass.isClicked (.toggle toggle) then toggle.flip pass.choices else pass.choices
  { pass.addCovered toggle.label (.toggle toggle) with choices := choices }

/-- The choices after a click that may be on an option. -/
def chosen (pass : MenuPass) (chooser : Chooser) : Choices :=
  match pass.click.bind (·.control) with
  | some (.option other index) =>
      if other = chooser then chooser.choose index pass.choices else pass.choices
  | _ => pass.choices

/-- Shows the open list of a chooser and takes the option that is clicked. A click closes the list,
unless it is the one that opened it. -/
def addOptions (pass : MenuPass) (chooser : Chooser) (stays : Bool) : MenuPass :=
  let memory := pass.memory
  let labels := chooser.options.mapIdx fun index text =>
    { text := text, control := some (.option chooser index) : Label }
  { pass with
    choices := pass.chosen chooser
    options :=
      if memory.unfolded.contains chooser then pass.options ++ labels else pass.options
    cover := if stays then some (chooser, 0) else pass.cover
    memory :=
      { memory with
        opened := if stays then some chooser else none
        unfolded := chooser :: memory.unfolded.erase chooser } }

/-- A chooser that is clicked opens its list or closes it. -/
def addChooser (pass : MenuPass) (chooser : Chooser) : MenuPass :=
  let control := Control.chooser chooser
  let clicked := pass.isClicked control
  let wasOpen := pass.memory.opened == some chooser
  let pass := (pass.addCovered (chooser.selected pass.choices) control).endRow
  if wasOpen != clicked then pass.addOptions chooser (clicked || pass.click.isNone)
  else if wasOpen then { pass with memory := { pass.memory with opened := none } }
  else pass

/-- A number that is clicked is written by hand from the next frame on, up to a click elsewhere. It
has no sign then, and holds against all other changes. -/
def addNumber (pass : MenuPass) (slider : Slider) : MenuPass :=
  let control := Control.number slider
  let clicked := pass.isClicked control
  let shown := slider.percent pass.choices
  match pass.memory.entry.filter (·.slider = slider) with
  | none =>
      let entry := if clicked then some { slider := slider } else pass.memory.entry
      { pass.add [{ text := toString shown ++ "%", control := some control }] with
        memory := { pass.memory with entry := entry } }
  | some entry =>
      let number := entry.number.getD shown
      let stays := clicked || pass.click.isNone
      { pass.add [{ text := toString number, control := some control }] with
        choices := if number = shown then pass.choices else slider.assign number pass.choices
        memory :=
          { pass.memory with
            entry := if stays then some { slider := slider, number := some number } else none } }

/-- A slider that is not offered cannot be written. -/
def skipNumber (pass : MenuPass) (slider : Slider) : MenuPass :=
  { pass with
    memory := { pass.memory with entry := pass.memory.entry.filter (·.slider ≠ slider) } }

def addRow (pass : MenuPass) : Row → MenuPass
  | .toggles title toggles => (toggles.foldl addToggle (pass.addText title)).endRow
  | .chooser title chooser => (pass.addText title).addChooser chooser
  | .slider slider =>
      if slider.isOffered pass.choices then
        ((pass.addText slider.title).addNumber slider).endRow
      else pass.skipNumber slider

def addRows (pass : MenuPass) (page : Page) : MenuPass :=
  let visited := pass.memory.visited
  let after := page.rows.foldl addRow pass
  { after with
    labels := if visited.contains page then after.labels else pass.labels
    memory := { after.memory with visited := page :: visited.erase page } }

def addButtons (pass : MenuPass) : MenuPass :=
  let defaults := pass.isClicked .defaults
  { pass.add
      [ { text := "Defaults", control := some .defaults },
        { text := "Reset text cache", control := some .resetTexts } ] with
    choices := if defaults then { pass.choices with plates := {} } else pass.choices
    resetTexts := defaults || pass.isClicked .resetTexts }

end MenuPass

structure Menu where
  window : MenuWindow := {}
  page : Page := .plates
  memory : MenuMemory := {}
  /-- The texts of the last frame, in the order they were painted. -/
  labels : List Label := []

namespace Menu

/-- The text of the last frame that a click means: the one with the given number among those that
read alike. -/
def find (menu : Menu) (text : String) (number : Nat) : Option Label :=
  (menu.labels.filter (·.text == text))[number]?

/-- The area that previews are drawn in. -/
def previewSize : Point :=
  ⟨400, 130⟩

/-- The distance of previews from the lower edge of their area. -/
def previewMargin : Float32 :=
  8

/-- Where the preview of the player with number zero or of the dummy stands. -/
def previewPosition (dummy : Nat) : Point :=
  { x := previewSize.x * (1 + 2 * Float32.ofNat dummy) / 4
    y := previewSize.y + Plate.clearance - previewMargin }

def drawPreviews (settings : PlateSettings) (profile : Profile) (painting : Painting) : Painting :=
  [0, 1].foldl
    (fun painting dummy =>
      Preview.draw settings profile (previewPosition dummy) dummy painting)
    painting

def textOf : Shape → Option Label
  | .text text _ _ => some { text := text }
  | .circle _ _ _ _ | .rect _ _ _ _ | .path _ _ _ _ | .mesh _ _ _ => none

/-- Paints the previews on their own area and gives back their texts. -/
def previews (settings : PlateSettings) (profile : Profile) (pixelsPerPoint : Float32)
    (sprites : SpriteTable) (texts : TextStore) : List Label × TextStore :=
  let area : Area Float32 := ⟨0, 0, previewSize.x, previewSize.y⟩
  let painting :=
    drawPreviews settings profile (Painting.start area pixelsPerPoint sprites texts area)
  (painting.shapes.toList.filterMap textOf, painting.texts)

/-- The page to show, which a click on a tab may change. -/
def turnPage (menu : Menu) (click : Option Label) : Page :=
  match click.bind (·.control) with
  | some (.tab page) => page
  | _ => menu.page

/-- What the pages remember when one of them is shown. A number on the other page is left. -/
def memoryFor (menu : Menu) (page : Page) : MenuMemory :=
  if page = menu.page then menu.memory else { menu.memory with entry := none }

def tabs : List Label :=
  Page.all.map fun page => { text := page.label, control := some (.tab page) }

/-- Everything that surrounds the menu in a frame. -/
structure Surroundings where
  profile : Profile
  pixelsPerPoint : Float32
  sprites : SpriteTable

/-- Goes through the current page and shows the previews. -/
def passPage (page : Page) (around : Surroundings) (pass : MenuPass) (texts : TextStore) :
    MenuPass × TextStore :=
  let pass := pass.addRows page
  match page with
  | .plates =>
      let (labels, texts) :=
        previews pass.choices.plates around.profile around.pixelsPerPoint around.sprites texts
      ((pass.add labels).addButtons, texts)
  | .rainbow => (pass, texts)

structure Outcome where
  menu : Menu
  choices : Choices
  texts : TextStore
  resetTexts : Bool

/-- Shows the open menu, of which only the window is seen if it is new. -/
def showOpen (menu : Menu) (isNew : Bool) (around : Surroundings) (choices : Choices)
    (click : Option Label) (texts : TextStore) : Outcome :=
  let page := menu.turnPage click
  let start : MenuPass :=
    { choices := choices, memory := menu.memoryFor page, click := click, labels := tabs }
  let (pass, texts) := passPage page around start texts
  let labels := pass.labels ++ { text := "Name Plates" } :: pass.options
  { menu :=
      { menu with page := page, memory := pass.memory, labels := if isNew then [] else labels }
    choices := pass.choices
    texts := texts
    resetTexts := pass.resetTexts }

/-- A frame of the menu. Its key opens or closes it before it is shown. -/
def frame (menu : Menu) (around : Surroundings) (choices : Choices) (keyPressed : Bool)
    (click : Option Label) (texts : TextStore) : Outcome :=
  let isNew := !menu.window.wasShown
  let menu := { menu with window := menu.window.next keyPressed }
  if menu.window.isOpen then menu.showOpen isNew around choices click texts
  else
    { menu := { menu with labels := [], memory := { menu.memory with entry := none } }
      choices := choices
      texts := texts
      resetTexts := false }

/-- The texts that the menu shows, without repetitions and sorted. -/
def shownTexts (menu : Menu) : List String :=
  ((menu.labels.map (·.text)).mergeSort (fun a b => decide (a ≤ b))).eraseReps

end Menu
end Overhead
