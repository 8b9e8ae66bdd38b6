import Overhead.Layout
import Overhead.Plate.Data
import Overhead.Text.Cached
import Overhead.Text.IdText

/-!
# Parts of a plate

A plate is put together from parts of a few kinds. A part is kept from frame to frame: an update
takes over what the data says about it and leaves the rest as it was, so a hidden part keeps its
last size and its text.
-/

namespace Overhead

/-- What a player presses: a step to a side, or a jump. -/
inductive Heading where
  | left
  | jump
  | right
deriving DecidableEq

namespace Heading

/-- How far the arrow, which points right, is turned. -/
def rotation : Heading → Float32
  | .left => Single.halfTurn
  | .jump => -Single.halfTurn / 2
  | .right => 0

def shownIn (heading : Heading) (data : PlateData) : Bool :=
  match heading with
  | .left => data.dirLeft
  | .jump => data.dirJump
  | .right => data.dirRight

/-- How far an arrow of the given size stands below its place, or above it. -/
def drop (heading : Heading) (size : Float32) : Float32 :=
  match heading with
  | .jump => -size / 2
  | .left | .right => size / 2

end Heading

/-- The kind of a part, and what it keeps. -/
inductive PartContent where
  | arrow (heading : Heading)
  | clientId (ownLine : Bool) (text : CachedText)
  | friendMark
  | name (text : CachedText)
  | clan (text : CachedText)
  | hookIcon (sprite : Sprite)
  | hookId (text : CachedText)
  | lineBreak
deriving DecidableEq

namespace PartContent

def text? : PartContent → Option CachedText
  | .clientId _ text | .name text | .clan text | .hookId text => some text
  | .arrow _ | .friendMark | .hookIcon _ | .lineBreak => none

def withText (text : CachedText) : PartContent → PartContent
  | .clientId ownLine _ => .clientId ownLine text
  | .name _ => .name text
  | .clan _ => .clan text
  | .hookId _ => .hookId text
  | .arrow heading => .arrow heading
  | .friendMark => .friendMark
  | .hookIcon sprite => .hookIcon sprite
  | .lineBreak => .lineBreak

end PartContent

structure Part where
  content : PartContent
  box : PartBox Float32 := PartBox.plain
  color : Color := Color.white
deriving DecidableEq

namespace Part

variable {σ : Type} [Canvas σ]

/-- An arrow keeps its room while it is hidden. -/
def arrow (heading : Heading) : Part :=
  { content := .arrow heading, box := { PartBox.plain with reserved := true } }

def clientId (ownLine : Bool) : Part :=
  { content := .clientId ownLine {} }

def friendMark : Part :=
  { content := .friendMark }

def name : Part :=
  { content := .name {} }

def clan : Part :=
  { content := .clan {} }

def hookIcon : Part :=
  { content := .hookIcon .hookIcon }

def hookId : Part :=
  { content := .hookId {} }

def lineBreak : Part :=
  { content := .lineBreak, box := PartBox.newLine }

def setVisible (part : Part) (visible : Bool) : Part :=
  { part with box := { part.box with visible := visible } }

def setSize (part : Part) (size : Point) : Part :=
  { part with box := { part.box with size := size } }

/-- A part takes the size of its text, and is hidden if there is none. -/
def fit (part : Part) : Option Point → Part
  | some size => part.setSize size
  | none => part.setVisible false

/-- Shows a text in a part that has room for one. -/
def showText (part : Part) (cached : CachedText) (text : String) (fontSize : Float32)
    (color : Color) (inGame : Bool) (canvas : σ) : Part × σ :=
  let (size, cached, canvas) := cached.update text fontSize inGame canvas
  ({ part with content := part.content.withText cached, color := color }.fit size, canvas)

/-- The line of an id: a colon follows it where a name does. -/
def clientIdText (id : Nat) (ownLine : Bool) : String :=
  IdText.format id (if ownLine then "" else ":")

def updateArrow (part : Part) (heading : Heading) (data : PlateData) : Part :=
  if data.showDirection then
    let size := data.fontSizeDirection
    { part with
      box := { part.box with
        size := Vec.square size
        visible := heading.shownIn data
        offset := { part.box.offset with y := heading.drop size } } }
  else (part.setSize Point.zero).setVisible false

def update (part : Part) (data : PlateData) (canvas : σ) : Part × σ :=
  match part.content with
  | .lineBreak => (part, canvas)
  | .arrow heading => (part.updateArrow heading data, canvas)
  | .clientId ownLine cached =>
      let visible := data.showClientId && data.clientIdNewLine == ownLine
      let part := part.setVisible visible
      if visible then
        part.showText cached (clientIdText data.clientId ownLine) data.fontSizeClientId data.color
          data.inGame canvas
      else (part, canvas)
  | .friendMark =>
      let part := part.setVisible data.showFriendMark
      if data.showFriendMark then
        ({ part.setSize (Vec.square data.fontSize) with color := Color.white.withAlpha data.alpha },
          canvas)
      else (part, canvas)
  | .name cached =>
      let part := part.setVisible data.showName
      if data.showName then
        part.showText cached data.name data.fontSize data.color data.inGame canvas
      else (part, canvas)
  | .clan cached =>
      let part := part.setVisible data.showClan
      if data.showClan then
        part.showText cached data.clan data.fontSizeClan data.color data.inGame canvas
      else (part, canvas)
  | .hookIcon _ =>
      let part := part.setVisible data.showHook
      if data.showHook then
        ({ part.setSize (Vec.square (data.fontSizeHook * 1.5)) with
            content := .hookIcon data.hook.sprite
            color := data.hook.color.withAlpha data.alpha },
          canvas)
      else (part, canvas)
  | .hookId cached =>
      let part := part.setVisible data.showHookId
      if data.showHookId then
        part.showText cached (IdText.format data.hookId.toInt "") data.fontSizeHook
          (data.hook.color.withAlpha data.alpha) data.inGame canvas
      else (part, canvas)

def draw (part : Part) (center : Point) (canvas : σ) : σ :=
  let size := part.box.size
  match part.content with
  | .lineBreak => canvas
  | .arrow heading => Canvas.drawSprite .arrow center size heading.rotation part.color canvas
  | .friendMark => Canvas.drawSprite .friendHeart center size 0 part.color canvas
  | .hookIcon sprite => Canvas.drawSprite sprite center size 0 part.color canvas
  | .clientId _ cached | .name cached | .clan cached | .hookId cached =>
      cached.draw center size part.color canvas

def reset (part : Part) (canvas : σ) : Part × σ :=
  match part.content.text? with
  | none => (part, canvas)
  | some cached =>
      let (cached, canvas) := cached.reset canvas
      ({ part with content := part.content.withText cached }, canvas)

end Part
end Overhead
