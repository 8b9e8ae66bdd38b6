import Overhead.Game.Viewpoint
import Overhead.Plate.Data
import Overhead.Settings.Basic

/-!
# What the plate of a player shows

Decides, from the game and the settings, everything about the plate of one player. A plate is drawn
at the player or at the body it left behind; the opacity is given and may be kept as it is.
-/

namespace Overhead

/-- The distance from the target at which plates have faded away. -/
def fadeDistance : Float32 :=
  200

/-- How light the colors of numbered teams are. -/
def teamLightness : Float32 :=
  0.75

/-- The sixteenth power, by squaring four times. -/
def sixteenthPower (x : Float32) : Float32 :=
  let x := x * x
  let x := x * x
  let x := x * x
  x * x

/-- How much is left of a plate at a distance from the target. -/
def fading (distance : Float32) : Float32 :=
  Single.clamp 0 1 (1 - sixteenthPower (distance / fadeDistance))

namespace PlateSettings

/-- Whether the name of a player is shown. Everything beside it needs the name. -/
def showsName (settings : PlateSettings) (isLocal : Bool) : Bool :=
  settings.show && (!isLocal || settings.showOwn)

def showsId (settings : PlateSettings) : Bool :=
  settings.debug || settings.showIds

def nameFontSize (settings : PlateSettings) : Float32 :=
  fontSizeOfPercent settings.size

/-- An id in the line of the name is as large as the name. -/
def idFontSize (settings : PlateSettings) : Float32 :=
  if settings.idsNewLine then fontSizeOfPercent settings.idsSize else settings.nameFontSize

def showsHookIcon (settings : PlateSettings) : Bool :=
  settings.debug || settings.hook != .off

def showsHookId (settings : PlateSettings) : Bool :=
  settings.debug || settings.hook == .iconAndId

/-- The part of a plate that only the settings decide. -/
def plateData (settings : PlateSettings) : PlateData :=
  { fontSize := settings.nameFontSize
    clientIdNewLine := settings.idsNewLine
    fontSizeClientId := settings.idFontSize
    fontSizeClan := fontSizeOfPercent settings.clanSize
    fontSizeHook := fontSizeOfPercent settings.hookSize
    fontSizeDirection := fontSizeOfPercent settings.directionSize }

end PlateSettings

/-- Which arrows are shown for keys. -/
structure Headings where
  left : Bool
  jump : Bool
  right : Bool
deriving DecidableEq

def Keys.headings (keys : Keys) : Headings :=
  { left := keys.direction == -1, jump := keys.jump, right := keys.direction == 1 }

/-- The keys that the movement of a character tells. -/
def Character.keys (character : Character) : Keys :=
  { direction := character.direction, jump := character.jumped &&& 1 != 0 }

structure HookView where
  strength : HookStrength
  rank : Int32
  showIcon : Bool
  showRank : Bool
deriving DecidableEq

namespace HookView

def unknown : HookView :=
  { strength := .unknown, rank := 0, showIcon := false, showRank := false }

/-- The own hook has no strength to show, only its rank. -/
def own (settings : PlateSettings) (rank : Int32) : HookView :=
  { strength := .unknown
    rank := rank
    showIcon := settings.showsHookId
    showRank := settings.showsHookId }

/-- A hook is strong against a player whose own rank is higher. -/
def against (settings : PlateSettings) (reference rank : Int32) : HookView :=
  { strength := if rank < reference then .strong else .weak
    rank := rank
    showIcon := settings.showsHookIcon
    showRank := settings.showsHookId }

end HookView

namespace Game

/-- The color that the team of a player gives its plate. -/
def teamColor (game : Game) (settings : PlateSettings) (client : Client) : Color :=
  if !settings.teamColors then Color.defaultText
  else if game.teamPlay then
    match client.side with
    | .red => .rgba 1 0.5 0.5 1
    | .blue => .rgba 0.7 0.7 1 1
    | .spectators => Color.defaultText
  else if client.team != 0 then Color.ofTeam client.team teamLightness
  else Color.defaultText

/-- The opacity of a plate at a position, from the one it would have next to the target. -/
def plateAlpha (game : Game) (settings : PlateSettings) (id : Nat) (position : Point)
    (alpha : Float32) : Except MissingSlot Float32 := do
  let target := game.targets.get game.activeSeat
  let alpha :=
    if settings.alwaysShow then alpha else alpha * fading (target.distance position)
  if ← game.isOtherTeam id then return alpha * (settings.othersAlpha.toFloat32 / 100)
  else return alpha

/-- The keys of a player. Those of the two local players are known at once, unless a recording is
played back; those of the others are read off their characters. -/
def keysOf (game : Game) (id : Nat) (slot : Slot) : Keys :=
  let seat := game.activeSeat
  if !game.isPlayback && game.localIds.get seat.partner == some id then
    game.inputs.get seat.partner
  else if !game.isPlayback && slot.isLocal then game.inputs.get seat
  else slot.character.keys

/-- The player that hooks are compared with, if its id names a slot. -/
def reference? (game : Game) : Option (Nat × Slot) :=
  game.referenceId.bind fun id => (game.slots[id]?).map fun slot => (id, slot)

def hookOf (game : Game) (settings : PlateSettings) (id : Nat) (slot : Slot) : HookView :=
  match game.reference? with
  | none => HookView.unknown
  | some (referenceId, reference) =>
      match reference.character.hookRank, slot.character.hookRank with
      | some selected, some rank =>
          if referenceId = id then HookView.own settings rank
          else HookView.against settings selected rank
      | _, _ => HookView.unknown

/-- Everything about the plate of a player but its arrows and its hook. -/
def namePart (game : Game) (settings : PlateSettings) (id : Nat) (slot : Slot) (position : Point)
    (alpha : Float32) : PlateData :=
  let shown := settings.showsName slot.isLocal
  { settings.plateData with
    position := position
    color := (game.teamColor settings slot.client).withAlpha alpha
    alpha := alpha
    showName := shown
    name := slot.client.name
    showFriendMark := shown && settings.friendMark && slot.client.friend
    showClientId := shown && settings.showsId
    clientId := id
    showClan := shown && settings.showClan
    clan := slot.client.clan }

/-- Arrows are only set where they are shown. -/
def arrowPart (game : Game) (settings : PlateSettings) (id : Nat) (slot : Slot)
    (data : PlateData) : PlateData :=
  if settings.direction.shows slot.isLocal then
    let headings := (game.keysOf id slot).headings
    { data with
      showDirection := true
      dirLeft := headings.left
      dirJump := headings.jump
      dirRight := headings.right }
  else data

def hookPart (game : Game) (settings : PlateSettings) (id : Nat) (slot : Slot)
    (data : PlateData) : PlateData :=
  let view := game.hookOf settings id slot
  { data with
    showHook := view.showIcon
    hook := view.strength
    showHookId := view.showRank
    hookId := view.rank }

/-- What the plate of a player shows at a position. A forced opacity neither fades with the distance
nor depends on teams. -/
def plateData (game : Game) (settings : PlateSettings) (id : Nat) (position : Point)
    (alpha : Float32) (force : Bool) : Except MissingSlot PlateData := do
  let slot ← game.slot id
  let alpha ← if force then pure alpha else game.plateAlpha settings id position alpha
  let data := game.namePart settings id slot position alpha
  return game.hookPart settings id slot (game.arrowPart settings id slot data)

end Game
end Overhead
