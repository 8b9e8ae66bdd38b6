import Overhead.Data.Codec

/-!
# Settings

What a player can choose about plates and about the color effect, the names used outside of a game,
and how all of it is written as data.
-/

namespace Overhead

inductive ShowDirection where
  | off
  | others
  | everyone
  | onlySelf
deriving DecidableEq

namespace ShowDirection

def all : List ShowDirection :=
  [.off, .others, .everyone, .onlySelf]

def label : ShowDirection → String
  | .off => "Off"
  | .others => "Others"
  | .everyone => "Everyone"
  | .onlySelf => "Only self"

def shows (mode : ShowDirection) (isLocal : Bool) : Bool :=
  match mode with
  | .off => false
  | .others => !isLocal
  | .everyone => true
  | .onlySelf => isLocal

def codec : Codec ShowDirection :=
  .choice [("off", .off), ("others", .others), ("everyone", .everyone), ("only_self", .onlySelf)]

end ShowDirection

/-- What is shown of the strength of a hook. -/
inductive HookMode where
  | off
  | icon
  | iconAndId
deriving DecidableEq

namespace HookMode

def all : List HookMode :=
  [.off, .icon, .iconAndId]

def label : HookMode → String
  | .off => "Off"
  | .icon => "Icon"
  | .iconAndId => "Icon and id"

def codec : Codec HookMode :=
  .choice [("off", .off), ("icon", .icon), ("icon_and_id", .iconAndId)]

end HookMode

/-- How plates look. Sizes are in percent. -/
structure PlateSettings where
  «show» : Bool := true
  showOwn : Bool := false
  size : UInt32 := 50
  showClan : Bool := false
  clanSize : UInt32 := 30
  showIds : Bool := false
  idsNewLine : Bool := false
  idsSize : UInt32 := 50
  teamColors : Bool := true
  friendMark : Bool := false
  hook : HookMode := .off
  hookSize : UInt32 := 30
  /-- Do not fade plates that are far from the target. -/
  alwaysShow : Bool := true
  /-- Opacity of players of other teams, in percent. -/
  othersAlpha : UInt32 := 40
  direction : ShowDirection := .others
  directionSize : UInt32 := 50
  showSpectatorBodies : Bool := true
  debug : Bool := false
deriving DecidableEq

namespace PlateSettings

/-- Nothing is drawn at all, neither plates nor arrows. -/
def isDisabled (settings : PlateSettings) : Bool :=
  !settings.show && settings.direction == .off

def schema : Schema PlateSettings where
  name := "NamePlateSettings"
  default := {}
  fields :=
    [ Codec.bool.field "show" (·.show) fun v r => { r with «show» := v },
      Codec.bool.field "show_own" (·.showOwn) fun v r => { r with showOwn := v },
      Codec.word.field "size" (·.size) fun v r => { r with size := v },
      Codec.bool.field "show_clan" (·.showClan) fun v r => { r with showClan := v },
      Codec.word.field "clan_size" (·.clanSize) fun v r => { r with clanSize := v },
      Codec.bool.field "show_ids" (·.showIds) fun v r => { r with showIds := v },
      Codec.bool.field "ids_new_line" (·.idsNewLine) fun v r => { r with idsNewLine := v },
      Codec.word.field "ids_size" (·.idsSize) fun v r => { r with idsSize := v },
      Codec.bool.field "team_colors" (·.teamColors) fun v r => { r with teamColors := v },
      Codec.bool.field "friend_mark" (·.friendMark) fun v r => { r with friendMark := v },
      HookMode.codec.field "hook_strong_weak" (·.hook) fun v r => { r with hook := v },
      Codec.word.field "hook_strong_weak_size" (·.hookSize) fun v r => { r with hookSize := v },
      Codec.bool.field "always_show" (·.alwaysShow) fun v r => { r with alwaysShow := v },
      Codec.word.field "show_others_alpha" (·.othersAlpha) fun v r => { r with othersAlpha := v },
      ShowDirection.codec.field "show_direction" (·.direction) fun v r => { r with direction := v },
      Codec.word.field "direction_size" (·.directionSize) fun v r => { r with directionSize := v },
      Codec.bool.field "show_spec_char_name_plates" (·.showSpectatorBodies) fun v r =>
        { r with showSpectatorBodies := v },
      Codec.bool.field "debug" (·.debug) fun v r => { r with debug := v } ]

end PlateSettings

/-- The names of the player and of the dummy, used when there is no game. -/
structure Profile where
  playerName : String := ""
  playerClan : String := ""
  dummyName : String := ""
  dummyClan : String := ""
  /-- Zero while the player is controlled, one for the dummy. -/
  activeDummy : Nat := 0
deriving DecidableEq

namespace Profile

def schema : Schema Profile where
  name := "PlayerProfile"
  default := {}
  fields :=
    [ Codec.text.field "player_name" (·.playerName) fun v r => { r with playerName := v },
      Codec.text.field "player_clan" (·.playerClan) fun v r => { r with playerClan := v },
      Codec.text.field "dummy_name" (·.dummyName) fun v r => { r with dummyName := v },
      Codec.text.field "dummy_clan" (·.dummyClan) fun v r => { r with dummyClan := v },
      Codec.size.field "active_dummy" (·.activeDummy) fun v r => { r with activeDummy := v } ]

end Profile

inductive RainbowMode where
  | off
  | rainbow
  | pulse
  | darkness
  | random
deriving DecidableEq

namespace RainbowMode

def all : List RainbowMode :=
  [.off, .rainbow, .pulse, .darkness, .random]

def label : RainbowMode → String
  | .off => "Off"
  | .rainbow => "Rainbow"
  | .pulse => "Pulse"
  | .darkness => "Darkness"
  | .random => "Random"

def codec : Codec RainbowMode :=
  .choice
    [ ("off", .off), ("rainbow", .rainbow), ("pulse", .pulse), ("darkness", .darkness),
      ("random", .random) ]

end RainbowMode

structure RainbowSettings where
  mode : RainbowMode := .off
  /-- In percent. -/
  speed : UInt32 := 100
  /-- Whether the effect colors the player, and the others. -/
  self : Bool := false
  others : Bool := false
deriving DecidableEq

namespace RainbowSettings

def isEnabled (settings : RainbowSettings) : Bool :=
  settings.mode != .off && (settings.self || settings.others)

def appliesTo (settings : RainbowSettings) (isLocal : Bool) : Bool :=
  if isLocal then settings.self else settings.others

def schema : Schema RainbowSettings where
  name := "RainbowSettings"
  default := {}
  fields :=
    [ RainbowMode.codec.field "mode" (·.mode) fun v r => { r with mode := v },
      Codec.word.field "speed" (·.speed) fun v r => { r with speed := v },
      Codec.bool.field "local" (·.self) fun v r => { r with self := v },
      Codec.bool.field "others" (·.others) fun v r => { r with others := v } ]

end RainbowSettings

/-- The simulated game: how many players, which random numbers, and whether it is a recording that
is played back. -/
structure DemoConfig where
  players : Nat := 12
  seed : Option Nat := none
  playback : Bool := false
deriving DecidableEq

namespace DemoConfig

def schema : Schema DemoConfig where
  name := "DemoConfig"
  default := {}
  fields :=
    [ Codec.size.field "players" (·.players) fun v r => { r with players := v },
      Codec.longWord.optional.field "seed" (·.seed) fun v r => { r with seed := v },
      Codec.bool.field "demo_playback" (·.playback) fun v r => { r with playback := v } ]

end DemoConfig
end Overhead
