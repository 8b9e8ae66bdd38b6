import Overhead.Settings.Basic

/-!
# The controls of the settings menu

What can be changed in the menu, how it is labelled, and in which rows it stands.
-/

namespace Overhead

structure Choices where
  plates : PlateSettings := {}
  rainbow : RainbowSettings := {}
deriving DecidableEq

inductive Page where
  | plates
  | rainbow
deriving DecidableEq

namespace Page

def all : List Page :=
  [.plates, .rainbow]

def label : Page → String
  | .plates => "Name Plates"
  | .rainbow => "Rainbow"

end Page

inductive Toggle where
  | showPlates
  | showOwn
  | showClan
  | showIds
  | idsNewLine
  | teamColors
  | friendMark
  | alwaysShow
  | spectatorBodies
  | debug
  | rainbowSelf
  | rainbowOthers
deriving DecidableEq

namespace Toggle

def label : Toggle → String
  | .showPlates | .showOwn | .showClan | .showIds => "Show"
  | .idsNewLine => "On own line"
  | .teamColors => "Team colors"
  | .friendMark => "Friend mark"
  | .alwaysShow => "Always show"
  | .spectatorBodies => "Body name plates"
  | .debug => "Enabled"
  | .rainbowSelf => "Self"
  | .rainbowOthers => "Others"

/-- Ticks a box, or takes the tick away. -/
def flip (toggle : Toggle) (choices : Choices) : Choices :=
  let p := choices.plates
  let r := choices.rainbow
  match toggle with
  | .showPlates => { choices with plates := { p with «show» := !p.show } }
  | .showOwn => { choices with plates := { p with showOwn := !p.showOwn } }
  | .showClan => { choices with plates := { p with showClan := !p.showClan } }
  | .showIds => { choices with plates := { p with showIds := !p.showIds } }
  | .idsNewLine => { choices with plates := { p with idsNewLine := !p.idsNewLine } }
  | .teamColors => { choices with plates := { p with teamColors := !p.teamColors } }
  | .friendMark => { choices with plates := { p with friendMark := !p.friendMark } }
  | .alwaysShow => { choices with plates := { p with alwaysShow := !p.alwaysShow } }
  | .spectatorBodies =>
      { choices with plates := { p with showSpectatorBodies := !p.showSpectatorBodies } }
  | .debug => { choices with plates := { p with debug := !p.debug } }
  | .rainbowSelf => { choices with rainbow := { r with self := !r.self } }
  | .rainbowOthers => { choices with rainbow := { r with others := !r.others } }

end Toggle

inductive Chooser where
  | hook
  | direction
  | rainbowMode
deriving DecidableEq

namespace Chooser

def options : Chooser → List String
  | .hook => HookMode.all.map HookMode.label
  | .direction => ShowDirection.all.map ShowDirection.label
  | .rainbowMode => RainbowMode.all.map RainbowMode.label

def selected (chooser : Chooser) (choices : Choices) : String :=
  match chooser with
  | .hook => choices.plates.hook.label
  | .direction => choices.plates.direction.label
  | .rainbowMode => choices.rainbow.mode.label

/-- Takes the option with the given index. -/
def choose (chooser : Chooser) (index : Nat) (choices : Choices) : Choices :=
  let p := choices.plates
  let r := choices.rainbow
  match chooser with
  | .hook => { choices with plates := { p with hook := HookMode.all.getD index p.hook } }
  | .direction =>
      { choices with plates := { p with direction := ShowDirection.all.getD index p.direction } }
  | .rainbowMode => { choices with rainbow := { r with mode := RainbowMode.all.getD index r.mode } }

end Chooser

inductive Slider where
  | nameSize
  | clanSize
  | idSize
  | hookSize
  | directionSize
  | othersAlpha
  | speed
deriving DecidableEq

namespace Slider

def title : Slider → String
  | .nameSize => "Name size:"
  | .clanSize => "Clan size:"
  | .idSize => "Client id size:"
  | .hookSize => "Hook strength size:"
  | .directionSize => "Direction size:"
  | .othersAlpha => "Other teams alpha:"
  | .speed => "Speed:"

/-- A size is only offered while what it belongs to is shown. -/
def isOffered (slider : Slider) (choices : Choices) : Bool :=
  match slider with
  | .nameSize | .clanSize | .othersAlpha | .speed => true
  | .idSize => choices.plates.idsNewLine
  | .hookSize => choices.plates.hook != .off
  | .directionSize => choices.plates.direction != .off

def value (slider : Slider) (choices : Choices) : Nat :=
  let p := choices.plates
  match slider with
  | .nameSize => p.size.toNat
  | .clanSize => p.clanSize.toNat
  | .idSize => p.idsSize.toNat
  | .hookSize => p.hookSize.toNat
  | .directionSize => p.directionSize.toNat
  | .othersAlpha => p.othersAlpha.toNat
  | .speed => choices.rainbow.speed.toNat

def limit : Slider → Nat
  | .speed => 5000
  | .nameSize | .clanSize | .idSize | .hookSize | .directionSize | .othersAlpha => 100

def percent (slider : Slider) (choices : Choices) : Nat :=
  min (slider.value choices) slider.limit

def assign (slider : Slider) (percent : Nat) (choices : Choices) : Choices :=
  let p := choices.plates
  let value := UInt32.ofNat percent
  match slider with
  | .nameSize => { choices with plates := { p with size := value } }
  | .clanSize => { choices with plates := { p with clanSize := value } }
  | .idSize => { choices with plates := { p with idsSize := value } }
  | .hookSize => { choices with plates := { p with hookSize := value } }
  | .directionSize => { choices with plates := { p with directionSize := value } }
  | .othersAlpha => { choices with plates := { p with othersAlpha := value } }
  | .speed => { choices with rainbow := { choices.rainbow with speed := value } }

end Slider

inductive Row where
  | toggles (title : String) (toggles : List Toggle)
  | chooser (title : String) (chooser : Chooser)
  | slider (slider : Slider)

namespace Page

def rows : Page → List Row
  | .plates =>
      [ .toggles "Name plates:" [.showPlates],
        .toggles "Own name plate:" [.showOwn],
        .slider .nameSize,
        .toggles "Clan:" [.showClan],
        .slider .clanSize,
        .toggles "Client ids:" [.showIds, .idsNewLine],
        .slider .idSize,
        .toggles "Colors:" [.teamColors, .friendMark],
        .chooser "Hook strength:" .hook,
        .slider .hookSize,
        .chooser "Direction:" .direction,
        .slider .directionSize,
        .toggles "Fade:" [.alwaysShow],
        .slider .othersAlpha,
        .toggles "Spectators:" [.spectatorBodies],
        .toggles "Debug:" [.debug] ]
  | .rainbow =>
      [ .chooser "Mode:" .rainbowMode,
        .slider .speed,
        .toggles "Players:" [.rainbowSelf, .rainbowOthers] ]

end Page

/-- What a text of the menu acts as when it is clicked. -/
inductive Control where
  | tab (page : Page)
  | toggle (toggle : Toggle)
  | chooser (chooser : Chooser)
  | option (chooser : Chooser) (index : Nat)
  | number (slider : Slider)
  | defaults
  | resetTexts
deriving DecidableEq

structure Label where
  text : String
  control : Option Control := none
deriving DecidableEq

end Overhead
