import Overhead.Color
import Overhead.Canvas

/-!
# What a plate shows

Everything that is drawn for one player in one frame, already decided: which pieces are shown, their
texts, sizes and colors.
-/

namespace Overhead

/-- How the hook of a player compares with the hook of the player one looks through. -/
inductive HookStrength where
  | weak
  | unknown
  | strong
deriving DecidableEq

namespace HookStrength

def color : HookStrength → Color
  | .strong => Color.ofPacked 6401973
  | .unknown => Color.white
  | .weak => Color.ofPacked 41131

def sprite : HookStrength → Sprite
  | .strong => .hookStrong
  | .unknown => .hookIcon
  | .weak => .hookWeak

end HookStrength

/-- Sizes in the settings are percentages on top of a smallest font. -/
def fontSizeOfPercent (percent : UInt32) : Float32 :=
  18 + 20 * percent.toFloat32 / 100

structure PlateData where
  inGame : Bool := true
  position : Point := Point.zero
  color : Color := Color.white
  alpha : Float32 := 1
  showName : Bool := false
  name : String := ""
  fontSize : Float32 := fontSizeOfPercent 50
  showFriendMark : Bool := false
  showClientId : Bool := false
  clientId : Nat := 0
  fontSizeClientId : Float32 := fontSizeOfPercent 50
  clientIdNewLine : Bool := false
  showClan : Bool := false
  clan : String := ""
  fontSizeClan : Float32 := fontSizeOfPercent 30
  showDirection : Bool := false
  dirLeft : Bool := false
  dirJump : Bool := false
  dirRight : Bool := false
  fontSizeDirection : Float32 := fontSizeOfPercent 50
  showHook : Bool := false
  hook : HookStrength := .unknown
  showHookId : Bool := false
  hookId : Int32 := 0
  fontSizeHook : Float32 := fontSizeOfPercent 30
deriving DecidableEq

end Overhead
