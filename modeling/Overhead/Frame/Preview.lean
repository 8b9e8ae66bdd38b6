import Overhead.Frame.Data
import Overhead.Plate.Basic

/-!
# The preview of a plate

The settings show what a plate would look like, for the player and for the dummy. A preview is a
plate of its own that is given up as soon as it is drawn.
-/

namespace Overhead
namespace Preview

/-- The team that previews are colored for. -/
def team : UInt32 :=
  13

def orFallback (text fallback : String) : String :=
  if text.isEmpty then fallback else text

def name (profile : Profile) : Seat → String
  | .main => orFallback profile.playerName "Player123"
  | .dummy => orFallback profile.dummyName "Player123"

def clan (profile : Profile) : Seat → String
  | .main => orFallback profile.playerClan "Clan456"
  | .dummy => orFallback profile.dummyClan "Clan456"

/-- The hook of the active one of the two counts as the own one. Of the two, the dummy has the
stronger hook. -/
def hook (settings : PlateSettings) (profile : Profile) (dummy : Nat) : HookView :=
  let showRank := settings.hook == .iconAndId
  let rank := Int32.ofNat (dummy + 1)
  if dummy = profile.activeDummy then
    { strength := .unknown, rank := rank, showIcon := showRank, showRank := showRank }
  else
    { strength := if dummy = 1 then .strong else .weak
      rank := rank
      showIcon := settings.hook != .off
      showRank := showRank }

/-- What the preview for the player with number zero shows, or for the dummy with number one. Their
numbers have no fixed width, so `dummy + 1` is always the next one, also after the largest number
that fits into a machine word. -/
def data (settings : PlateSettings) (profile : Profile) (position : Point) (dummy : Nat) :
    PlateData :=
  let view := hook settings profile dummy
  { settings.plateData with
    inGame := false
    position := position
    color := if settings.teamColors then Color.ofTeam team teamLightness else Color.defaultText
    showName := settings.show
    name := name profile (.numbered dummy)
    showFriendMark := settings.show && settings.friendMark
    showClientId := settings.show && settings.showsId
    clientId := dummy + 1
    showClan := settings.show && settings.showClan
    clan := clan profile (.numbered dummy)
    showDirection := settings.direction != .off
    dirLeft := true
    dirJump := true
    dirRight := true
    showHook := view.showIcon
    hook := view.strength
    showHookId := view.showRank
    hookId := view.rank }

/-- Draws a preview and gives its texts back. -/
def draw {σ : Type} [Canvas σ] (settings : PlateSettings) (profile : Profile) (position : Point)
    (dummy : Nat) (canvas : σ) : σ :=
  let (plate, canvas) := ({} : Plate).render (data settings profile position dummy) canvas
  (plate.reset canvas).2

end Preview
end Overhead
