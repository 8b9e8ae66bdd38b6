import Overhead.Frame.Preview
import Overhead.Proofs.Frame.Consistency

/-!
# Outlines of plates

The outline of a plate says which pieces it shows and how large they are; texts, colors and keys are
left out. A preview has no game to look at, so it takes the player for a friend whose hook is known.
Where the game has such a player, it draws the same outline.
-/

namespace Overhead

structure Outline where
  showName : Bool
  showFriendMark : Bool
  showClientId : Bool
  showClan : Bool
  showDirection : Bool
  showHook : Bool
  showHookId : Bool
  clientIdNewLine : Bool
  fontSize : Float32
  fontSizeClientId : Float32
  fontSizeClan : Float32
  fontSizeHook : Float32
  fontSizeDirection : Float32
deriving DecidableEq

def PlateData.outline (data : PlateData) : Outline :=
  { showName := data.showName
    showFriendMark := data.showFriendMark
    showClientId := data.showClientId
    showClan := data.showClan
    showDirection := data.showDirection
    showHook := data.showHook
    showHookId := data.showHookId
    clientIdNewLine := data.clientIdNewLine
    fontSize := data.fontSize
    fontSizeClientId := data.fontSizeClientId
    fontSizeClan := data.fontSizeClan
    fontSizeHook := data.fontSizeHook
    fontSizeDirection := data.fontSizeDirection }

/-- Whether the icon of a hook is shown without debugging. That of the own hook comes with its rank
only. -/
def PlateSettings.showsIconOf (settings : PlateSettings) (own : Bool) : Bool :=
  settings.hook == .iconAndId || settings.hook == .icon && !own

/-- The outline that settings without debugging ask for, with every piece that depends on the player
present. -/
def PlateSettings.outline (settings : PlateSettings) (own : Bool) : Outline :=
  { showName := settings.show
    showFriendMark := settings.show && settings.friendMark
    showClientId := settings.show && settings.showIds
    showClan := settings.show && settings.showClan
    showDirection := settings.direction != .off
    showHook := settings.showsIconOf own
    showHookId := settings.hook == .iconAndId
    clientIdNewLine := settings.idsNewLine
    fontSize := fontSizeOfPercent settings.size
    fontSizeClientId :=
      fontSizeOfPercent (if settings.idsNewLine then settings.idsSize else settings.size)
    fontSizeClan := fontSizeOfPercent settings.clanSize
    fontSizeHook := fontSizeOfPercent settings.hookSize
    fontSizeDirection := fontSizeOfPercent settings.directionSize }

section

variable {settings : PlateSettings}

theorem PlateSettings.idFontSize_eq :
    settings.idFontSize =
      fontSizeOfPercent (if settings.idsNewLine then settings.idsSize else settings.size) := by
  unfold idFontSize nameFontSize
  split <;> rfl

theorem PlateSettings.hook_ne_off :
    (settings.hook != .off) = (settings.hook == .iconAndId || settings.hook == .icon) := by
  cases settings.hook <;> rfl

/-- What a preview shows of a hook. -/
theorem Preview.shows_hook (settings : PlateSettings) (profile : Profile) (dummy : Nat) :
    let view := Preview.hook settings profile dummy
    view.showIcon = settings.showsIconOf (decide (dummy = profile.activeDummy)) ∧
      view.showRank = (settings.hook == .iconAndId) := by
  unfold Preview.hook PlateSettings.showsIconOf
  by_cases hown : dummy = profile.activeDummy
  · simp [hown]
  · simp [hown, PlateSettings.hook_ne_off]

theorem Preview.outline_data (hdebug : settings.debug = false) (profile : Profile)
    (position : Point) (dummy : Nat) :
    (Preview.data settings profile position dummy).outline =
      settings.outline (decide (dummy = profile.activeDummy)) := by
  obtain ⟨hicon, hrank⟩ := Preview.shows_hook settings profile dummy
  simp only [Preview.data, PlateData.outline, hicon, hrank]
  simp [PlateSettings.outline, PlateSettings.plateData, PlateSettings.showsId, hdebug,
    PlateSettings.idFontSize_eq, PlateSettings.nameFontSize]

end

namespace Game

variable {game : Game} {settings : PlateSettings} {slot reference : Fin slotCount}

/-- What the game shows of a hook that is compared with a known one. -/
theorem shows_hookOf (hdebug : settings.debug = false)
    (hreference : game.referenceId = some reference.val)
    (hselected : (game.hookRank reference).isSome) (hrank : (game.hookRank slot).isSome) :
    let view := game.hookOf settings slot (game.slots.get slot)
    view.showIcon = settings.showsIconOf (decide (slot = reference)) ∧
      view.showRank = (settings.hook == .iconAndId) := by
  obtain ⟨selected, hselected⟩ := Option.isSome_iff_exists.mp hselected
  obtain ⟨rank, hrank⟩ := Option.isSome_iff_exists.mp hrank
  by_cases hown : slot = reference
  · subst hown
    simp [hookOf_own hreference hrank, HookView.own, PlateSettings.showsHookId,
      PlateSettings.showsIconOf, hdebug]
  · simp [hookOf_against hreference (Ne.symm hown) hselected hrank, HookView.against, hown,
      PlateSettings.showsHookId, PlateSettings.showsHookIcon, PlateSettings.showsIconOf, hdebug,
      PlateSettings.hook_ne_off]

theorem outline_plateData {position : Point} {alpha : Float32} {force : Bool} {data : PlateData}
    (hdebug : settings.debug = false)
    (hdirection : settings.direction = .off ∨ settings.direction = .everyone)
    (hdata : game.plateData settings slot position alpha force = .ok data)
    (hfriend : (game.slots.get slot).client.friend = true)
    (hnamed : (game.slots.get slot).isLocal = false ∨ settings.showOwn = true)
    (hreference : game.referenceId = some reference.val)
    (hselected : (game.hookRank reference).isSome) (hrank : (game.hookRank slot).isSome) :
    data.outline = settings.outline (decide (slot = reference)) := by
  obtain ⟨opacity, -, rfl⟩ := exists_opacity_of_plateData hdata
  obtain ⟨hicon, hid⟩ := shows_hookOf hdebug hreference hselected hrank
  have hname : settings.showsName (game.slots.get slot).isLocal = settings.show := by
    rcases hnamed with hother | hown
    · simp [PlateSettings.showsName, hother]
    · simp [PlateSettings.showsName, hown]
  have harrows : settings.direction.shows (game.slots.get slot).isLocal =
      (settings.direction != .off) := by
    rcases hdirection with hoff | hall
    · rw [hoff]
      rfl
    · rw [hall]
      rfl
  rw [arrowPart_namePart]
  simp only [PlateData.outline, hookPart, namePart, hicon, hid, hname, harrows, hfriend]
  simp [PlateSettings.outline, PlateSettings.plateData, PlateSettings.showsId, hdebug,
    PlateSettings.idFontSize_eq, PlateSettings.nameFontSize]

/-- Without debugging, and with arrows for everyone or nobody, a preview has the outline that the
game gives a friend whose name is shown and whose hook is compared with a known one, if that is the
own hook in both or in neither. Both are told by the settings. -/
theorem previews_have_outlines_of_friends {position : Point} {alpha : Float32} {force : Bool}
    {data : PlateData} (hdebug : settings.debug = false)
    (hdirection : settings.direction = .off ∨ settings.direction = .everyone)
    (hdata : game.plateData settings slot position alpha force = .ok data)
    (hfriend : (game.slots.get slot).client.friend = true)
    (hnamed : (game.slots.get slot).isLocal = false ∨ settings.showOwn = true)
    (hreference : game.referenceId = some reference.val)
    (hselected : (game.hookRank reference).isSome) (hrank : (game.hookRank slot).isSome)
    (profile : Profile) (place : Point) (dummy : Nat)
    (hown : slot = reference ↔ dummy = profile.activeDummy) :
    (Preview.data settings profile place dummy).outline = data.outline ∧
      data.outline = settings.outline (decide (dummy = profile.activeDummy)) := by
  have hgame := outline_plateData hdebug hdirection hdata hfriend hnamed hreference hselected hrank
  have hsame : decide (slot = reference) = decide (dummy = profile.activeDummy) :=
    decide_eq_decide.mpr hown
  rw [hsame] at hgame
  exact ⟨(Preview.outline_data hdebug profile place dummy).trans hgame.symm, hgame⟩

/-- The local player, who is a friend of itself, and another friend. -/
def friends : Game :=
  { state := .online
    slots := Vector.ofFn fun slot : Fin slotCount =>
      if slot.val = 3 then
        { info := some { isLocal := true }
          client := { friend := true }
          character := { hookRank := some 1 } }
      else { client := { friend := true }, character := { hookRank := some 7 } }
    localId := some 3 }

theorem previews_have_outlines_of_friends_of_two :
    let settings : PlateSettings :=
      { showOwn := true, showIds := true, idsNewLine := true, idsSize := 80, friendMark := true,
        hook := .icon, direction := .everyone }
    ∃ data data' : PlateData,
      friends.plateData settings 5 Point.zero 1 true = .ok data ∧
      friends.plateData settings 3 Point.zero 1 true = .ok data' ∧
      (Preview.data settings {} Point.zero 1).outline = data.outline ∧ data.showHook = true ∧
      (Preview.data settings {} Point.zero 0).outline = data'.outline ∧ data'.showHook = false := by
  intro settings
  let own : Fin slotCount := ⟨3, by decide⟩
  let other : Fin slotCount := ⟨5, by decide⟩
  obtain ⟨data, hdata⟩ := friends.plateData_forced settings other Point.zero 1
  obtain ⟨data', hdata'⟩ := friends.plateData_forced settings own Point.zero 1
  have hreference : friends.referenceId = some own.val := rfl
  obtain ⟨hsame, hdue⟩ := previews_have_outlines_of_friends rfl (Or.inr rfl) hdata (by decide)
    (Or.inr rfl) hreference (by decide) (by decide) {} Point.zero 1 (by decide)
  obtain ⟨hsame', hdue'⟩ := previews_have_outlines_of_friends rfl (Or.inr rfl) hdata' (by decide)
    (Or.inr rfl) hreference (by decide) (by decide) {} Point.zero 0 (by decide)
  exact ⟨data, data', hdata, hdata', hsame, congrArg Outline.showHook hdue, hsame',
    congrArg Outline.showHook hdue'⟩

end Game
end Overhead
