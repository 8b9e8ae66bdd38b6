import Mathlib.Tactic.ByContra
import Overhead.Proofs.Game.Missing

/-!
# What belongs together in the data of a plate

The name, the arrows, the hook and the color of a plate are decided apart from each other, from
conditions that overlap. How they belong together can be told without those conditions: nothing
stands beside a hidden name, no arrow points to both sides, and a hook is only shown to be strong or
weak against the hook of somebody else.
-/

namespace Overhead
namespace HookStrength

/-- How the other player sees the two hooks. -/
def opposite : HookStrength → HookStrength
  | .weak => .strong
  | .unknown => .unknown
  | .strong => .weak

end HookStrength

namespace Game

def hookRank (game : Game) (slot : Fin slotCount) : Option Int32 :=
  (game.slots.get slot).character.hookRank

/-! ## Hooks -/

section

variable {game : Game} {settings : PlateSettings} {slot reference : Fin slotCount}
  {selected rank : Int32}

theorem reference?_of_slot (h : game.referenceId = some reference.val) :
    game.reference? = some (reference.val, game.slots.get reference) := by
  simp [reference?, h]
  rfl

theorem reference?_of_no_slot
    (h : ∀ reference : Fin slotCount, game.referenceId ≠ some reference.val) :
    game.reference? = none := by
  unfold reference?
  cases hid : game.referenceId with
  | none => rfl
  | some id =>
      have hhigh : slotCount ≤ id := by
        by_contra hlow
        exact h ⟨id, by omega⟩ hid
      simp [Vector.getElem?_eq_none hhigh]

theorem hookOf_own (hown : game.referenceId = some slot.val)
    (hrank : game.hookRank slot = some rank) :
    game.hookOf settings slot (game.slots.get slot) = HookView.own settings rank := by
  rw [hookRank] at hrank
  simp [hookOf, reference?_of_slot hown, hrank]

theorem hookOf_against (hreference : game.referenceId = some reference.val)
    (hne : reference ≠ slot) (hselected : game.hookRank reference = some selected)
    (hrank : game.hookRank slot = some rank) :
    game.hookOf settings slot (game.slots.get slot) = HookView.against settings selected rank := by
  have hids := Fin.val_ne_of_ne hne
  rw [hookRank] at hselected hrank
  simp [hookOf, reference?_of_slot hreference, hselected, hrank, hids]

/-- All that a plate can show of a hook: nothing is known of it, it is that of the reference itself,
or it is compared with that of somebody else. -/
inductive TellsHook (game : Game) (settings : PlateSettings) (slot : Fin slotCount) :
    HookView → Prop where
  | unknown
      (hmissing : ∀ reference : Fin slotCount, game.referenceId = some reference.val →
        game.hookRank reference = none ∨ game.hookRank slot = none) :
      TellsHook game settings slot HookView.unknown
  | own {rank : Int32} (hown : game.referenceId = some slot.val)
      (hrank : game.hookRank slot = some rank) :
      TellsHook game settings slot (HookView.own settings rank)
  | against {reference : Fin slotCount} {selected rank : Int32}
      (hreference : game.referenceId = some reference.val) (hne : reference ≠ slot)
      (hselected : game.hookRank reference = some selected)
      (hrank : game.hookRank slot = some rank) :
      TellsHook game settings slot (HookView.against settings selected rank)

theorem tellsHook_hookOf (game : Game) (settings : PlateSettings) (slot : Fin slotCount) :
    game.TellsHook settings slot (game.hookOf settings slot (game.slots.get slot)) := by
  by_cases hnone : ∀ reference : Fin slotCount, game.referenceId ≠ some reference.val
  · have hhook : game.hookOf settings slot (game.slots.get slot) = HookView.unknown := by
      simp [hookOf, reference?_of_no_slot hnone]
    rw [hhook]
    exact .unknown fun reference hreference => (hnone reference hreference).elim
  · push Not at hnone
    obtain ⟨reference, hreference⟩ := hnone
    cases hselected : game.hookRank reference with
    | none =>
        have hhook : game.hookOf settings slot (game.slots.get slot) = HookView.unknown := by
          rw [hookRank] at hselected
          simp [hookOf, reference?_of_slot hreference, hselected]
        rw [hhook]
        refine .unknown fun other hother => Or.inl ?_
        obtain rfl : reference = other := Fin.ext (Option.some.inj (hreference.symm.trans hother))
        exact hselected
    | some selected =>
        cases hrank : game.hookRank slot with
        | none =>
            have hhook : game.hookOf settings slot (game.slots.get slot) = HookView.unknown := by
              rw [hookRank] at hselected hrank
              simp [hookOf, reference?_of_slot hreference, hselected, hrank]
            rw [hhook]
            exact .unknown fun _ _ => Or.inr hrank
        | some rank =>
            by_cases hown : reference = slot
            · subst hown
              rw [hookOf_own hreference hrank]
              exact .own hreference hrank
            · rw [hookOf_against hreference hown hselected hrank]
              exact .against hreference hown hselected hrank

end

end Game

namespace HookView

variable {settings settings' : PlateSettings} {a b : Int32}

theorem strength_against_ne_unknown : (against settings a b).strength ≠ .unknown := by
  unfold against
  dsimp only
  split <;> simp

theorem strength_against_eq_strong : (against settings a b).strength = .strong ↔ b < a := by
  unfold against
  dsimp only
  split <;> simp [*]

/-- Of two different ranks just one is higher. -/
theorem strength_against_swap (h : a ≠ b) :
    (against settings b a).strength = (against settings' a b).strength.opposite := by
  have hne : a.toInt ≠ b.toInt := fun heq => h (Int32.toInt_inj.mp heq)
  have hlt : a < b ↔ ¬ b < a := by
    rw [Int32.lt_iff_toInt_lt, Int32.lt_iff_toInt_lt]
    omega
  unfold against
  by_cases hba : b < a
  · have hab : ¬ a < b := fun h => hlt.mp h hba
    simp [hba, hab, HookStrength.opposite]
  · simp [hba, hlt.mpr hba, HookStrength.opposite]

/-- The rank of a hook is only shown next to its icon. -/
theorem showsIcon_of_showsId (h : settings.showsHookId = true) : settings.showsHookIcon = true := by
  unfold PlateSettings.showsHookId at h
  unfold PlateSettings.showsHookIcon
  cases hmode : settings.hook <;> simp_all

end HookView

namespace Game.TellsHook

variable {game : Game} {settings : PlateSettings} {slot : Fin slotCount} {view : HookView}

theorem showIcon_of_showRank (h : game.TellsHook settings slot view)
    (hshown : view.showRank = true) : view.showIcon = true := by
  cases h with
  | unknown => simp [HookView.unknown] at hshown
  | own => exact hshown
  | against => exact HookView.showsIcon_of_showsId hshown

theorem exists_ranks (h : game.TellsHook settings slot view) (hshown : view.showIcon = true) :
    ∃ reference : Fin slotCount, game.referenceId = some reference.val ∧
      (game.hookRank reference).isSome ∧ (game.hookRank slot).isSome := by
  cases h with
  | unknown => simp [HookView.unknown] at hshown
  | own hown hrank => exact ⟨slot, hown, by simp [hrank], by simp [hrank]⟩
  | against hreference hne hselected hrank =>
      exact ⟨_, hreference, by simp [hselected], by simp [hrank]⟩

theorem strength_eq_unknown (h : game.TellsHook settings slot view) :
    view.strength = .unknown ↔
      ∀ reference : Fin slotCount, game.referenceId = some reference.val →
        game.hookRank reference = none ∨ game.hookRank slot = none ∨ reference = slot := by
  cases h with
  | unknown hmissing =>
      refine ⟨fun _ reference hreference => ?_, fun _ => rfl⟩
      exact (hmissing reference hreference).imp_right Or.inl
  | own hown hrank =>
      refine ⟨fun _ reference hreference => Or.inr (Or.inr ?_), fun _ => rfl⟩
      exact Fin.ext (Option.some.inj (hreference.symm.trans hown))
  | against hreference hne hselected hrank =>
      refine ⟨fun hunknown => (HookView.strength_against_ne_unknown hunknown).elim, fun hall => ?_⟩
      rcases hall _ hreference with hnone | hnone | hown
      · simp [hnone] at hselected
      · simp [hnone] at hrank
      · exact (hne hown).elim

end Game.TellsHook

/-! ## All fields -/

namespace Game

/-- The arrows of a plate on which none is set yet. -/
theorem arrowPart_namePart {game : Game} {settings : PlateSettings} {id : Nat} {player : Slot}
    {position : Point} {alpha : Float32} :
    game.arrowPart settings id player (game.namePart settings id player position alpha) =
      let shown := settings.direction.shows player.isLocal
      let headings := (game.keysOf id player).headings
      { game.namePart settings id player position alpha with
        showDirection := shown
        dirLeft := shown && headings.left
        dirJump := shown && headings.jump
        dirRight := shown && headings.right } := by
  unfold arrowPart
  cases settings.direction.shows player.isLocal <;> rfl

end Game

namespace PlateData

/-- What belongs together in the data of a player's plate. -/
structure Consistent (game : Game) (settings : PlateSettings) (slot : Fin slotCount)
    (data : PlateData) : Prop where
  beside_name : data.showFriendMark = true ∨ data.showClientId = true ∨ data.showClan = true →
    data.showName = true
  name : data.showName = true ↔
    settings.show = true ∧ ((game.slots.get slot).isLocal = false ∨ settings.showOwn = true)
  arrows : data.dirLeft = true ∨ data.dirJump = true ∨ data.dirRight = true →
    data.showDirection = true
  one_side : ¬ (data.dirLeft = true ∧ data.dirRight = true)
  hook_id : data.showHookId = true → data.showHook = true
  hook : data.showHook = true ∨ data.showHookId = true →
    ∃ reference : Fin slotCount, game.referenceId = some reference.val ∧
      (game.hookRank reference).isSome ∧ (game.hookRank slot).isSome
  unknown : data.hook = .unknown ↔
    ∀ reference : Fin slotCount, game.referenceId = some reference.val →
      game.hookRank reference = none ∨ game.hookRank slot = none ∨ reference = slot
  strong : ∀ (reference : Fin slotCount) (selected rank : Int32),
    game.referenceId = some reference.val → reference ≠ slot →
    game.hookRank reference = some selected → game.hookRank slot = some rank →
    (data.hook = .strong ↔ rank < selected)
  opacity : data.color.alpha = data.alpha

end PlateData

theorem Keys.not_left_and_right (keys : Keys) :
    ¬ (keys.headings.left = true ∧ keys.headings.right = true) := by
  simp only [Keys.headings, beq_iff_eq]
  rintro ⟨hleft, hright⟩
  rw [hleft] at hright
  exact absurd hright (by decide)

namespace Game

section

variable {game : Game} {settings : PlateSettings} {slot : Fin slotCount} {position : Point}
  {alpha : Float32} {force : Bool} {data : PlateData}

theorem hook_of_plateData (h : game.plateData settings slot position alpha force = .ok data)
    {reference : Fin slotCount} {selected rank : Int32}
    (hreference : game.referenceId = some reference.val) (hne : reference ≠ slot)
    (hselected : game.hookRank reference = some selected) (hrank : game.hookRank slot = some rank) :
    data.hook = (HookView.against settings selected rank).strength := by
  obtain ⟨opacity, -, rfl⟩ := exists_opacity_of_plateData h
  rw [hookPart, hookOf_against hreference hne hselected hrank]

theorem consistent_plateData (h : game.plateData settings slot position alpha force = .ok data) :
    data.Consistent game settings slot := by
  obtain ⟨opacity, -, rfl⟩ := exists_opacity_of_plateData h
  have hhook := tellsHook_hookOf game settings slot
  rw [arrowPart_namePart]
  constructor
  all_goals simp only [hookPart, namePart, Bool.and_eq_true]
  case beside_name =>
    rintro (⟨⟨hname, -⟩, -⟩ | ⟨hname, -⟩ | ⟨hname, -⟩)
    all_goals exact hname
  case name => simp [PlateSettings.showsName]
  case arrows =>
    rintro (⟨hshown, -⟩ | ⟨hshown, -⟩ | ⟨hshown, -⟩)
    all_goals exact hshown
  case one_side =>
    rintro ⟨⟨-, hleft⟩, -, hright⟩
    exact Keys.not_left_and_right _ ⟨hleft, hright⟩
  case hook_id => exact hhook.showIcon_of_showRank
  case hook =>
    rintro (hicon | hid)
    · exact hhook.exists_ranks hicon
    · exact hhook.exists_ranks (hhook.showIcon_of_showRank hid)
  case unknown => exact hhook.strength_eq_unknown
  case strong =>
    intro reference selected rank hreference hne hselected hrank
    rw [hookOf_against hreference hne hselected hrank]
    exact HookView.strength_against_eq_strong
  case opacity => exact Color.alpha_withAlpha _ _

end

/-- The data of a plate is consistent, and a forced opacity is kept. Two players with hooks of
different ranks see each other's hooks the other way around, whenever each is drawn while the other
is the reference. -/
theorem plates_are_consistent {game : Game} {settings : PlateSettings} {slot : Fin slotCount}
    {position : Point} {alpha : Float32} {force : Bool} {data : PlateData}
    (h : game.plateData settings slot position alpha force = .ok data) :
    data.Consistent game settings slot ∧ (force = true → data.alpha = alpha) ∧
    ∀ (reference : Fin slotCount) (game' : Game) (settings' : PlateSettings) (position' : Point)
      (alpha' : Float32) (force' : Bool) (data' : PlateData),
      game'.slots = game.slots → game.referenceId = some reference.val →
      game'.referenceId = some slot.val →
      game'.plateData settings' reference position' alpha' force' = .ok data' →
      (game.hookRank slot).isSome → (game.hookRank reference).isSome →
      game.hookRank slot ≠ game.hookRank reference →
      data.hook ≠ .unknown ∧ data'.hook = data.hook.opposite := by
  refine ⟨consistent_plateData h, fun hforce => ?_, ?_⟩
  · obtain ⟨opacity, hkept, rfl⟩ := exists_opacity_of_plateData h
    rw [arrowPart_namePart]
    exact hkept hforce
  · intro reference game' settings' position' alpha' force' data' hslots hreference hreference' h'
      hrank hselected hranks
    obtain ⟨rank, hrank⟩ := Option.isSome_iff_exists.mp hrank
    obtain ⟨selected, hselected⟩ := Option.isSome_iff_exists.mp hselected
    have hne : reference ≠ slot := by
      rintro rfl
      exact hranks rfl
    have hdiffer : selected ≠ rank := by
      rintro rfl
      exact hranks (hrank.trans hselected.symm)
    have hrank' : game'.hookRank slot = some rank := by rwa [hookRank, hslots]
    have hselected' : game'.hookRank reference = some selected := by rwa [hookRank, hslots]
    rw [hook_of_plateData h hreference hne hselected hrank,
      hook_of_plateData h' hreference' hne.symm hrank' hselected']
    exact ⟨HookView.strength_against_ne_unknown, HookView.strength_against_swap hdiffer⟩

def rivals : Game :=
  { state := .online
    slots := Vector.ofFn fun slot : Fin slotCount =>
      if slot.val = 3 then { character := { hookRank := some 9 } }
      else if slot.val = 5 then { character := { hookRank := some (-4) } }
      else {}
    localId := some 3 }

theorem plates_are_consistent_of_rivals :
    ∃ data data' : PlateData,
      rivals.plateData { hook := .icon } 5 Point.zero 1 false = .ok data ∧
      { rivals with localId := some 5 }.plateData {} 3 Point.zero 0.4 true = .ok data' ∧
      data.Consistent rivals { hook := .icon } ⟨5, by decide⟩ ∧
      data.hook = .strong ∧ data'.hook = .weak ∧ data'.alpha = 0.4 := by
  let drawn : Fin slotCount := ⟨5, by decide⟩
  let reference : Fin slotCount := ⟨3, by decide⟩
  let exchanged : Game := { rivals with localId := some 5 }
  have hfound : (rivals.plateData { hook := .icon } drawn Point.zero 1 false).isOk = true := by
    decide +kernel
  cases hdata : rivals.plateData { hook := .icon } drawn Point.zero 1 false with
  | error missing => simp [hdata, Except.isOk, Except.toBool] at hfound
  | ok data =>
      obtain ⟨data', hdata'⟩ := exchanged.plateData_forced {} reference Point.zero 0.4
      obtain ⟨hconsistent, -, hexchange⟩ := plates_are_consistent hdata
      obtain ⟨-, hopacity, -⟩ := plates_are_consistent hdata'
      obtain ⟨-, hopposite⟩ := hexchange reference exchanged {} Point.zero 0.4 true data' rfl rfl
        rfl hdata' (by decide) (by decide) (by decide)
      have hstrong : data.hook = .strong :=
        (hconsistent.strong reference 9 (-4) rfl (by decide) (by decide) (by decide)).mpr
          (by decide)
      rw [hstrong] at hopposite
      exact ⟨data, data', rfl, hdata', hconsistent, hstrong, hopposite, hopacity rfl⟩

end Game
end Overhead
