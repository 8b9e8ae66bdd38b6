import Mathlib.Data.List.Basic
import Overhead.Frame.Plates

/-!
# Plates in sight

Which plates a frame has to draw can be told without the order in which it looks for them: a plate
is due at every place that a player has and that is near the screen. The order is another matter: by
slot, and the body that was left behind before the player.
-/

namespace Overhead

/-- Where a plate is drawn: at the body that a player left behind, or at the player. -/
inductive Place where
  | body
  | player
deriving DecidableEq

namespace Place

def alpha : Place → Float32
  | .body => 0.4
  | .player => 1

/-- Only a plate at a body is as opaque everywhere. -/
def forced : Place → Bool
  | .body => true
  | .player => false

end Place

/-- A plate at a place in the world. -/
structure Sight where
  slot : Fin slotCount
  place : Place
  position : Point

namespace Sight

def Before (a b : Sight) : Prop :=
  a.slot < b.slot ∨ a.slot = b.slot ∧ a.place = .body ∧ b.place = .player

/-- Whether a frame has to draw this plate, on the screen it starts with. -/
def Due (game : Game) (settings : PlateSettings) (screen : Area Float32) (sight : Sight) : Prop :=
  let content := game.slots.get sight.slot
  content.info.isSome ∧ (screen.expand 400 0 400 800).contains sight.position ∧
    match sight.place with
    | .body =>
        settings.showSpectatorBodies ∧ content.client.spectatorBody = some sight.position
    | .player => content.character.active ∧ content.client.position = sight.position

def data (sight : Sight) (game : Game) (settings : PlateSettings) :
    Except MissingSlot PlateData :=
  game.plateData settings sight.slot sight.position sight.place.alpha sight.place.forced

/-! ## The sights of a frame -/

def sighting (sight : Sight) : Sighting where
  slot := sight.slot
  position := sight.position
  alpha := sight.place.alpha
  forced := sight.place.forced

def position? (settings : PlateSettings) (area : Area Float32) (content : Slot) :
    Place → Option Point
  | .body =>
      if settings.showSpectatorBodies then content.client.spectatorBody.filter area.contains
      else none
  | .player =>
      if content.character.active && area.contains content.client.position then
        some content.client.position
      else none

def at? (game : Game) (settings : PlateSettings) (area : Area Float32) (slot : Fin slotCount)
    (place : Place) : Option Sight :=
  let content := game.slots.get slot
  if content.info.isSome then
    (position? settings area content place).map fun position =>
      { slot := slot, place := place, position := position }
  else none

def ofSlot (game : Game) (settings : PlateSettings) (area : Area Float32)
    (slot : Fin slotCount) : List Sight :=
  (at? game settings area slot .body).toList ++ (at? game settings area slot .player).toList

def all (game : Game) (settings : PlateSettings) (screen : Area Float32) : List Sight :=
  (List.finRange slotCount).flatMap (ofSlot game settings (Sighting.reach screen))

section

variable {game : Game} {settings : PlateSettings} {area screen : Area Float32} {sight : Sight}
  {slot : Fin slotCount} {place : Place} {position : Point}

theorem position?_eq_some {content : Slot} :
    position? settings area content place = some position ↔
      area.contains position ∧
        match place with
        | .body => settings.showSpectatorBodies ∧ content.client.spectatorBody = some position
        | .player => content.character.active ∧ content.client.position = position := by
  cases place with
  | body =>
      simp only [position?, Option.ite_none_right_eq_some, Option.filter_eq_some_iff]
      constructor
      · rintro ⟨hshown, hbody, hnear⟩
        exact ⟨hnear, hshown, hbody⟩
      · rintro ⟨hnear, hshown, hbody⟩
        exact ⟨hshown, hbody, hnear⟩
  | player =>
      simp only [position?, Option.ite_none_right_eq_some, Bool.and_eq_true, Option.some.injEq]
      constructor
      · rintro ⟨⟨hactive, hnear⟩, rfl⟩
        exact ⟨hnear, hactive, rfl⟩
      · rintro ⟨hnear, hactive, rfl⟩
        exact ⟨⟨hactive, hnear⟩, rfl⟩

theorem at?_eq_some :
    at? game settings (Sighting.reach screen) slot place = some sight ↔
      sight.slot = slot ∧ sight.place = place ∧ sight.Due game settings screen := by
  simp only [at?, Option.ite_none_right_eq_some, Option.map_eq_some_iff, position?_eq_some]
  constructor
  · rintro ⟨hinfo, position, ⟨hnear, hplace⟩, rfl⟩
    exact ⟨rfl, rfl, hinfo, hnear, hplace⟩
  · rintro ⟨rfl, rfl, hinfo, hnear, hplace⟩
    exact ⟨hinfo, sight.position, ⟨hnear, hplace⟩, rfl⟩

theorem mem_ofSlot :
    sight ∈ ofSlot game settings (Sighting.reach screen) slot ↔
      sight.slot = slot ∧ sight.Due game settings screen := by
  simp only [ofSlot, List.mem_append, Option.mem_toList, at?_eq_some]
  constructor
  · rintro (⟨hslot, -, hdue⟩ | ⟨hslot, -, hdue⟩)
    · exact ⟨hslot, hdue⟩
    · exact ⟨hslot, hdue⟩
  · rintro ⟨hslot, hdue⟩
    cases hplace : sight.place with
    | body => exact Or.inl ⟨hslot, rfl, hdue⟩
    | player => exact Or.inr ⟨hslot, rfl, hdue⟩

theorem mem_all : sight ∈ all game settings screen ↔ sight.Due game settings screen := by
  simp [all, mem_ofSlot]

theorem pairwise_ofSlot : (ofSlot game settings (Sighting.reach screen) slot).Pairwise Before := by
  have hone : ∀ sight? : Option Sight, sight?.toList.Pairwise Before := by
    intro sight?
    cases sight? <;> simp
  refine List.pairwise_append.mpr ⟨hone _, hone _, fun a ha b hb => ?_⟩
  obtain ⟨hslot, hplace, -⟩ := at?_eq_some.mp (Option.mem_toList.mp ha)
  obtain ⟨hslot', hplace', -⟩ := at?_eq_some.mp (Option.mem_toList.mp hb)
  exact Or.inr ⟨hslot.trans hslot'.symm, hplace, hplace'⟩

theorem pairwise_all : (all game settings screen).Pairwise Before := by
  refine List.pairwise_flatMap.mpr ⟨fun slot _ => pairwise_ofSlot, ?_⟩
  refine (List.pairwise_lt_finRange slotCount).imp fun {first second} hlt a ha b hb => ?_
  left
  rwa [(mem_ofSlot.mp ha).1, (mem_ofSlot.mp hb).1]

theorem map_sighting_ofSlot :
    (ofSlot game settings area slot).map sighting = Sighting.ofSlot game settings area slot := by
  let content := game.slots.get slot
  have hbody : ((position? settings area content .body).map fun position =>
      sighting { slot := slot, place := .body, position := position }) =
        Sighting.body? settings area slot content.client := by
    simp only [position?, Sighting.body?]
    split <;> rfl
  have hplayer : ((position? settings area content .player).map fun position =>
      sighting { slot := slot, place := .player, position := position }) =
        Sighting.player? area slot content.client content.character := by
    simp only [position?, Sighting.player?]
    split <;> rfl
  have hlist : ∀ sight? : Option Sight,
      sight?.toList.map sighting = (sight?.map sighting).toList := by
    intro sight?
    cases sight? <;> rfl
  simp only [ofSlot, Sighting.ofSlot, at?, List.map_append, hlist]
  by_cases hinfo : content.info.isSome
  · rw [← hbody, ← hplayer, if_pos hinfo, if_pos hinfo, if_pos hinfo, Option.map_map,
      Option.map_map]
    rfl
  · rw [if_neg hinfo, if_neg hinfo, if_neg hinfo]
    rfl

theorem map_sighting_all (hgame : game.isRunning = true) (hsettings : settings.isDisabled = false) :
    (all game settings screen).map sighting = Sighting.all game settings screen := by
  simp only [all, Sighting.all, hgame, hsettings, List.map_flatMap, map_sighting_ofSlot]
  rfl

end

end Sight
end Overhead
