import Overhead.Frame.Data
import Overhead.Proofs.Game.Slots

/-!
# Ids that name no slot

Ids are not checked when they arrive, and most of them are looked up behind a guard. Only two are
not: that of the local player, and that of the player who is watched. They are needed to compare
teams, and teams are compared only where the opacity of a plate is not forced.
-/

namespace Overhead
namespace Game

/-- Comparing the team of a player looks this id up, and no slot has it. -/
def Misses (game : Game) (drawn : Client) (id : Nat) : Prop :=
  ∃ own, game.localId = some own ∧
    (slotCount ≤ own ∧ id = own ∨
      own < slotCount ∧ slotCount ≤ id ∧ game.watchedId = some id ∧ drawn.isSuper = false)

theorem Misses.not_lt {game : Game} {drawn : Client} {id : Nat} (h : game.Misses drawn id) :
    slotCount ≤ id := by
  obtain ⟨own, -, hown | hwatched⟩ := h
  · omega
  · exact hwatched.2.1

/-- Whoever is drawn, it is the same id that is missing. -/
theorem Misses.unique {game : Game} {drawn other : Client} {id id' : Nat}
    (h : game.Misses drawn id) (h' : game.Misses other id') : id = id' := by
  obtain ⟨own, hlocal, hcase⟩ := h
  obtain ⟨own', hlocal', hcase'⟩ := h'
  obtain rfl : own = own' := Option.some.inj (hlocal.symm.trans hlocal')
  rcases hcase with ⟨hown, rfl⟩ | ⟨hown, -, hwatched, -⟩
  · rcases hcase' with ⟨-, rfl⟩ | ⟨hown', -⟩
    · rfl
    · omega
  · rcases hcase' with ⟨hown', -⟩ | ⟨-, -, hwatched', -⟩
    · omega
    · exact Option.some.inj (hwatched.symm.trans hwatched')

theorem watchedId_eq_some {game : Game} {id : Nat} :
    game.watchedId = some id ↔ game.spectating.active = true ∧ game.spectating.id = some id := by
  unfold watchedId
  split <;> simp [*]

section

variable {game : Game} {slot : Fin slotCount} {missing : MissingSlot}

theorem isOtherTeamOfWatched_eq_error {watched : Nat} :
    game.isOtherTeamOfWatched watched slot = .error missing ↔
      slotCount ≤ watched ∧ (game.slots.get slot).client.isSuper = false ∧
        missing.id = watched := by
  simp only [isOtherTeamOfWatched, slot_fin, bind, Except.bind]
  cases hsuper : (game.slots.get slot).client.isSuper with
  | true => simp [pure, Except.pure]
  | false =>
      by_cases hwatched : watched < slotCount
      · have hnone : ¬ slotCount ≤ watched := by omega
        simp [slot_eq_ok game hwatched, hnone, pure, Except.pure]
      · have hsome : slotCount ≤ watched := by omega
        simp only [slot_eq_error game hwatched, hsome, Bool.false_eq_true, if_false]
        constructor
        · rintro h
          cases h
          exact ⟨trivial, trivial, rfl⟩
        · rintro ⟨-, -, rfl⟩
          rfl

/-- Between the local player and one with a slot nothing is missing. -/
theorem exists_isOtherTeamOfLocal (game : Game) (own : Client) (ownId : Nat)
    (slot : Fin slotCount) : ∃ other, game.isOtherTeamOfLocal own ownId slot = .ok other := by
  have hparted : ∃ parted, game.partedBySolo own ownId slot = .ok parted := by
    unfold partedBySolo
    rw [slot_fin]
    split
    · exact ⟨_, rfl⟩
    · exact ⟨_, rfl⟩
  obtain ⟨parted, hparted⟩ := hparted
  simp only [isOtherTeamOfLocal, hparted, slot_fin, bind, Except.bind]
  cases parted with
  | true => exact ⟨_, rfl⟩
  | false => exact ⟨_, rfl⟩

theorem isOtherTeam_eq_error :
    game.isOtherTeam slot = .error missing ↔
      game.Misses (game.slots.get slot).client missing.id := by
  unfold isOtherTeam Misses
  cases hlocal : game.localId with
  | none => simp [pure, Except.pure]
  | some own =>
      by_cases hown : own < slotCount
      · have hlow : ¬ slotCount ≤ own := by omega
        simp only [slot_eq_ok game hown, bind, Except.bind, Option.some.injEq, exists_eq_left',
          hown, hlow, false_and, false_or, true_and]
        by_cases hfree : game.slots[own].client.side = .spectators ∧ game.spectating.id = none
        · have hnobody : game.watchedId = none := by
            simp [watchedId, hfree.2]
          simp [hfree, hnobody, pure, Except.pure]
        · rw [if_neg hfree]
          cases hwatched : game.watchedId with
          | none =>
              obtain ⟨other, hother⟩ :=
                exists_isOtherTeamOfLocal game game.slots[own].client own slot
              simp [hother]
          | some watched =>
              rw [isOtherTeamOfWatched_eq_error]
              constructor
              · rintro ⟨hmissing, hsuper, hid⟩
                rw [hid]
                exact ⟨hmissing, rfl, hsuper⟩
              · rintro ⟨hmissing, hid, hsuper⟩
                obtain rfl := Option.some.inj hid
                exact ⟨hmissing, hsuper, rfl⟩
      · have hhigh : slotCount ≤ own := by omega
        simp only [slot_eq_error game hown, bind, Except.bind, Option.some.injEq, exists_eq_left',
          hown, hhigh, false_and, or_false, true_and]
        constructor
        · rintro h
          cases h
          rfl
        · intro hid
          rw [← hid]

/-! ## The data of a plate -/

variable {settings : PlateSettings} {position : Point} {alpha : Float32}

theorem plateAlpha_eq_error :
    game.plateAlpha settings slot position alpha = .error missing ↔
      game.Misses (game.slots.get slot).client missing.id := by
  rw [← isOtherTeam_eq_error]
  unfold plateAlpha
  cases game.isOtherTeam slot with
  | error vain => simp [bind, Except.bind]
  | ok other => cases other <;> simp [bind, Except.bind, pure, Except.pure]

/-- Only the opacity has to be worked out before the data of a plate is known. -/
theorem exists_of_plateData {id : Nat} {force : Bool} {data : PlateData}
    (h : game.plateData settings id position alpha force = .ok data) :
    ∃ player faded, game.slot id = .ok player ∧ (force = true → faded = alpha) ∧
      data = game.hookPart settings id player
        (game.arrowPart settings id player
          (game.namePart settings id player position faded)) := by
  cases hslot : game.slot id with
  | error missing => simp [plateData, hslot, bind, Except.bind] at h
  | ok player =>
      cases force with
      | true =>
          simp only [plateData, hslot, bind, Except.bind] at h
          exact ⟨player, alpha, rfl, fun _ => rfl, (Except.ok.inj h).symm⟩
      | false =>
          cases hfaded : game.plateAlpha settings id position alpha with
          | error missing => simp [plateData, hslot, hfaded, bind, Except.bind] at h
          | ok faded =>
              simp only [plateData, hslot, hfaded, bind, Except.bind] at h
              exact ⟨player, faded, rfl, fun hforced => (Bool.false_ne_true hforced).elim,
                (Except.ok.inj h).symm⟩

theorem exists_opacity_of_plateData {force : Bool} {data : PlateData}
    (h : game.plateData settings slot position alpha force = .ok data) :
    let player := game.slots.get slot
    ∃ opacity, (force = true → opacity = alpha) ∧
      data = game.hookPart settings slot player
        (game.arrowPart settings slot player
          (game.namePart settings slot player position opacity)) := by
  obtain ⟨player, opacity, hplayer, hkept, hdata⟩ := exists_of_plateData h
  rw [slot_fin] at hplayer
  obtain rfl := Except.ok.inj hplayer
  exact ⟨opacity, hkept, hdata⟩

/-- With a forced opacity no teams are compared, and nothing else looks an id up unguarded. -/
theorem plateData_forced (game : Game) (settings : PlateSettings) (slot : Fin slotCount)
    (position : Point) (alpha : Float32) :
    ∃ data, game.plateData settings slot position alpha true = .ok data := by
  simp only [plateData, slot_fin, bind, Except.bind]
  exact ⟨_, rfl⟩

theorem plateData_eq_error :
    game.plateData settings slot position alpha false = .error missing ↔
      game.Misses (game.slots.get slot).client missing.id := by
  have halpha : game.plateAlpha settings slot position alpha = .error missing ↔ _ :=
    plateAlpha_eq_error
  rw [← halpha]
  simp only [plateData, slot_fin, bind, Except.bind]
  cases game.plateAlpha settings slot position alpha with
  | error vain => simp
  | ok faded => simp [pure, Except.pure]

end

end Game
end Overhead
