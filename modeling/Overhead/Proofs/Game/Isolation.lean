import Overhead.Frame.Data
import Overhead.Proofs.Game.Slots

/-!
# Games that differ in one slot

Besides the slot of the player it belongs to, a plate is told by two slots at most: that of the
local player and that of the one who is spectated. So two games that differ in any other slot show
the same plate for everybody else, or fail for the same id.
-/

namespace Overhead
namespace Game

structure SameBut (i : Fin slotCount) (game game' : Game) : Prop where
  rest : game' = { game with slots := game'.slots }
  slots : ∀ slot, slot ≠ i → game'.slots.get slot = game.slots.get slot

/-- Neither the local player nor the one who is spectated is in the slot. -/
structure ViewedWithout (game : Game) (i : Fin slotCount) : Prop where
  own : game.localId ≠ some i.val
  spectated : game.spectating.id ≠ some i.val

section

variable {i : Fin slotCount} {game game' : Game} {id : Nat}

theorem ViewedWithout.watchedId_ne (h : game.ViewedWithout i) : game.watchedId ≠ some i.val := by
  unfold watchedId
  split
  · exact h.spectated
  · simp

theorem ViewedWithout.referenceId_ne (h : game.ViewedWithout i) :
    game.referenceId ≠ some i.val := by
  have hfollowed : game.followedId ≠ some i.val := by
    unfold followedId
    split
    · exact h.spectated
    · simp
  unfold referenceId
  cases hid : game.followedId with
  | none => simpa using h.own
  | some id =>
      rw [hid] at hfollowed
      simpa using hfollowed

/-! ## Lookups -/

theorem SameBut.getElem?_eq (h : SameBut i game game') (hid : id ≠ i) :
    game'.slots[id]? = game.slots[id]? := by
  by_cases hlt : id < slotCount
  · have hne : (⟨id, hlt⟩ : Fin slotCount) ≠ i := fun heq => hid (congrArg Fin.val heq)
    have hslot : game'.slots[id] = game.slots[id] := h.slots ⟨id, hlt⟩ hne
    rw [Vector.getElem?_eq_getElem hlt, Vector.getElem?_eq_getElem hlt]
    exact congrArg some hslot
  · have hhigh : slotCount ≤ id := by omega
    rw [Vector.getElem?_eq_none hhigh, Vector.getElem?_eq_none hhigh]

theorem SameBut.slot_eq (h : SameBut i game game') (hid : id ≠ i) :
    game'.slot id = game.slot id := by
  have hlookup := h.getElem?_eq hid
  unfold slot
  by_cases hlt : id < slotCount
  · rw [Vector.getElem?_eq_getElem hlt, Vector.getElem?_eq_getElem hlt] at hlookup
    rw [dif_pos hlt, dif_pos hlt, Option.some.inj hlookup]
  · rw [dif_neg hlt, dif_neg hlt]

/-! ## What is read of a game -/

/-- What is read without the slots is the same in both games. -/
theorem SameBut.read_eq {α : Type} (h : SameBut i game game') (read : Game → α)
    (hread : ∀ slots, read { game with slots := slots } = read game) : read game' = read game :=
  (congrArg read h.rest).trans (hread game'.slots)

theorem SameBut.isOtherTeam_eq (h : SameBut i game game') (hview : game.ViewedWithout i)
    (hid : id ≠ i) : game'.isOtherTeam id = game.isOtherTeam id := by
  have hlocal : game'.localId = game.localId := h.read_eq Game.localId fun _ => rfl
  have hspectating : game'.spectating = game.spectating := h.read_eq Game.spectating fun _ => rfl
  have hwatched : game'.watchedId = game.watchedId := h.read_eq Game.watchedId fun _ => rfl
  unfold isOtherTeam
  rw [hlocal, hspectating, hwatched]
  cases hown : game.localId with
  | none => rfl
  | some own =>
      have hne : own ≠ i := by
        rintro rfl
        exact hview.own hown
      cases hseen : game.watchedId with
      | none =>
          simp only [h.slot_eq hne, isOtherTeamOfLocal, partedBySolo, h.slot_eq hid]
      | some watched =>
          have hne' : watched ≠ i := by
            rintro rfl
            exact hview.watchedId_ne hseen
          simp only [h.slot_eq hne, isOtherTeamOfWatched, h.slot_eq hid, h.slot_eq hne']

theorem SameBut.plateAlpha_eq (h : SameBut i game game') (hview : game.ViewedWithout i)
    (hid : id ≠ i) (settings : PlateSettings) (position : Point) (alpha : Float32) :
    game'.plateAlpha settings id position alpha = game.plateAlpha settings id position alpha := by
  have htarget : game'.targets.get game'.activeSeat = game.targets.get game.activeSeat :=
    h.read_eq (fun game => game.targets.get game.activeSeat) fun _ => rfl
  simp only [plateAlpha, htarget, h.isOtherTeam_eq hview hid]

theorem SameBut.reference?_eq (h : SameBut i game game') (hview : game.ViewedWithout i) :
    game'.reference? = game.reference? := by
  have hreference : game'.referenceId = game.referenceId := h.read_eq Game.referenceId fun _ => rfl
  unfold reference?
  rw [hreference]
  cases hid : game.referenceId with
  | none => rfl
  | some reference =>
      have hne : reference ≠ i := by
        rintro rfl
        exact hview.referenceId_ne hid
      simp only [Option.bind_some, h.getElem?_eq hne]

/-- Plates of other slots show the same in both games, or fail for the same id. -/
theorem SameBut.plateData_eq (h : SameBut i game game') (hview : game.ViewedWithout i)
    (hid : id ≠ i) (settings : PlateSettings) (position : Point) (alpha : Float32) (force : Bool) :
    game'.plateData settings id position alpha force =
      game.plateData settings id position alpha force := by
  have hname (slot : Slot) (alpha : Float32) :
      game'.namePart settings id slot position alpha =
        game.namePart settings id slot position alpha :=
    h.read_eq (fun game => game.namePart settings id slot position alpha) fun _ => rfl
  have harrows (slot : Slot) (data : PlateData) :
      game'.arrowPart settings id slot data = game.arrowPart settings id slot data :=
    h.read_eq (fun game => game.arrowPart settings id slot data) fun _ => rfl
  simp only [plateData, h.slot_eq hid, h.plateAlpha_eq hview hid, hname, harrows, hookPart, hookOf,
    h.reference?_eq hview]

end

end Game
end Overhead
