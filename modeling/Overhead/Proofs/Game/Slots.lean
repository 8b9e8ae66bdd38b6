import Overhead.Game.Basic

/-!
# Reading slots

What a slot holds after a change of one slot, or of the slot that an id names.
-/

namespace Overhead

theorem get_set {α : Type} {n : Nat} (items : Vector α n) (i j : Fin n) (item : α) :
    (items.set i item i.isLt).get j = if i = j then item else items.get j := by
  show (items.set i item i.isLt)[(j : Nat)] = if i = j then item else items[(j : Nat)]
  simp only [Vector.getElem_set, Fin.ext_iff]

namespace Game

theorem slot_fin (game : Game) (slot : Fin slotCount) :
    game.slot slot = .ok (game.slots.get slot) :=
  slot_eq_ok game slot.isLt

theorem modifySlot_eq (game : Game) (id : Nat) (change : Slot → Slot) :
    ∃ slots, game.modifySlot id change = { game with slots := slots } ∧
      ∀ slot : Fin slotCount, slots.get slot =
        if slot.val = id then change (game.slots.get slot) else game.slots.get slot := by
  unfold modifySlot
  by_cases hid : id < slotCount
  · rw [dif_pos hid]
    refine ⟨_, rfl, fun slot => ?_⟩
    have hset := get_set game.slots ⟨id, hid⟩ slot (change game.slots[id])
    rw [hset]
    by_cases hslot : slot.val = id
    · subst hslot
      simp only [if_true]
      rfl
    · have hne : (⟨id, hid⟩ : Fin slotCount) ≠ slot := fun h => hslot (congrArg Fin.val h.symm)
      rw [if_neg hne, if_neg hslot]
  · rw [dif_neg hid]
    refine ⟨game.slots, rfl, fun slot => ?_⟩
    have hslot : slot.val ≠ id := fun h => hid (h ▸ slot.isLt)
    rw [if_neg hslot]

end Game
end Overhead
