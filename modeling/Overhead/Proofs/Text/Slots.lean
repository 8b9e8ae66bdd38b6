import Mathlib.Data.List.Basic
import Overhead.Canvas

/-!
# Slots

A canvas keeps its texts in slots, and a valid handle names a slot by its index. A slot is written
over, emptied, filled again or added at the end; seen through handles, each of these is a text that
gives way to another one.
-/

namespace Overhead
namespace Slots

variable {α : Type}

def find (slots : Array (Option α)) (handle : TextHandle) : Option α :=
  handle.bind fun index => (slots[index]?).bind id

@[simp] theorem find_none (slots : Array (Option α)) : find slots none = none := rfl

theorem find_eq_some {slots : Array (Option α)} {index : Nat} {content : α} :
    find slots (some index) = some content ↔ slots[index]? = some (some content) := by
  simp [find, Option.bind_eq_some_iff]

theorem isSome_find {slots : Array (Option α)} {index : Nat} :
    (find slots (some index)).isSome ↔ ∃ content, slots[index]? = some (some content) := by
  simp only [Option.isSome_iff_exists, find_eq_some]

theorem lt_size_of_find {slots : Array (Option α)} {index : Nat}
    (h : (find slots (some index)).isSome) : index < slots.size := by
  obtain ⟨content, hcontent⟩ := isSome_find.mp h
  exact (Array.getElem?_eq_some_iff.mp hcontent).choose

theorem find_map {β : Type} (change : α → β) (slots : Array (Option α)) (handle : TextHandle) :
    find (slots.map (·.map change)) handle = (find slots handle).map change := by
  cases handle with
  | none => rfl
  | some index => cases h : slots[index]? <;> simp [find, h]

theorem find_setIfInBounds {slots : Array (Option α)} {index : Nat} (h : index < slots.size)
    (content : Option α) (handle : TextHandle) :
    find (slots.setIfInBounds index content) handle =
      if handle = some index then content else find slots handle := by
  cases handle with
  | none => simp
  | some other =>
      by_cases ho : other = index
      · subst ho
        simp [find, h]
      · simp [find, ho, Array.getElem?_setIfInBounds_ne (Ne.symm ho)]

/-- A slot that is emptied may not even be there. -/
theorem find_clear (slots : Array (Option α)) (index : Nat) (handle : TextHandle) :
    find (slots.setIfInBounds index none) handle =
      if handle = some index then none else find slots handle := by
  by_cases h : index < slots.size
  · exact find_setIfInBounds h none handle
  · have hout : slots.size ≤ index := Nat.le_of_not_lt h
    have hnone : find slots (some index) = none := by
      simp [find, Array.getElem?_eq_none hout]
    rw [Array.setIfInBounds_eq_of_size_le hout]
    by_cases hindex : handle = some index
    · rw [if_pos hindex, hindex, hnone]
    · rw [if_neg hindex]

theorem find_push (slots : Array (Option α)) (content : Option α) (handle : TextHandle) :
    find (slots.push content) handle =
      if handle = some slots.size then content else find slots handle := by
  cases handle with
  | none => simp
  | some other => by_cases ho : other = slots.size <;> simp [find, Array.getElem?_push, ho]

/-! ## The slots that are in use -/

def occupied (slots : Array (Option α)) : List Nat :=
  (slots.toList.zipIdx.filter (·.1.isSome)).map Prod.snd

theorem mem_occupied {slots : Array (Option α)} {index : Nat} :
    index ∈ occupied slots ↔ (find slots (some index)).isSome := by
  simp only [occupied, List.mem_map, List.mem_filter, List.mem_zipIdx_iff_getElem?,
    Array.getElem?_toList, isSome_find]
  constructor
  · rintro ⟨⟨content, index⟩, ⟨hindex, hsome⟩, rfl⟩
    obtain ⟨kept, rfl⟩ := Option.isSome_iff_exists.mp hsome
    exact ⟨kept, hindex⟩
  · rintro ⟨content, hindex⟩
    exact ⟨(some content, index), ⟨hindex, rfl⟩, rfl⟩

theorem nodup_occupied (slots : Array (Option α)) : (occupied slots).Nodup := by
  refine List.Nodup.sublist (List.filter_sublist.map Prod.snd) ?_
  rw [List.zipIdx_map_snd]
  exact List.nodup_range'

theorem countP_eq_length_occupied (slots : Array (Option α)) :
    slots.countP (·.isSome) = (occupied slots).length := by
  have hfst : slots.toList = slots.toList.zipIdx.map Prod.fst := by
    simp
  calc
    slots.countP (·.isSome) = slots.toList.countP (·.isSome) := Array.countP_toList.symm
    _ = slots.toList.zipIdx.countP (·.1.isSome) := by
      conv => lhs; rw [hfst]
      rw [List.countP_map]
      rfl
    _ = (occupied slots).length := by
      rw [occupied, List.length_map, List.countP_eq_length_filter]

/-! ## One text in the place of another -/

/-- The text behind a handle gave way to a text behind another. The new handle is the old one, or it
named nothing before. -/
structure Replaced (old new : TextHandle) (content : Option α)
    (slots later : Array (Option α)) : Prop where
  find_new : find later new = content
  find_old : old ≠ new → find later old = none
  find_other : ∀ handle, handle ≠ old → handle ≠ new → find later handle = find slots handle
  fresh : new ≠ old → find slots new = none

/-- Writing over a slot keeps its handle. -/
theorem replaced_overwrite {slots : Array (Option α)} {index : Nat} (h : index < slots.size)
    (content : Option α) :
    Replaced (some index) (some index) content slots (slots.setIfInBounds index content) := by
  have hfind := find_setIfInBounds h content
  exact ⟨(hfind _).trans (if_pos rfl), fun hne => (hne rfl).elim,
    fun other ho _ => (hfind other).trans (if_neg ho), fun hne => (hne rfl).elim⟩

theorem replaced_clear (slots : Array (Option α)) (index : Nat) :
    Replaced (some index) none none slots (slots.setIfInBounds index none) := by
  have hfind := find_clear slots index
  exact ⟨rfl, fun _ => (hfind _).trans (if_pos rfl),
    fun other ho _ => (hfind other).trans (if_neg ho), fun _ => rfl⟩

/-- An empty slot may be filled for a handle that named none. -/
theorem replaced_fill {slots : Array (Option α)} {index : Nat} (h : slots[index]? = some none)
    (content : Option α) :
    Replaced none (some index) content slots (slots.setIfInBounds index content) := by
  have hlt : index < slots.size := (Array.getElem?_eq_some_iff.mp h).choose
  have hfind := find_setIfInBounds hlt content
  exact ⟨(hfind _).trans (if_pos rfl), fun _ => rfl,
    fun other _ ho => (hfind other).trans (if_neg ho), fun _ => by simp [find, h]⟩

theorem replaced_push (slots : Array (Option α)) (content : Option α) :
    Replaced none (some slots.size) content slots (slots.push content) := by
  have hfind := find_push slots content
  exact ⟨(hfind _).trans (if_pos rfl), fun _ => rfl,
    fun other _ ho => (hfind other).trans (if_neg ho), fun _ => by simp [find]⟩

theorem Replaced.map {β : Type} {old new : TextHandle} {content : Option α}
    {slots later : Array (Option α)} (h : Replaced old new content slots later) (change : α → β) :
    Replaced old new (content.map change) (slots.map (·.map change))
      (later.map (·.map change)) := by
  refine ⟨?_, fun hne => ?_, fun handle hold hnew => ?_, fun hne => ?_⟩
  · rw [find_map, h.find_new]
  · rw [find_map, h.find_old hne]
    rfl
  · rw [find_map, find_map, h.find_other handle hold hnew]
  · rw [find_map, h.fresh hne]
    rfl

end Slots
end Overhead
