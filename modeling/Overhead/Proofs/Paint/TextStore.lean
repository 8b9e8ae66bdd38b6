import Overhead.Paint.TextStore
import Overhead.Proofs.Text.Slots

/-!
# The slots of a text store

A store is exact when its free list names each empty slot once and nothing else. Keeping and giving
back texts leaves it exact, as long as no valid handle names an empty slot: to write over such a
slot would leave it in the free list.
-/

namespace Overhead
namespace TextStore

structure Exact (store : TextStore) : Prop where
  nodup : store.free.Nodup
  mem_free : ∀ index, index ∈ store.free ↔ store.slots[index]? = some none

theorem exact_empty : ({} : TextStore).Exact := by
  refine ⟨List.nodup_nil, fun index => ?_⟩
  simp

section

variable {store : TextStore} {handle : TextHandle}

/-! ## What happens to the slots -/

/-- A text is written over the old one, fills the slot that was given back last, or needs a new slot
because none is free. -/
theorem keep_cases (h : store.Exact) (hvalid : handle.isSome → (store.find handle).isSome)
    (text : ShapedText) :
    (∃ index, handle = some index ∧ (∃ old, store.slots[index]? = some (some old)) ∧
        store.keep handle text =
          (some index, { store with slots := store.slots.setIfInBounds index (some text) })) ∨
      (∃ index rest, handle = none ∧ store.free = index :: rest ∧
        store.slots[index]? = some none ∧
        store.keep handle text =
          (some index,
            { slots := store.slots.setIfInBounds index (some text), free := rest })) ∨
      handle = none ∧ store.free = [] ∧
        store.keep handle text =
          (some store.slots.size, { store with slots := store.slots.push (some text) }) := by
  cases handle with
  | some index =>
      have hfound : (Slots.find store.slots (some index)).isSome := hvalid rfl
      have hlt := Slots.lt_size_of_find hfound
      exact Or.inl ⟨index, rfl, Slots.isSome_find.mp hfound, by simp [keep, hlt]⟩
  | none =>
      cases hfree : store.free with
      | nil => exact Or.inr (Or.inr ⟨rfl, rfl, by simp [keep, add, hfree]⟩)
      | cons index rest =>
          have hempty : store.slots[index]? = some none :=
            (h.mem_free index).mp (by simp [hfree])
          exact Or.inr (Or.inl ⟨index, rest, rfl, rfl, hempty, by simp [keep, add, hfree]⟩)

/-- A handle that names no text is ignored, and the slot of any other one is emptied. -/
theorem release_cases (handle : TextHandle) (store : TextStore) :
    (store.find handle = none ∧ store.release handle = store) ∨
      ∃ index old, handle = some index ∧ store.slots[index]? = some (some old) ∧
        store.release handle =
          { slots := store.slots.setIfInBounds index none, free := index :: store.free } := by
  cases handle with
  | none => exact Or.inl ⟨rfl, rfl⟩
  | some index =>
      cases hfind : store.find (some index) with
      | none => exact Or.inl ⟨rfl, by simp [release, hfind]⟩
      | some old =>
          have hold : store.slots[index]? = some (some old) := Slots.find_eq_some.mp hfind
          exact Or.inr ⟨index, old, rfl, hold, by simp [release, hfind]⟩

theorem replaced_keep (h : store.Exact) (hvalid : handle.isSome → (store.find handle).isSome)
    (text : ShapedText) :
    Slots.Replaced handle (store.keep handle text).1 (some text) store.slots
      (store.keep handle text).2.slots := by
  obtain ⟨index, rfl, ⟨old, hold⟩, hkeep⟩ | ⟨index, rest, rfl, -, hempty, hkeep⟩ |
    ⟨rfl, -, hkeep⟩ := keep_cases h hvalid text
  · rw [hkeep]
    exact Slots.replaced_overwrite (Array.getElem?_eq_some_iff.mp hold).choose _
  · rw [hkeep]
    exact Slots.replaced_fill hempty _
  · rw [hkeep]
    exact Slots.replaced_push _ _

theorem isSome_fst_keep (handle : TextHandle) (text : ShapedText) (store : TextStore) :
    (store.keep handle text).1.isSome := by
  have hadd : (store.add text).1.isSome := by
    unfold add
    split <;> rfl
  cases handle with
  | none => exact hadd
  | some index =>
      unfold keep
      dsimp only
      split
      · rfl
      · exact hadd

theorem replaced_release (handle : TextHandle) (store : TextStore) :
    Slots.Replaced handle none none store.slots (store.release handle).slots := by
  obtain ⟨hnone, hrelease⟩ | ⟨index, old, rfl, -, hrelease⟩ := release_cases handle store
  · rw [hrelease]
    exact ⟨rfl, fun _ => hnone, fun _ _ _ => rfl, fun _ => rfl⟩
  · rw [hrelease]
    exact Slots.replaced_clear store.slots index

/-! ## What happens to the free list -/

theorem Exact.keep (h : store.Exact) (hvalid : handle.isSome → (store.find handle).isSome)
    (text : ShapedText) : (store.keep handle text).2.Exact := by
  obtain ⟨index, rfl, ⟨old, hold⟩, hkeep⟩ | ⟨index, rest, rfl, hfree, hempty, hkeep⟩ |
    ⟨rfl, hfree, hkeep⟩ := keep_cases h hvalid text
  · have hlt := (Array.getElem?_eq_some_iff.mp hold).choose
    rw [hkeep]
    refine ⟨h.nodup, fun other => ?_⟩
    rw [h.mem_free, Array.getElem?_setIfInBounds]
    by_cases ho : index = other
    · subst ho
      rw [hold, if_pos rfl, if_pos hlt]
      simp
    · rw [if_neg ho]
  · have hlt := (Array.getElem?_eq_some_iff.mp hempty).choose
    have hnodup := h.nodup
    rw [hfree, List.nodup_cons] at hnodup
    rw [hkeep]
    refine ⟨hnodup.2, fun other => ?_⟩
    have hmem := h.mem_free other
    rw [hfree, List.mem_cons] at hmem
    rw [Array.getElem?_setIfInBounds]
    by_cases ho : index = other
    · subst ho
      simp [hlt, hnodup.1]
    · rw [if_neg ho, ← hmem]
      simp [Ne.symm ho]
  · rw [hkeep]
    refine ⟨h.nodup, fun other => ?_⟩
    rw [h.mem_free, Array.getElem?_push]
    by_cases ho : other = store.slots.size
    · simp [ho]
    · rw [if_neg ho]

theorem Exact.release (h : store.Exact) (handle : TextHandle) :
    (store.release handle).Exact := by
  obtain ⟨-, hrelease⟩ | ⟨index, old, rfl, hold, hrelease⟩ := release_cases handle store
  · rwa [hrelease]
  · have hlt := (Array.getElem?_eq_some_iff.mp hold).choose
    have hnew : index ∉ store.free := by
      rw [h.mem_free, hold]
      simp
    rw [hrelease]
    refine ⟨List.nodup_cons.mpr ⟨hnew, h.nodup⟩, fun other => ?_⟩
    rw [List.mem_cons, h.mem_free, Array.getElem?_setIfInBounds]
    by_cases ho : index = other
    · subst ho
      simp [hlt]
    · rw [if_neg ho]
      simp [Ne.symm ho]

/-! ## How many slots there are -/

theorem live_le_size (store : TextStore) : store.live ≤ store.slots.size :=
  Array.countP_le_size

theorem Exact.live_eq_size (h : store.Exact) (hfull : store.free = []) :
    store.live = store.slots.size := by
  refine Array.countP_eq_size.mpr fun content hcontent => ?_
  obtain ⟨index, hindex⟩ := Array.mem_iff_getElem?.mp hcontent
  cases content with
  | some text => rfl
  | none =>
      have hmem := (h.mem_free index).mpr hindex
      rw [hfull] at hmem
      cases hmem

/-- There are as many slots as before, or as many as there are texts now. -/
theorem Exact.size_keep (h : store.Exact) (hvalid : handle.isSome → (store.find handle).isSome)
    (text : ShapedText) :
    (store.keep handle text).2.slots.size =
      max store.slots.size (store.keep handle text).2.live := by
  have hlive := live_le_size (store.keep handle text).2
  obtain ⟨index, -, -, hkeep⟩ | ⟨index, rest, -, -, -, hkeep⟩ | ⟨-, hfree, hkeep⟩ :=
    keep_cases h hvalid text
  · rw [hkeep] at hlive ⊢
    rw [Array.size_setIfInBounds] at hlive ⊢
    omega
  · rw [hkeep] at hlive ⊢
    rw [Array.size_setIfInBounds] at hlive ⊢
    omega
  · have hfull := h.live_eq_size hfree
    have hpush : (store.keep handle text).2.live = store.live + 1 := by
      simp [hkeep, live]
    rw [hpush, hkeep, Array.size_push]
    omega

theorem size_release (handle : TextHandle) (store : TextStore) :
    (store.release handle).slots.size = max store.slots.size (store.release handle).live := by
  have hlive := live_le_size (store.release handle)
  have hsize : (store.release handle).slots.size = store.slots.size := by
    obtain ⟨-, hrelease⟩ | ⟨index, old, -, -, hrelease⟩ := release_cases handle store
    · rw [hrelease]
    · rw [hrelease, Array.size_setIfInBounds]
  omega

end

end TextStore
end Overhead
