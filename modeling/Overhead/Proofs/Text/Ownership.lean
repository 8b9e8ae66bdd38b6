import Mathlib.Data.List.Basic
import Overhead.Proofs.Text.Record
import Overhead.Text.Cached

/-!
# Who owns which text

Whoever holds a valid handle owns the text behind it. Texts own a canvas together when their handles
are distinct, each names just the text its holder remembers, and the canvas keeps no other text. An
operation on one text is told beside any others: it hands the one over and leaves the rest alone.
-/

namespace Overhead

/-- What a canvas keeps for a cached text. -/
def CachedText.container? (cached : CachedText) : Option Container :=
  cached.handle.map fun _ => { text := cached.text, fontSize := cached.fontSize }

namespace Recording

def handles (texts : List CachedText) : List Nat :=
  texts.filterMap (·.handle)

/-- The texts share a canvas out among themselves. -/
structure Owns (texts : List CachedText) (canvas : Recording) : Prop where
  distinct : (handles texts).Nodup
  kept : ∀ cached ∈ texts, canvas.find cached.handle = cached.container?
  named : ∀ index, (canvas.find (some index)).isSome → index ∈ handles texts

/-! ## Handles -/

theorem handles_cons (cached : CachedText) (texts : List CachedText) :
    handles (cached :: texts) = cached.handle.toList ++ handles texts := by
  cases h : cached.handle <;> simp [handles, h]

theorem handles_append (texts more : List CachedText) :
    handles (texts ++ more) = handles texts ++ handles more :=
  List.filterMap_append

theorem mem_handles {texts : List CachedText} {index : Nat} :
    index ∈ handles texts ↔ ∃ cached ∈ texts, cached.handle = some index :=
  List.mem_filterMap

theorem length_handles_le (texts : List CachedText) : (handles texts).length ≤ texts.length :=
  List.length_filterMap_le _ _

/-! ## Owners -/

namespace Owns

variable {texts more rest : List CachedText} {canvas later : Recording}

theorem perm (h : Owns texts canvas) (hperm : texts.Perm more) : Owns more canvas := by
  have hhandles : (handles texts).Perm (handles more) := hperm.filterMap _
  refine ⟨hhandles.nodup_iff.mp h.distinct, fun cached hc => ?_, fun index hi => ?_⟩
  · exact h.kept cached (hperm.mem_iff.mpr hc)
  · exact hhandles.mem_iff.mp (h.named index hi)

theorem congr (h : Owns texts canvas) (hlater : later.containers = canvas.containers) :
    Owns texts later := by
  refine ⟨h.distinct, fun cached hc => ?_, fun index hi => ?_⟩
  · rw [find_congr hlater, h.kept cached hc]
  · exact h.named index (by rwa [find_congr hlater] at hi)

/-- Texts without a valid handle own nothing. -/
theorem append_iff (h : handles texts = []) : Owns (texts ++ rest) canvas ↔ Owns rest canvas := by
  have hhandles : handles (texts ++ rest) = handles rest := by
    rw [handles_append, h, List.nil_append]
  constructor
  · intro ho
    refine ⟨?_, fun cached hc => ho.kept cached (List.mem_append_right _ hc), ?_⟩
    · rw [← hhandles]
      exact ho.distinct
    · rw [← hhandles]
      exact ho.named
  · intro ho
    refine ⟨?_, fun cached hc => ?_, ?_⟩
    · rw [hhandles]
      exact ho.distinct
    · rcases List.mem_append.mp hc with hc | hc
      · have hnone : cached.handle = none := List.filterMap_eq_nil_iff.mp h cached hc
        simp [CachedText.container?, hnone]
      · exact ho.kept cached hc
    · rw [hhandles]
      exact ho.named

theorem isSome_find {cached : CachedText} (h : Owns texts canvas) (hc : cached ∈ texts)
    (hvalid : cached.handle.isSome) : (canvas.find cached.handle).isSome := by
  rw [h.kept cached hc, CachedText.container?, Option.isSome_map]
  exact hvalid

/-- An owner may replace its text by another one. -/
theorem replace {old new : CachedText} (h : Owns (old :: rest) canvas)
    (hnew : Replaced old.handle new.handle new.container? canvas later) :
    Owns (new :: rest) later := by
  have hdistinct := h.distinct
  rw [handles_cons] at hdistinct
  have hrest : ∀ index ∈ handles rest, some index ≠ old.handle ∧ some index ≠ new.handle := by
    intro index hi
    have hold : some index ≠ old.handle := by
      intro heq
      exact (List.nodup_append.mp hdistinct).2.2 index (by simp [← heq]) index hi rfl
    refine ⟨hold, fun heq => ?_⟩
    -- A new handle named nothing, but the handles of the others do name something.
    obtain ⟨cached, hc, hhandle⟩ := mem_handles.mp hi
    have hsome := h.isSome_find (List.mem_cons_of_mem _ hc) (by simp [hhandle])
    rw [hhandle, heq, hnew.fresh (heq ▸ hold)] at hsome
    cases hsome
  refine ⟨?_, fun cached hc => ?_, fun index hi => ?_⟩
  · rw [handles_cons]
    refine List.nodup_append.mpr ⟨?_, (List.nodup_append.mp hdistinct).2.1, ?_⟩
    · cases new.handle <;> simp
    · rintro index hi _ hi' rfl
      exact (hrest index hi').2 (Option.mem_toList.mp hi).symm
  · rcases List.mem_cons.mp hc with rfl | hc
    · exact hnew.find_new
    · have hkept := h.kept cached (List.mem_cons_of_mem _ hc)
      cases hhandle : cached.handle with
      | none => simp [CachedText.container?, hhandle]
      | some index =>
          obtain ⟨hold, hne⟩ := hrest index (mem_handles.mpr ⟨cached, hc, hhandle⟩)
          rw [hnew.find_other _ hold hne, ← hhandle, hkept]
  · rw [handles_cons]
    by_cases heq : some index = new.handle
    · simp [← heq]
    · refine List.mem_append_right _ ?_
      have hold : some index ≠ old.handle := by
        intro heq'
        rw [heq', hnew.find_old (heq' ▸ heq)] at hi
        cases hi
      rw [hnew.find_other _ hold heq] at hi
      have hmem := h.named index hi
      rw [handles_cons] at hmem
      rcases List.mem_append.mp hmem with hmem | hmem
      · exact (hold (Option.mem_toList.mp hmem).symm).elim
      · exact hmem

end Owns

/-! ## All texts of a canvas -/

def occupiedIndices (canvas : Recording) : List Nat :=
  (canvas.containers.toList.zipIdx.filter (·.1.isSome)).map Prod.snd

theorem mem_occupiedIndices {canvas : Recording} {index : Nat} :
    index ∈ canvas.occupiedIndices ↔ (canvas.find (some index)).isSome :=
  Slots.mem_occupied

theorem nodup_occupiedIndices (canvas : Recording) : canvas.occupiedIndices.Nodup :=
  Slots.nodup_occupied canvas.containers

theorem live_eq (canvas : Recording) : canvas.live = canvas.occupiedIndices.length :=
  Slots.countP_eq_length_occupied canvas.containers

/-- The texts that are kept are those of the owners. -/
theorem Owns.handles_perm {texts : List CachedText} {canvas : Recording} (h : Owns texts canvas) :
    (handles texts).Perm canvas.occupiedIndices := by
  refine (List.perm_ext_iff_of_nodup h.distinct (nodup_occupiedIndices canvas)).mpr ?_
  intro index
  rw [mem_occupiedIndices]
  refine ⟨fun hi => ?_, h.named index⟩
  obtain ⟨cached, hc, hhandle⟩ := mem_handles.mp hi
  rw [← hhandle]
  exact h.isSome_find hc (by simp [hhandle])

theorem Owns.live_eq {texts : List CachedText} {canvas : Recording} (h : Owns texts canvas) :
    canvas.live = (handles texts).length := by
  rw [Recording.live_eq, h.handles_perm.length_eq]

/-- What a canvas keeps has been asked for: by holders who remember it. -/
theorem exists_holders {canvas : Recording} {indices : List Nat}
    (h : ∀ index ∈ indices, (canvas.find (some index)).isSome) :
    ∃ holders, handles holders = indices ∧
      ∀ cached ∈ holders, canvas.find cached.handle = cached.container? := by
  induction indices with
  | nil => exact ⟨[], rfl, fun cached hc => by cases hc⟩
  | cons index indices ih =>
      obtain ⟨holders, hholders, hkept⟩ := ih fun other ho => h other (List.mem_cons_of_mem _ ho)
      obtain ⟨content, hcontent⟩ := Option.isSome_iff_exists.mp (h index List.mem_cons_self)
      let holder : CachedText :=
        { handle := some index, text := content.text, fontSize := content.fontSize }
      refine ⟨holder :: holders, ?_, fun cached hc => ?_⟩
      · rw [handles_cons, hholders]
        rfl
      · rcases List.mem_cons.mp hc with rfl | hc
        · exact hcontent
        · exact hkept cached hc

/-- Texts that a canvas keeps under distinct handles own it, beside those who asked for the rest. -/
theorem exists_owns_beside {texts : List CachedText} {canvas : Recording}
    (hdistinct : (handles texts).Nodup)
    (hkept : ∀ cached ∈ texts, canvas.find cached.handle = cached.container?) :
    ∃ rest, Owns (texts ++ rest) canvas := by
  let others := canvas.occupiedIndices.filter (· ∉ handles texts)
  have hothers : ∀ index ∈ others, (canvas.find (some index)).isSome := fun index hi =>
    mem_occupiedIndices.mp (List.mem_filter.mp hi).1
  obtain ⟨rest, hrest, hkept'⟩ := exists_holders hothers
  have hhandles : handles (texts ++ rest) = handles texts ++ others := by
    rw [handles_append, hrest]
  refine ⟨rest, ?_, fun cached hc => ?_, fun index hi => ?_⟩
  · rw [hhandles]
    refine List.nodup_append.mpr ⟨hdistinct, (nodup_occupiedIndices canvas).filter _, ?_⟩
    rintro index hi _ hi' rfl
    exact (of_decide_eq_true (List.mem_filter.mp hi').2) hi
  · rcases List.mem_append.mp hc with hc | hc
    · exact hkept cached hc
    · exact hkept' cached hc
  · rw [hhandles]
    by_cases hmem : index ∈ handles texts
    · exact List.mem_append_left _ hmem
    · refine List.mem_append_right _ (List.mem_filter.mpr ⟨mem_occupiedIndices.mpr hi, ?_⟩)
      exact decide_eq_true hmem

/-- Every canvas has owners: those who once asked for what it keeps. -/
theorem exists_owns (canvas : Recording) : ∃ texts, Owns texts canvas := by
  have hnone : (handles []).Nodup := List.nodup_nil
  exact exists_owns_beside hnone fun cached hc => by cases hc

/-! ## From one state to the next -/

/-- On the way to a later state, `added` was recorded and the setting was kept; afterwards the texts
belong to `owners`. -/
structure Yields (added : Record) (owners : List CachedText) (canvas later : Recording) : Prop where
  record : later.record = canvas.record ++ added
  setting : later.setting = canvas.setting
  owns : Owns owners later

namespace Yields

variable {added more : Record} {owners owners' : List CachedText} {canvas middle later : Recording}

theorem refl (h : Owns owners canvas) : Yields .nothing owners canvas canvas :=
  ⟨(Record.append_nothing _).symm, rfl, h⟩

theorem trans (h : Yields added owners canvas middle) (h' : Yields more owners' middle later) :
    Yields (added ++ more) owners' canvas later := by
  refine ⟨?_, ?_, h'.owns⟩
  · rw [h'.record, h.record, Record.append_assoc]
  · rw [h'.setting, h.setting]

theorem perm (h : Yields added owners canvas later) (hperm : owners.Perm owners') :
    Yields added owners' canvas later :=
  ⟨h.record, h.setting, h.owns.perm hperm⟩

/-- What is recorded and nothing else leaves the texts where they are. -/
theorem of_containers (h : Owns owners canvas) (hrecord : later.record = canvas.record ++ added)
    (hsetting : later.setting = canvas.setting) (hlater : later.containers = canvas.containers) :
    Yields added owners canvas later :=
  ⟨hrecord, hsetting, h.congr hlater⟩

end Yields

end Recording
end Overhead
