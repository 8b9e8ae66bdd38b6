import Mathlib.Data.List.Induction
import Mathlib.Logic.Function.Basic
import Overhead.Canvas.Recording
import Overhead.Proofs.Text.Slots

/-!
# Holders of handles

Some holders share a canvas. Each has a handle, invalid at first, and never looks at it: a handle
only goes to the canvas and comes back from it. A canvas keeps what it promises if the holders then
find behind their handles what they asked for last, and nothing else is kept.
-/

namespace Overhead

/-- The handles of so many holders, and the canvas they belong to. -/
structure Holders (n : Nat) (σ : Type) where
  handles : Fin n → TextHandle
  canvas : σ

namespace Holders

variable {n : Nat}

/-- What a holder may ask of the canvas. -/
inductive Call (n : Nat) where
  | shape (holder : Fin n) (text : String) (fontSize : Float32)
  | release (holder : Fin n)

def Call.holder : Call n → Fin n
  | .shape holder _ _ => holder
  | .release holder => holder

/-- What the canvas is to keep for the holder from now on. -/
def Call.content : Call n → Option Container
  | .shape _ text fontSize =>
      if text.isEmpty then none else some { text := text, fontSize := fontSize }
  | .release _ => none

/-- What every holder asked for last. -/
def askedFor (calls : List (Call n)) : Fin n → Option Container :=
  calls.foldl (fun asked call => Function.update asked call.holder call.content) fun _ => none

section

variable {σ : Type} [Canvas σ]

def start (n : Nat) (canvas : σ) : Holders n σ :=
  { handles := fun _ => none, canvas := canvas }

def call (holders : Holders n σ) : Call n → Holders n σ
  | .shape holder text fontSize =>
      let shaped := Canvas.shape (holders.handles holder) text fontSize holders.canvas
      { handles := Function.update holders.handles holder shaped.1, canvas := shaped.2 }
  | .release holder =>
      { handles := Function.update holders.handles holder none
        canvas := Canvas.release (holders.handles holder) holders.canvas }

/-- What the calls, one after the other, make of holders and canvas. -/
def calls (holders : Holders n σ) (calls : List (Call n)) : Holders n σ :=
  calls.foldl call holders

theorem calls_append (holders : Holders n σ) (first more : List (Call n)) :
    holders.calls (first ++ more) = (holders.calls first).calls more :=
  List.foldl_append

theorem calls_singleton (holders : Holders n σ) (last : Call n) :
    holders.calls [last] = holders.call last := rfl

end

theorem askedFor_concat (calls : List (Call n)) (last : Call n) :
    askedFor (calls ++ [last]) = Function.update (askedFor calls) last.holder last.content := by
  rw [askedFor, List.foldl_append]
  rfl

/-! ## Holders that are served -/

/-- Every holder finds its text behind its handle, no two share one, and no other slot is in use. -/
structure Served {α : Type} (slots : Array (Option α)) (handles : Fin n → TextHandle)
    (texts : Fin n → Option α) : Prop where
  find : ∀ holder, Slots.find slots (handles holder) = texts holder
  valid : ∀ holder, (handles holder).isSome → (texts holder).isSome
  distinct : ∀ a b, (handles a).isSome → handles a = handles b → a = b
  named : ∀ index, (Slots.find slots (some index)).isSome → ∃ holder, handles holder = some index

namespace Served

variable {α : Type} {slots later : Array (Option α)} {handles : Fin n → TextHandle}
  {texts : Fin n → Option α}

theorem start : Served (α := α) #[] (fun _ : Fin n => none) (fun _ => none) := by
  refine ⟨fun _ => rfl, fun _ h => h, fun _ _ h => ?_, fun index h => ?_⟩
  · cases h
  · simp [Slots.find] at h

/-- A handle is valid just when there is a text for it. -/
theorem isSome_eq (h : Served slots handles texts) (holder : Fin n) :
    (handles holder).isSome = (texts holder).isSome := by
  rw [Bool.eq_iff_iff]
  refine ⟨h.valid holder, fun htext => ?_⟩
  rw [← h.find holder] at htext
  cases hhandle : handles holder with
  | none =>
      rw [hhandle] at htext
      cases htext
  | some index => rfl

theorem isSome_find (h : Served slots handles texts) {holder : Fin n}
    (hvalid : (handles holder).isSome) : (Slots.find slots (handles holder)).isSome := by
  rw [h.find holder]
  exact h.valid holder hvalid

/-- One holder may get another text, under another handle or the same one. -/
theorem replace (h : Served slots handles texts) {holder : Fin n} {new : TextHandle}
    {content : Option α} (hnew : Slots.Replaced (handles holder) new content slots later)
    (hvalid : new.isSome → content.isSome) :
    Served later (Function.update handles holder new) (Function.update texts holder content) := by
  -- The handles of the others are neither the old one nor the new one, which named nothing.
  have hother : ∀ other, other ≠ holder → (handles other).isSome →
      handles other ≠ handles holder ∧ handles other ≠ new := by
    intro other hne hsome
    have hold : handles other ≠ handles holder := fun heq => hne (h.distinct _ _ hsome heq)
    refine ⟨hold, fun heq => ?_⟩
    have hfound := h.isSome_find hsome
    rw [heq, hnew.fresh (heq ▸ hold)] at hfound
    cases hfound
  refine ⟨fun other => ?_, fun other => ?_, fun a b ha hab => ?_, fun index hindex => ?_⟩
  · by_cases ho : other = holder
    · subst ho
      simpa using hnew.find_new
    · rw [Function.update_of_ne ho, Function.update_of_ne ho, ← h.find other]
      cases hhandle : handles other with
      | none => rfl
      | some index =>
          obtain ⟨hold, hne⟩ := hother other ho (by simp [hhandle])
          rw [hhandle] at hold hne
          exact hnew.find_other _ hold hne
  · by_cases ho : other = holder
    · subst ho
      simpa using hvalid
    · rw [Function.update_of_ne ho, Function.update_of_ne ho]
      exact h.valid other
  · by_cases hha : a = holder
    · by_cases hhb : b = holder
      · rw [hha, hhb]
      · subst hha
        rw [Function.update_self, Function.update_of_ne hhb] at hab
        rw [Function.update_self, hab] at ha
        exact absurd hab.symm (hother b hhb ha).2
    · rw [Function.update_of_ne hha] at ha hab
      by_cases hhb : b = holder
      · subst hhb
        rw [Function.update_self] at hab
        exact absurd hab (hother a hha ha).2
      · rw [Function.update_of_ne hhb] at hab
        exact h.distinct a b ha hab
  · by_cases hi : some index = new
    · exact ⟨holder, by rw [Function.update_self, hi]⟩
    · have hold : some index ≠ handles holder := by
        intro heq
        rw [heq, hnew.find_old (heq ▸ hi)] at hindex
        cases hindex
      rw [hnew.find_other _ hold hi] at hindex
      obtain ⟨other, hhandle⟩ := h.named index hindex
      have ho : other ≠ holder := by
        rintro rfl
        exact hold hhandle.symm
      exact ⟨other, by rw [Function.update_of_ne ho, hhandle]⟩

/-- As many slots are in use as there are texts. -/
theorem countP_eq (h : Served slots handles texts) :
    slots.countP (·.isSome) = (List.finRange n).countP fun holder => (texts holder).isSome := by
  have hnodup : ((List.finRange n).filterMap handles).Nodup := by
    rw [List.Nodup, List.pairwise_filterMap]
    refine (List.nodup_finRange n).imp ?_
    intro a b hab index ha other hb heq
    subst heq
    exact hab (h.distinct a b (by simp [ha]) (by rw [ha, hb]))
  have hperm : ((List.finRange n).filterMap handles).Perm (Slots.occupied slots) := by
    refine (List.perm_ext_iff_of_nodup hnodup (Slots.nodup_occupied slots)).mpr fun index => ?_
    rw [Slots.mem_occupied, List.mem_filterMap]
    constructor
    · rintro ⟨holder, -, hhandle⟩
      rw [← hhandle]
      exact h.isSome_find (by simp [hhandle])
    · intro hindex
      obtain ⟨holder, hhandle⟩ := h.named index hindex
      exact ⟨holder, List.mem_finRange holder, hhandle⟩
  calc
    slots.countP (·.isSome) = (Slots.occupied slots).length :=
      Slots.countP_eq_length_occupied slots
    _ = ((List.finRange n).filterMap handles).length := hperm.length_eq.symm
    _ = (List.finRange n).countP fun holder => (handles holder).isSome :=
      List.length_filterMap_eq_countP
    _ = _ := List.countP_congr fun holder _ => by rw [h.isSome_eq]

end Served

end Holders

/-! ## Canvases that keep what they promise -/

/-- A view of the slots of a canvas, under which shaping and releasing replace one text by another.
What a canvas needs for that may be more than its slots show. -/
structure Keeper (σ : Type) [Canvas σ] where
  slots : σ → Array (Option Container)
  Sound : σ → Prop
  sound_release : ∀ {canvas : σ} (handle : TextHandle), Sound canvas →
    Sound (Canvas.release handle canvas)
  replaced_release : ∀ {canvas : σ} (handle : TextHandle), Sound canvas →
    Slots.Replaced handle none none (slots canvas) (slots (Canvas.release handle canvas))
  isSome_shape : ∀ {canvas : σ} (handle : TextHandle) (text : String) (fontSize : Float32),
    Sound canvas → (Canvas.shape handle text fontSize canvas).1.isSome = !text.isEmpty
  sound_shape : ∀ {canvas : σ} {handle : TextHandle} (text : String) (fontSize : Float32),
    Sound canvas → (handle.isSome → (Slots.find (slots canvas) handle).isSome) →
      Sound (Canvas.shape handle text fontSize canvas).2
  replaced_shape : ∀ {canvas : σ} {handle : TextHandle} (text : String) (fontSize : Float32),
    Sound canvas → (handle.isSome → (Slots.find (slots canvas) handle).isSome) →
      let shaped := Canvas.shape handle text fontSize canvas
      Slots.Replaced handle shaped.1 (shaped.1.map fun _ => { text := text, fontSize := fontSize })
        (slots canvas) (slots shaped.2)

namespace Keeper

variable {σ : Type} [Canvas σ] {n : Nat}

structure Serves (keeper : Keeper σ) (holders : Holders n σ) (texts : Fin n → Option Container) :
    Prop where
  sound : keeper.Sound holders.canvas
  served : Holders.Served (keeper.slots holders.canvas) holders.handles texts

theorem Serves.start {keeper : Keeper σ} {canvas : σ} (hsound : keeper.Sound canvas)
    (hempty : keeper.slots canvas = #[]) :
    keeper.Serves (Holders.start n canvas) fun _ => none := by
  refine ⟨hsound, ?_⟩
  show Holders.Served (keeper.slots canvas) _ _
  rw [hempty]
  exact .start

theorem Serves.call {keeper : Keeper σ} {holders : Holders n σ} {texts : Fin n → Option Container}
    (h : keeper.Serves holders texts) (call : Holders.Call n) :
    keeper.Serves (holders.call call) (Function.update texts call.holder call.content) := by
  cases call with
  | release holder =>
      refine ⟨keeper.sound_release _ h.sound, ?_⟩
      exact h.served.replace (keeper.replaced_release _ h.sound) fun hvalid => hvalid
  | shape holder text fontSize =>
      have hvalid : (holders.handles holder).isSome →
          (Slots.find (keeper.slots holders.canvas) (holders.handles holder)).isSome :=
        h.served.isSome_find
      refine ⟨keeper.sound_shape text fontSize h.sound hvalid, ?_⟩
      have hsome := keeper.isSome_shape (holders.handles holder) text fontSize h.sound
      have hreplaced := keeper.replaced_shape text fontSize h.sound hvalid
      let shaped := Canvas.shape (holders.handles holder) text fontSize holders.canvas
      have hcontent : shaped.1.map (fun _ => Container.mk text fontSize) =
          (Holders.Call.shape holder text fontSize).content := by
        show _ = if text.isEmpty then none else some (Container.mk text fontSize)
        cases hhandle : shaped.1 <;> cases hempty : text.isEmpty <;> simp_all [shaped]
      have hserved := h.served.replace hreplaced fun hnew => by simpa using hnew
      rwa [hcontent] at hserved

/-- Whatever the holders ask for, they are served. -/
theorem Serves.calls {keeper : Keeper σ} {canvas : σ} (hsound : keeper.Sound canvas)
    (hempty : keeper.slots canvas = #[]) (calls : List (Holders.Call n)) :
    keeper.Serves ((Holders.start n canvas).calls calls) (Holders.askedFor calls) := by
  induction calls using List.reverseRecOn with
  | nil => exact .start hsound hempty
  | append_singleton calls last ih =>
      rw [Holders.calls_append, Holders.calls_singleton, Holders.askedFor_concat]
      exact ih.call last

end Keeper
end Overhead
