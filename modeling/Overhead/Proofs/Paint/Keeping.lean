import Mathlib.Order.Bounds.Basic
import Overhead.Paint.Painting
import Overhead.Proofs.Paint.TextStore
import Overhead.Proofs.Text.Cached
import Overhead.Proofs.Text.Holders

/-!
# Texts on a painting and on a recording canvas

A recording canvas gives every text a slot of its own and never uses a slot twice; a painting uses
slots again. Both keep what they promise, so their holders cannot tell them apart, and a painting
never has more slots than it once had texts.
-/

namespace Overhead

def ShapedText.container (shaped : ShapedText) : Container :=
  { text := shaped.text, fontSize := shaped.fontSize }

/-! ## The recording canvas -/

namespace Recording

/-- A recording canvas keeps its promises while shaping works. -/
def keeper : Keeper Recording where
  slots := Recording.containers
  Sound canvas := canvas.failShaping = false
  sound_release := by
    intro canvas handle hworks
    exact (congrArg Setting.failShaping (setting_release handle canvas)).trans hworks
  replaced_release := by
    intro canvas handle _
    exact replaced_iff_slots.mp (replaced_release handle canvas)
  isSome_shape := by
    intro canvas handle text fontSize hworks
    have hshaped := congrArg Option.isSome (map_fst_shape handle text fontSize canvas)
    rw [hworks, Bool.false_or, Option.isSome_map] at hshaped
    refine hshaped.trans ?_
    cases text.isEmpty <;> rfl
  sound_shape := by
    intro canvas handle text fontSize hworks _
    exact (congrArg Setting.failShaping (setting_shape handle text fontSize canvas)).trans hworks
  replaced_shape := by
    intro canvas handle text fontSize _ hvalid
    exact replaced_iff_slots.mp (replaced_shape text fontSize hvalid)

end Recording

/-! ## The painting -/

namespace Painting

theorem find_map_container (store : TextStore) (handle : TextHandle) :
    Slots.find (store.slots.map (·.map ShapedText.container)) handle =
      (store.find handle).map ShapedText.container :=
  Slots.find_map _ _ _

theorem isSome_find_of_view {painting : Painting} {handle : TextHandle}
    (h : handle.isSome →
      (Slots.find (painting.texts.slots.map (·.map ShapedText.container)) handle).isSome) :
    handle.isSome → (painting.texts.find handle).isSome := by
  intro hhandle
  have hfound := h hhandle
  rwa [find_map_container, Option.isSome_map] at hfound

theorem shape_of_isEmpty {text : String} (h : text.isEmpty) (handle : TextHandle)
    (fontSize : Float32) (painting : Painting) :
    painting.shape handle text fontSize =
      (none, { painting with texts := painting.texts.release handle }) :=
  if_pos h

theorem shape_of_not_isEmpty {text : String} (h : text.isEmpty = false) (handle : TextHandle)
    (fontSize : Float32) (painting : Painting) :
    painting.shape handle text fontSize =
      let kept := painting.texts.keep handle (painting.layOut text fontSize)
      (kept.1, { painting with texts := kept.2 }) :=
  if_neg (by simp [h])

/-- A painting keeps its promises while its store is exact. -/
def keeper : Keeper Painting where
  slots painting := painting.texts.slots.map (·.map ShapedText.container)
  Sound painting := painting.texts.Exact
  sound_release := by
    intro painting handle hexact
    exact hexact.release handle
  replaced_release := by
    intro painting handle _
    exact (TextStore.replaced_release handle painting.texts).map ShapedText.container
  isSome_shape := by
    intro painting handle text fontSize _
    show (painting.shape handle text fontSize).1.isSome = !text.isEmpty
    cases hempty : text.isEmpty with
    | true => simp [shape_of_isEmpty hempty]
    | false => simp [shape_of_not_isEmpty hempty, TextStore.isSome_fst_keep]
  sound_shape := by
    intro painting handle text fontSize hexact hvalid
    show (painting.shape handle text fontSize).2.texts.Exact
    cases hempty : text.isEmpty with
    | true =>
        rw [shape_of_isEmpty hempty]
        exact hexact.release handle
    | false =>
        rw [shape_of_not_isEmpty hempty]
        exact hexact.keep (isSome_find_of_view hvalid) _
  replaced_shape := by
    intro painting handle text fontSize hexact hvalid
    show Slots.Replaced handle (painting.shape handle text fontSize).1
      ((painting.shape handle text fontSize).1.map fun _ => Container.mk text fontSize) _
      ((painting.shape handle text fontSize).2.texts.slots.map (·.map ShapedText.container))
    cases hempty : text.isEmpty with
    | true =>
        rw [shape_of_isEmpty hempty]
        exact (TextStore.replaced_release handle painting.texts).map ShapedText.container
    | false =>
        let shaped := painting.layOut text fontSize
        have hsome := TextStore.isSome_fst_keep handle shaped painting.texts
        obtain ⟨index, hindex⟩ := Option.isSome_iff_exists.mp hsome
        have hkept := (TextStore.replaced_keep hexact (isSome_find_of_view hvalid) shaped).map
          ShapedText.container
        rw [shape_of_not_isEmpty hempty]
        rw [hindex] at hkept ⊢
        exact hkept

end Painting

namespace Holders

variable {n : Nat}

/-- The holders of a painting that keeps no text yet, after some calls. -/
def painted (painting : Painting) (calls : List (Call n)) : Holders n Painting :=
  (start n { painting with texts := {} }).calls calls

def recorded (canvas : Recording) (calls : List (Call n)) : Holders n Recording :=
  (start n { canvas with containers := #[], failShaping := false }).calls calls

theorem painted_serves (painting : Painting) (calls : List (Call n)) :
    Painting.keeper.Serves (painted painting calls) (askedFor calls) :=
  Keeper.Serves.calls TextStore.exact_empty Array.map_empty calls

theorem recorded_serves (canvas : Recording) (calls : List (Call n)) :
    Recording.keeper.Serves (recorded canvas calls) (askedFor calls) :=
  Keeper.Serves.calls rfl rfl calls

theorem live_painted (painting : Painting) (calls : List (Call n)) :
    (painted painting calls).canvas.texts.live =
      (List.finRange n).countP fun holder => (askedFor calls holder).isSome := by
  rw [← (painted_serves painting calls).served.countP_eq]
  simp [TextStore.live, Painting.keeper, Array.countP_map, Function.comp_def]

/-- Whatever the holders ask for, after every call the painting and the recording canvas agree: the
same handles are valid, behind a valid handle is the text its holder asked for last, no two valid
handles are the same, and as many texts are kept. -/
theorem paintings_keep_texts_as_recordings (painting : Painting) (canvas : Recording)
    (calls : List (Call n)) :
    let painted := painted painting calls
    let recorded := recorded canvas calls
    (∀ holder, (painted.handles holder).isSome = (recorded.handles holder).isSome) ∧
      (∀ holder, (recorded.handles holder).isSome → ∃ shaped,
        painted.canvas.texts.find (painted.handles holder) = some shaped ∧
          recorded.canvas.find (recorded.handles holder) =
            some { text := shaped.text, fontSize := shaped.fontSize } ∧
          askedFor calls holder =
            some { text := shaped.text, fontSize := shaped.fontSize }) ∧
      (∀ a b, a ≠ b → (painted.handles a).isSome → painted.handles a ≠ painted.handles b) ∧
      (∀ a b, a ≠ b → (recorded.handles a).isSome → recorded.handles a ≠ recorded.handles b) ∧
      painted.canvas.texts.live = recorded.canvas.live := by
  intro painted recorded
  have hpainted := (painted_serves painting calls).served
  have hrecorded := (recorded_serves canvas calls).served
  refine ⟨fun holder => ?_, fun holder hvalid => ?_, fun a b hne ha heq => ?_,
    fun a b hne ha heq => ?_, ?_⟩
  · rw [hpainted.isSome_eq holder, hrecorded.isSome_eq holder]
  · obtain ⟨content, hcontent⟩ := Option.isSome_iff_exists.mp (hrecorded.valid holder hvalid)
    have hfound : (painted.canvas.texts.find (painted.handles holder)).map ShapedText.container =
        some content := by
      rw [← Painting.find_map_container, ← hcontent]
      exact hpainted.find holder
    obtain ⟨shaped, hshaped, rfl⟩ := Option.map_eq_some_iff.mp hfound
    exact ⟨shaped, hshaped, (hrecorded.find holder).trans hcontent, hcontent⟩
  · exact hne (hpainted.distinct a b ha heq)
  · exact hne (hrecorded.distinct a b ha heq)
  · exact (live_painted painting calls).trans hrecorded.countP_eq.symm

/-! ## The slots of a painting -/

theorem size_slots_call {holders : Holders n Painting} {texts : Fin n → Option Container}
    (h : Painting.keeper.Serves holders texts) (call : Call n) :
    let later := (holders.call call).canvas.texts
    later.slots.size = max holders.canvas.texts.slots.size later.live := by
  have hexact : holders.canvas.texts.Exact := h.sound
  cases call with
  | release holder => exact TextStore.size_release _ _
  | shape holder text fontSize =>
      have hvalid : (holders.handles holder).isSome →
          (holders.canvas.texts.find (holders.handles holder)).isSome :=
        Painting.isSome_find_of_view h.served.isSome_find
      let shaped := holders.canvas.shape (holders.handles holder) text fontSize
      show shaped.2.texts.slots.size = max _ shaped.2.texts.live
      cases hempty : text.isEmpty with
      | true =>
          simp only [shaped, Painting.shape_of_isEmpty hempty]
          exact TextStore.size_release _ _
      | false =>
          simp only [shaped, Painting.shape_of_not_isEmpty hempty]
          exact hexact.size_keep hvalid _

/-- The numbers of texts that were kept at the start or after some of the calls. -/
def liveCounts (painting : Painting) (calls : List (Call n)) : Set Nat :=
  { count | ∃ earlier, earlier <+: calls ∧ count = (painted painting earlier).canvas.texts.live }

theorem liveCounts_concat (painting : Painting) (calls : List (Call n)) (last : Call n) :
    liveCounts painting (calls ++ [last]) =
      insert (painted painting (calls ++ [last])).canvas.texts.live
        (liveCounts painting calls) := by
  ext count
  simp only [liveCounts, Set.mem_ofPred_eq, Set.mem_insert_iff, List.prefix_concat_iff]
  constructor
  · rintro ⟨earlier, rfl | hearlier, rfl⟩
    · exact Or.inl rfl
    · exact Or.inr ⟨earlier, hearlier, rfl⟩
  · rintro (rfl | ⟨earlier, hearlier, rfl⟩)
    · exact ⟨_, Or.inl rfl, rfl⟩
    · exact ⟨earlier, Or.inr hearlier, rfl⟩

theorem painted_concat (painting : Painting) (calls : List (Call n)) (last : Call n) :
    painted painting (calls ++ [last]) = (painted painting calls).call last :=
  calls_append _ calls [last]

theorem isGreatest_size_slots (painting : Painting) (calls : List (Call n)) :
    IsGreatest (liveCounts painting calls) (painted painting calls).canvas.texts.slots.size := by
  induction calls using List.reverseRecOn with
  | nil =>
      refine ⟨⟨[], List.prefix_rfl, rfl⟩, ?_⟩
      rintro count ⟨earlier, hearlier, rfl⟩
      rw [List.prefix_nil.mp hearlier]
      exact Nat.le_refl _
  | append_singleton calls last ih =>
      -- The peak is the old one, or it is reached by the last call.
      have hstep := size_slots_call (painted_serves painting calls) last
      rw [← painted_concat] at hstep
      rw [liveCounts_concat, hstep, max_comm]
      exact ih.insert _

/-- Whatever the holders ask for, the free list names each empty slot once and nothing else, no
valid handle names a free slot, and there are as many slots as there ever were texts at the same
time: never more than holders. -/
theorem slots_are_free_or_were_needed (painting : Painting) (calls : List (Call n)) :
    let painted := painted painting calls
    let store := painted.canvas.texts
    store.free.Nodup ∧
      (∀ index, index ∈ store.free ↔ store.slots[index]? = some none) ∧
      (∀ index ∈ store.free, ∀ holder, painted.handles holder ≠ some index) ∧
      IsGreatest (liveCounts painting calls) store.slots.size ∧ store.slots.size ≤ n := by
  intro painted store
  have hserves := painted_serves painting calls
  have hexact : store.Exact := hserves.sound
  have hgreatest := isGreatest_size_slots painting calls
  refine ⟨hexact.nodup, hexact.mem_free, fun index hindex holder hhandle => ?_, hgreatest, ?_⟩
  · have hvalid : (painted.handles holder).isSome := by
      rw [hhandle]
      rfl
    have hfound : (store.find (some index)).isSome := by
      rw [← hhandle]
      exact Painting.isSome_find_of_view hserves.served.isSome_find hvalid
    have hempty := (hexact.mem_free index).mp hindex
    simp [TextStore.find, hempty] at hfound
  · obtain ⟨earlier, -, hsize⟩ := hgreatest.1
    calc
      store.slots.size =
          (List.finRange n).countP fun holder => (askedFor earlier holder).isSome := by
        rw [hsize, live_painted]
      _ ≤ (List.finRange n).length := List.countP_le_length
      _ = n := List.length_finRange

end Holders
end Overhead
