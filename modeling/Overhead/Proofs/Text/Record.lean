import Overhead.Canvas.Recording
import Overhead.Proofs.Text.Slots

/-!
# What a recording canvas remembers

A recording canvas has three sides: a record of everything asked of it, which only grows; the texts
it keeps, which come and go; and a setting, which an operation may change for a while. Here every
operation is told by what it does to each of the three.
-/

namespace Overhead
namespace Recording

/-! ## The record -/

/-- Shapings, releases, flags and drawings, in the order they were asked for. -/
structure Record where
  shapedOn : List (Area Float32) := []
  releases : Nat := 0
  flags : List RenderFlags := []
  texts : List DrawnText := []
  sprites : List DrawnSprite := []

namespace Record

def nothing : Record :=
  {}

def append (a b : Record) : Record :=
  { shapedOn := a.shapedOn ++ b.shapedOn
    releases := a.releases + b.releases
    flags := a.flags ++ b.flags
    texts := a.texts ++ b.texts
    sprites := a.sprites ++ b.sprites }

instance : Append Record := ⟨append⟩

@[simp] theorem shapedOn_append (a b : Record) :
    (a ++ b).shapedOn = a.shapedOn ++ b.shapedOn := rfl

@[simp] theorem releases_append (a b : Record) :
    (a ++ b).releases = a.releases + b.releases := rfl

@[simp] theorem flags_append (a b : Record) : (a ++ b).flags = a.flags ++ b.flags := rfl

@[simp] theorem texts_append (a b : Record) : (a ++ b).texts = a.texts ++ b.texts := rfl

@[simp] theorem sprites_append (a b : Record) : (a ++ b).sprites = a.sprites ++ b.sprites := rfl

theorem append_assoc (a b c : Record) : a ++ b ++ c = a ++ (b ++ c) := by
  show Record.mk .. = Record.mk ..
  simp [List.append_assoc, Nat.add_assoc]

@[simp] theorem append_nothing (a : Record) : a ++ nothing = a := by
  show Record.mk .. = a
  simp [nothing]

def concat : List Record → Record
  | [] => nothing
  | record :: records => record ++ concat records

@[simp] theorem concat_nil : concat [] = nothing := rfl

@[simp] theorem concat_cons (record : Record) (records : List Record) :
    concat (record :: records) = record ++ concat records := rfl

end Record

def record (canvas : Recording) : Record :=
  { shapedOn := canvas.shapedOn.toList
    releases := canvas.releases
    flags := canvas.flags.toList
    texts := canvas.texts.toList
    sprites := canvas.sprites.toList }

/-- What a canvas reports is what its record grew by. -/
theorem since_eq {earlier canvas : Recording} {added : Record}
    (h : canvas.record = earlier.record ++ added) :
    earlier.since canvas =
      { shapedOn := added.shapedOn
        releases := added.releases
        live := canvas.live
        flags := added.flags
        screen := canvas.screen
        texts := added.texts
        sprites := added.sprites } := by
  have hshaped : canvas.shapedOn.toList = earlier.shapedOn.toList ++ added.shapedOn :=
    congrArg Record.shapedOn h
  have hreleases : canvas.releases = earlier.releases + added.releases :=
    congrArg Record.releases h
  have hflags : canvas.flags.toList = earlier.flags.toList ++ added.flags :=
    congrArg Record.flags h
  have htexts : canvas.texts.toList = earlier.texts.toList ++ added.texts :=
    congrArg Record.texts h
  have hsprites : canvas.sprites.toList = earlier.sprites.toList ++ added.sprites :=
    congrArg Record.sprites h
  simp [since, hshaped, hreleases, hflags, htexts, hsprites]

/-! ## The setting -/

/-- The screens, and whether shaping fails. -/
structure Setting where
  screen : Area Float32
  interface : Area Float32
  failShaping : Bool

def setting (canvas : Recording) : Setting :=
  { screen := canvas.screen, interface := canvas.interface, failShaping := canvas.failShaping }

/-! ## The texts that are kept -/

@[simp] theorem find_none (canvas : Recording) : canvas.find none = none := rfl

theorem find_congr {canvas later : Recording} (h : later.containers = canvas.containers)
    (handle : TextHandle) : later.find handle = canvas.find handle := by
  simp [find, h]

/-- From one state to the next, the text behind a handle gave way to a text behind another. The new
handle is the old one, or it named nothing before. -/
structure Replaced (old new : TextHandle) (content : Option Container)
    (canvas later : Recording) : Prop where
  find_new : later.find new = content
  find_old : old ≠ new → later.find old = none
  find_other : ∀ handle, handle ≠ old → handle ≠ new → later.find handle = canvas.find handle
  fresh : new ≠ old → canvas.find new = none

theorem Replaced.refl {handle : TextHandle} {content : Option Container} {canvas : Recording}
    (h : canvas.find handle = content) : Replaced handle handle content canvas canvas :=
  ⟨h, fun hne => (hne rfl).elim, fun _ _ _ => rfl, fun hne => (hne rfl).elim⟩

theorem Replaced.congr {old new : TextHandle} {content : Option Container}
    {canvas canvas' later later' : Recording} (h : Replaced old new content canvas later)
    (hcanvas : canvas'.containers = canvas.containers)
    (hlater : later'.containers = later.containers) :
    Replaced old new content canvas' later' := by
  refine ⟨?_, fun hne => ?_, fun handle hold hnew => ?_, fun hne => ?_⟩
  · rw [find_congr hlater, h.find_new]
  · rw [find_congr hlater, h.find_old hne]
  · rw [find_congr hlater, find_congr hcanvas, h.find_other handle hold hnew]
  · rw [find_congr hcanvas, h.fresh hne]

/-- A text that is released first may give way to a new one. -/
theorem Replaced.trans_none {old new : TextHandle} {content : Option Container}
    {canvas middle later : Recording} (h : Replaced old none none canvas middle)
    (h' : Replaced none new content middle later) : Replaced old new content canvas later := by
  have hother : ∀ handle, handle ≠ old → middle.find handle = canvas.find handle := by
    intro handle hne
    cases handle with
    | none => rfl
    | some index => exact h.find_other _ hne (by simp)
  refine ⟨h'.find_new, fun hne => ?_, fun handle hold hnew => ?_, fun hne => ?_⟩
  · cases old with
    | none => rfl
    | some index => rw [h'.find_other _ (by simp) hne, h.find_old (by simp)]
  · cases handle with
    | none => rfl
    | some index => rw [h'.find_other _ (by simp) hnew, hother _ hold]
  · cases new with
    | none => rfl
    | some index => rw [← hother _ hne, h'.fresh (by simp)]

theorem replaced_iff_slots {old new : TextHandle} {content : Option Container}
    {canvas later : Recording} :
    Replaced old new content canvas later ↔
      Slots.Replaced old new content canvas.containers later.containers := by
  constructor
  · intro h
    exact ⟨h.find_new, h.find_old, h.find_other, h.fresh⟩
  · intro h
    exact ⟨h.find_new, h.find_old, h.find_other, h.fresh⟩

theorem replaced_release (handle : TextHandle) (canvas : Recording) :
    Replaced handle none none canvas (canvas.release handle) := by
  cases handle with
  | none => exact Replaced.refl rfl
  | some index => exact replaced_iff_slots.mpr (Slots.replaced_clear canvas.containers index)

theorem replaced_keep (canvas : Recording) {handle : TextHandle} (container : Container)
    (h : handle.isSome → (canvas.find handle).isSome) :
    Replaced handle (canvas.keep handle container).1 (some container) canvas
      (canvas.keep handle container).2 := by
  cases handle with
  | some index =>
      have hlt : index < canvas.containers.size := Slots.lt_size_of_find (h rfl)
      exact replaced_iff_slots.mpr (Slots.replaced_overwrite hlt (some container))
  | none =>
      exact replaced_iff_slots.mpr (Slots.replaced_push canvas.containers (some container))

/-- A shaping that fails, or of an empty text, releases what was there. -/
theorem replaced_shape {handle : TextHandle} {canvas : Recording} (text : String)
    (fontSize : Float32) (h : handle.isSome → (canvas.find handle).isSome) :
    let shaped := canvas.shape handle text fontSize
    Replaced handle shaped.1 (shaped.1.map fun _ => { text := text, fontSize := fontSize })
      canvas shaped.2 := by
  intro shaped
  by_cases hfails : canvas.failShaping || text.isEmpty
  · have hshaped : shaped = (none, canvas.noteShaping.release handle) := if_pos hfails
    rw [hshaped]
    exact (replaced_release handle canvas.noteShaping).congr rfl rfl
  · have hshaped : shaped = canvas.noteShaping.keep handle ⟨text, fontSize⟩ := if_neg hfails
    have hkeep : Replaced handle (canvas.noteShaping.keep handle ⟨text, fontSize⟩).1
        (some ⟨text, fontSize⟩) canvas (canvas.noteShaping.keep handle ⟨text, fontSize⟩).2 :=
      (replaced_keep canvas.noteShaping ⟨text, fontSize⟩ h).congr rfl rfl
    have hvalid : (canvas.noteShaping.keep handle ⟨text, fontSize⟩).1.isSome := by
      cases handle <;> rfl
    rw [hshaped]
    obtain ⟨index, hindex⟩ := Option.isSome_iff_exists.mp hvalid
    simpa [hindex] using hkeep

end Recording
end Overhead
