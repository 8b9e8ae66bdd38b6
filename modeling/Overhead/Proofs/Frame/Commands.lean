import Mathlib.Data.List.Forall2
import Mathlib.Data.List.Perm.Basic
import Overhead.Frame.Preview
import Overhead.Frame.Plates
import Overhead.Proofs.Game.Slots
import Overhead.Proofs.Plate.Orders

/-!
# What the plates of a frame do

A frame and a reset are commands to single plates, carried out one after the other; a preview is two
orders to a plate of its own. So each of them is told by the plates, up to the numbers of handles,
and by the setting.
-/

namespace Overhead

open Recording

namespace Plates

structure Command where
  slot : Fin slotCount
  order : Plate.Order

section

variable {σ : Type} [Canvas σ]

def obey (state : Plates × σ) (command : Command) : Plates × σ :=
  let (plate, canvas) := (state.1.slots.get command.slot).obey command.order state.2
  ({ slots := state.1.slots.set command.slot plate command.slot.isLt }, canvas)

def carryOut (commands : List Command) (state : Plates × σ) : Plates × σ :=
  commands.foldl obey state

end

def resetCommands : List Command :=
  (List.finRange slotCount).map fun slot => { slot := slot, order := .reset }

def drawCommand (game : Game) (settings : PlateSettings) (sighting : Sighting) :
    Except MissingSlot Command :=
  (sighting.data game settings).map fun data => { slot := sighting.slot, order := .render data }

def frameCommands (game : Game) (settings : PlateSettings) (screen : Area Float32) :
    Except MissingSlot (List Command) :=
  (Sighting.all game settings screen).mapM (drawCommand game settings)

/-! ## Frames and resets as commands -/

section

variable {σ : Type} [Canvas σ]

theorem reset_eq (plates : Plates) (canvas : σ) :
    plates.reset canvas = carryOut resetCommands (plates, canvas) := by
  rw [carryOut, resetCommands, List.foldl_map]
  rfl

theorem foldlM_drawSighting (game : Game) (settings : PlateSettings) (sightings : List Sighting)
    (state : Plates × σ) :
    sightings.foldlM (drawSighting game settings) state =
      (sightings.mapM (drawCommand game settings)).map fun commands => carryOut commands state := by
  induction sightings generalizing state with
  | nil => rfl
  | cons sighting sightings ih =>
      rw [List.foldlM_cons, List.mapM_cons]
      cases hdata : sighting.data game settings with
      | error missing => simp [drawSighting, drawCommand, hdata, bind, Except.bind, Except.map]
      | ok data =>
          have hstep : drawSighting game settings state sighting =
              .ok (obey state { slot := sighting.slot, order := .render data }) := by
            simp [drawSighting, hdata, bind, Except.bind, pure, Except.pure]
            rfl
          have hcommand : drawCommand game settings sighting =
              .ok { slot := sighting.slot, order := .render data } := by
            rw [drawCommand, hdata]
            rfl
          rw [hstep, hcommand]
          show sightings.foldlM _ _ = _
          rw [ih]
          cases sightings.mapM (drawCommand game settings) <;> rfl

theorem mapM_eq_ok {α β ε : Type} {f : α → Except ε β} {items : List α} {results : List β} :
    items.mapM f = .ok results ↔
      List.Forall₂ (fun item result => f item = .ok result) items results := by
  induction items generalizing results with
  | nil =>
      rw [List.mapM_nil, List.forall₂_nil_left_iff]
      exact ⟨fun h => (Except.ok.inj h).symm, fun h => congrArg Except.ok h.symm⟩
  | cons item items ih =>
      rw [List.mapM_cons, List.forall₂_cons_left_iff]
      cases hitem : f item with
      | error e => simp [bind, Except.bind]
      | ok first =>
          cases hitems : items.mapM f with
          | error e => simp [hitems, bind, Except.bind, ← ih]
          | ok rest =>
              simp [hitems, bind, Except.bind, pure, Except.pure, ← ih, eq_comm]

/-- Every result comes from an item, and there are as many of them. -/
theorem results_of_mapM {α β ε : Type} {f : α → Except ε β} {items : List α} {results : List β}
    (h : items.mapM f = .ok results) :
    results.length = items.length ∧ ∀ result ∈ results, ∃ item ∈ items, f item = .ok result := by
  have hpairs := mapM_eq_ok.mp h
  refine ⟨hpairs.length_eq.symm, fun result hresult => ?_⟩
  obtain ⟨index, hindex, rfl⟩ := List.mem_iff_getElem.mp hresult
  have hitem : index < items.length := by rwa [hpairs.length_eq]
  exact ⟨items[index], List.getElem_mem hitem, hpairs.get hitem hindex⟩

theorem exists_mapM_eq_ok {α β ε : Type} {f : α → Except ε β} {items : List α} :
    (∃ results, items.mapM f = .ok results) ↔ ∀ item ∈ items, ∃ result, f item = .ok result := by
  constructor
  · rintro ⟨results, h⟩ item hitem
    have hpairs := mapM_eq_ok.mp h
    obtain ⟨index, hindex, rfl⟩ := List.mem_iff_getElem.mp hitem
    have hresult : index < results.length := by rwa [← hpairs.length_eq]
    exact ⟨results[index], hpairs.get hindex hresult⟩
  · intro h
    induction items with
    | nil => exact ⟨[], rfl⟩
    | cons item items ih =>
        obtain ⟨result, hresult⟩ := h item List.mem_cons_self
        obtain ⟨results, hresults⟩ := ih fun other hother => h other (List.mem_cons_of_mem _ hother)
        exact ⟨result :: results, mapM_eq_ok.mpr (.cons hresult (mapM_eq_ok.mp hresults))⟩

/-- What fails for all items together fails for one of them. -/
theorem exists_of_mapM_eq_error {α β ε : Type} {f : α → Except ε β} {items : List α} {e : ε}
    (h : items.mapM f = .error e) : ∃ item ∈ items, f item = .error e := by
  induction items with
  | nil => cases h
  | cons item items ih =>
      rw [List.mapM_cons] at h
      cases hitem : f item with
      | error first =>
          simp [hitem, bind, Except.bind] at h
          exact ⟨item, List.mem_cons_self, by rw [hitem, h]⟩
      | ok result =>
          cases hitems : items.mapM f with
          | ok rest => simp [hitem, hitems, bind, Except.bind, pure, Except.pure] at h
          | error later =>
              simp [hitem, hitems, bind, Except.bind] at h
              obtain ⟨other, hother, hfails⟩ := ih (by rw [hitems, h])
              exact ⟨other, List.mem_cons_of_mem _ hother, hfails⟩

/-- A frame draws as many plates as it has commands. -/
theorem draw_eq (plates : Plates) (game : Game) (settings : PlateSettings) (canvas : σ) :
    plates.draw game settings canvas =
      (frameCommands game settings (Canvas.screen canvas)).map fun commands =>
        (commands.length, carryOut commands (plates, canvas)) := by
  unfold draw
  simp only [foldlM_drawSighting]
  cases hcommands : frameCommands game settings (Canvas.screen canvas) with
  | error missing =>
      rw [frameCommands] at hcommands
      rw [hcommands]
      rfl
  | ok commands =>
      have hlength := (results_of_mapM hcommands).1
      rw [frameCommands] at hcommands
      rw [hcommands, ← hlength]
      rfl

theorem draw_eq_ok {plates : Plates} {game : Game} {settings : PlateSettings} {canvas : σ}
    {drawn : Nat × Plates × σ} :
    plates.draw game settings canvas = .ok drawn ↔
      ∃ commands, frameCommands game settings (Canvas.screen canvas) = .ok commands ∧
        drawn = (commands.length, carryOut commands (plates, canvas)) := by
  rw [draw_eq]
  cases frameCommands game settings (Canvas.screen canvas) with
  | error missing => simp [Except.map]
  | ok commands => simp [Except.map, eq_comm]

end

/-! ## Slots -/

/-- A slot whose plate was never drawn. -/
theorem get_new (slot : Fin slotCount) : ({} : Plates).slots.get slot = {} :=
  Vector.getElem_replicate slot.isLt

/-! ## Plates up to the numbers of handles -/

def texts (plates : Plates) : List CachedText :=
  plates.slots.toList.flatMap Plate.texts

def renumber (number : Nat → Nat) (plates : Plates) : Plates :=
  { slots := plates.slots.map (Plate.renumber number) }

def anonymous (plates : Plates) : Plates :=
  { slots := plates.slots.map Plate.anonymous }

def obeyed (fails : Bool) (plates : Plates) (command : Command) : Plates :=
  { slots := plates.slots.set command.slot
      ((plates.slots.get command.slot).obeyed fails command.order) command.slot.isLt }

def carriedOut (fails : Bool) (commands : List Command) (plates : Plates) : Plates :=
  commands.foldl (obeyed fails) plates

/-- What commands ask of the canvas. -/
def asks (setting : Setting) (plates : Plates) : List Command → Record
  | [] => .nothing
  | command :: commands =>
      (plates.slots.get command.slot).asks setting command.order ++
        asks setting (plates.obeyed setting.failShaping command) commands

/-- The texts of all plates but one. -/
def otherTexts (plates : Plates) (slot : Fin slotCount) : List CachedText :=
  (plates.slots.toList.eraseIdx slot).flatMap Plate.texts

theorem texts_perm (plates : Plates) (slot : Fin slotCount) :
    plates.texts.Perm ((plates.slots.get slot).texts ++ plates.otherTexts slot) := by
  have hlength : (slot : Nat) < plates.slots.toList.length := by simp
  exact (List.getElem_cons_eraseIdx_perm hlength).symm.flatMap_right _

theorem texts_set_perm (plates : Plates) (slot : Fin slotCount) (plate : Plate) :
    ({ slots := plates.slots.set slot plate slot.isLt } : Plates).texts.Perm
      (plate.texts ++ plates.otherTexts slot) := by
  have hset := texts_perm { slots := plates.slots.set slot plate slot.isLt } slot
  rw [get_set, if_pos rfl] at hset
  simpa [otherTexts, Vector.toList_set, List.eraseIdx_set_eq] using hset

section

variable (number : Nat → Nat) (plates : Plates)

@[simp] theorem get_renumber (slot : Fin slotCount) :
    (plates.renumber number).slots.get slot = (plates.slots.get slot).renumber number :=
  Vector.getElem_map _ slot.isLt

theorem texts_renumber :
    (plates.renumber number).texts = plates.texts.map (CachedText.renumber number) := by
  simp [texts, renumber, Vector.toList_map, List.flatMap_map, List.map_flatMap,
    Plate.texts_renumber]

theorem handles_texts_renumber :
    handles (plates.renumber number).texts = (handles plates.texts).map number := by
  rw [texts_renumber, CachedText.handles_map_renumber]

theorem renumber_set (slot : Fin slotCount) (plate : Plate) :
    ({ slots := plates.slots.set slot plate slot.isLt } : Plates).renumber number =
      { slots := (plates.renumber number).slots.set slot (plate.renumber number) slot.isLt } := by
  simp [renumber, Vector.map_set]

end

@[simp] theorem get_anonymous (plates : Plates) (slot : Fin slotCount) :
    plates.anonymous.slots.get slot = (plates.slots.get slot).anonymous :=
  get_renumber _ plates slot

theorem texts_anonymous (plates : Plates) :
    plates.anonymous.texts = plates.texts.map CachedText.anonymous :=
  texts_renumber _ plates

theorem anonymous_set (plates : Plates) (slot : Fin slotCount) (plate : Plate) :
    ({ slots := plates.slots.set slot plate slot.isLt } : Plates).anonymous =
      { slots := plates.anonymous.slots.set slot plate.anonymous slot.isLt } :=
  renumber_set _ plates slot plate

/-! ## One command after the other -/

section

variable {plates : Plates} {rest : List CachedText} {canvas : Recording}

theorem obey_yields (h : Owns (plates.texts ++ rest) canvas) (command : Command) :
    let next := obey (plates, canvas) command
    next.1.anonymous = plates.anonymous.obeyed canvas.failShaping command ∧
      Yields ((plates.anonymous.slots.get command.slot).asks canvas.setting command.order)
        (next.1.texts ++ rest) canvas next.2 := by
  intro next
  -- The texts of the other plates are among those that the order leaves alone.
  have howns := h.perm ((texts_perm plates command.slot).append_right rest)
  rw [List.append_assoc] at howns
  obtain ⟨hplate, hyields⟩ := Plate.obey_yields howns command.order
  let obeyed := (plates.slots.get command.slot).obey command.order canvas
  have hnext : next =
      ({ slots := plates.slots.set command.slot obeyed.1 command.slot.isLt }, obeyed.2) := rfl
  rw [hnext, get_anonymous]
  constructor
  · rw [anonymous_set, hplate, Plates.obeyed, get_anonymous]
  · have hperm := (texts_set_perm plates command.slot obeyed.1).append_right rest
    rw [List.append_assoc] at hperm
    exact hyields.perm hperm.symm

theorem failShaping_obey (h : Owns (plates.texts ++ rest) canvas) (command : Command) :
    (obey (plates, canvas) command).2.failShaping = canvas.failShaping :=
  congrArg Setting.failShaping (obey_yields h command).2.setting

/-- Commands are told by the plates, by the commands and by the setting. -/
theorem carryOut_yields (h : Owns (plates.texts ++ rest) canvas) (commands : List Command) :
    let next := carryOut commands (plates, canvas)
    next.1.anonymous = plates.anonymous.carriedOut canvas.failShaping commands ∧
      Yields (plates.anonymous.asks canvas.setting commands) (next.1.texts ++ rest) canvas
        next.2 := by
  induction commands generalizing plates canvas with
  | nil => exact ⟨rfl, .refl h⟩
  | cons command commands ih =>
      intro next
      obtain ⟨hplates, hyields⟩ := obey_yields h command
      obtain ⟨hnext, hyields'⟩ := ih hyields.owns
      have hfails := failShaping_obey h command
      rw [hyields.setting, hplates] at hyields'
      rw [hplates, hfails] at hnext
      exact ⟨hnext, hyields.trans hyields'⟩

end

/-! ## Resets -/

theorem handles_texts_eq_nil {plates : Plates}
    (h : ∀ slot : Fin slotCount, handles (plates.slots.get slot).texts = []) :
    handles plates.texts = [] := by
  refine List.filterMap_eq_nil_iff.mpr fun cached hcached => ?_
  obtain ⟨plate, hplate, hcached⟩ := List.mem_flatMap.mp hcached
  obtain ⟨slot, hslot, rfl⟩ := Vector.mem_iff_getElem.mp (Vector.mem_toList_iff.mp hplate)
  exact List.filterMap_eq_nil_iff.mp (h ⟨slot, hslot⟩) cached hcached

theorem handles_texts_new : handles ({} : Plates).texts = [] :=
  handles_texts_eq_nil fun slot => by
    rw [get_new]
    rfl

theorem get_obeyed (fails : Bool) (plates : Plates) (command : Command)
    (slot : Fin slotCount) :
    (plates.obeyed fails command).slots.get slot =
      if command.slot = slot then (plates.slots.get slot).obeyed fails command.order
      else plates.slots.get slot := by
  rw [obeyed, get_set]
  by_cases hslot : command.slot = slot
  · rw [if_pos hslot, if_pos hslot, hslot]
  · rw [if_neg hslot, if_neg hslot]

/-- A reset leaves no text behind. -/
theorem handles_texts_carriedOut_reset (fails : Bool) (plates : Plates) :
    handles (plates.carriedOut fails resetCommands).texts = [] := by
  let resets (slots : List (Fin slotCount)) : List Command :=
    slots.map fun slot => { slot := slot, order := .reset }
  have hslots : ∀ (slots : List (Fin slotCount)) (plates : Plates) (slot : Fin slotCount),
      slot ∈ slots ∨ handles (plates.slots.get slot).texts = [] →
        handles ((plates.carriedOut fails (resets slots)).slots.get slot).texts = [] := by
    intro slots
    induction slots with
    | nil =>
        intro plates slot h
        exact h.resolve_left List.not_mem_nil
    | cons first slots ih =>
        intro plates slot h
        refine ih (plates.obeyed fails { slot := first, order := .reset }) slot ?_
        rw [get_obeyed]
        by_cases hslot : first = slot
        · right
          rw [if_pos hslot]
          exact Plate.handles_texts_cleared _
        · rw [if_neg hslot]
          exact h.imp_left fun hmem => (List.mem_cons.mp hmem).resolve_left (Ne.symm hslot)
  exact handles_texts_eq_nil fun slot => hslots _ plates slot (Or.inl (List.mem_finRange slot))

/-- What a reset makes of plates does not depend on the canvas. -/
theorem fst_reset {σ : Type} [Canvas σ] (plates : Plates) (canvas : σ) (fails : Bool) :
    (plates.reset canvas).1 = plates.carriedOut fails resetCommands := by
  have hslots : ∀ (slots : List (Fin slotCount)) (plates : Plates) (canvas : σ),
      (slots.foldl resetSlot (plates, canvas)).1 =
        plates.carriedOut fails (slots.map fun slot => { slot := slot, order := .reset }) := by
    intro slots
    induction slots with
    | nil => exact fun plates canvas => rfl
    | cons slot slots ih =>
        intro plates canvas
        have hfirst : (resetSlot (plates, canvas) slot).1 =
            plates.obeyed fails { slot := slot, order := .reset } := by
          simp only [resetSlot, obeyed, Plate.fst_reset, Plate.obeyed]
        have hstep : resetSlot (plates, canvas) slot =
            (plates.obeyed fails { slot := slot, order := .reset },
              (resetSlot (plates, canvas) slot).2) := Prod.ext hfirst rfl
        rw [List.foldl_cons, hstep]
        exact ih _ _
  exact hslots _ plates canvas

theorem handles_texts_reset {σ : Type} [Canvas σ] (plates : Plates) (canvas : σ) :
    handles (plates.reset canvas).1.texts = [] := by
  rw [fst_reset plates canvas false]
  exact handles_texts_carriedOut_reset false plates

end Plates

/-! ## Previews -/

namespace Preview

/-- What a preview asks of the canvas. -/
def asks (settings : PlateSettings) (profile : Profile) (position : Point) (dummy : Nat)
    (setting : Setting) : Record :=
  let data := Preview.data settings profile position dummy
  ({} : Plate).asks setting (.render data) ++
    (({} : Plate).updated data setting.failShaping).asks setting .reset

/-- A preview gives back every text it shaped, so the texts belong to those they belonged to. -/
theorem draw_yields {owners : List CachedText} {canvas : Recording} (h : Owns owners canvas)
    (settings : PlateSettings) (profile : Profile) (position : Point) (dummy : Nat) :
    Yields (asks settings profile position dummy canvas.setting) owners canvas
      (draw settings profile position dummy canvas) := by
  let data := Preview.data settings profile position dummy
  let drawn := ({} : Plate).obey (.render data) canvas
  have hempty : Owns (({} : Plate).texts ++ owners) canvas := h
  obtain ⟨hdrawn, hrender⟩ : drawn.1.anonymous = ({} : Plate).updated data canvas.failShaping ∧
      Yields (({} : Plate).asks canvas.setting (.render data)) (drawn.1.texts ++ owners) canvas
        drawn.2 := Plate.obey_yields hempty (.render data)
  obtain ⟨-, hreset⟩ := Plate.obey_yields hrender.owns .reset
  rw [hrender.setting, hdrawn] at hreset
  have hcleared : (drawn.1.reset drawn.2).1 = drawn.1.cleared := Plate.fst_reset drawn.1 drawn.2
  have hall := hrender.trans hreset
  have howns : Owns (drawn.1.cleared.texts ++ owners) (drawn.1.reset drawn.2).2 := by
    rw [← hcleared]
    exact hall.owns
  refine ⟨hall.record, hall.setting, ?_⟩
  exact (Owns.append_iff (Plate.handles_texts_cleared _)).mp howns

end Preview
end Overhead
