import Overhead.Plate.Basic
import Overhead.Proofs.Plate.Parts

/-!
# What a plate does

A plate is asked to render or to give its texts back. Up to the numbers of handles, what becomes of
the plate and what it asks of the canvas are functions of the plate, the order and the setting.
-/

namespace Overhead

open Recording

namespace Plate

/-- What a plate may be asked. -/
inductive Order where
  | render (data : PlateData)
  | reset

def obey {σ : Type} [Canvas σ] (plate : Plate) (order : Order) (canvas : σ) : Plate × σ :=
  match order with
  | .render data => plate.render data canvas
  | .reset => plate.reset canvas

/-! ## Plates up to the numbers of handles -/

def texts (plate : Plate) : List CachedText :=
  plate.parts.flatMap Part.texts

def renumber (number : Nat → Nat) (plate : Plate) : Plate :=
  { plate with parts := plate.parts.map (Part.renumber number) }

def anonymous (plate : Plate) : Plate :=
  { plate with parts := plate.parts.map Part.anonymous }

def updated (plate : Plate) (data : PlateData) (fails : Bool) : Plate :=
  ofParts (plate.partsOrTemplate.map (·.updated data fails)) data.position

/-- What an update asks of the canvas. -/
def shaping (plate : Plate) (data : PlateData) (setting : Setting) : Record :=
  .concat (plate.partsOrTemplate.map (·.shaping data setting))

def placementDrawing (parts : List Part) (placement : Placement Float32) : Record :=
  match parts[placement.index]? with
  | some part => part.drawing placement.position
  | none => .nothing

/-- What drawing the placements asks of the canvas. -/
def drawing (plate : Plate) : Record :=
  .concat (plate.placements.map (placementDrawing plate.parts))

def cleared (plate : Plate) : Plate :=
  { plate with parts := plate.parts.map Part.cleared }

def obeyed (plate : Plate) (fails : Bool) : Order → Plate
  | .render data => plate.updated data fails
  | .reset => plate.cleared

/-- What an order asks of the canvas. -/
def asks (plate : Plate) (setting : Setting) : Order → Record
  | .render data =>
      { flags := [RenderFlags.plate data.inGame] } ++ plate.shaping data setting ++
        (plate.updated data setting.failShaping).drawing ++ { flags := [RenderFlags.none] }
  | .reset => releasing plate.texts

/-! ## One part after the other -/

theorem fst_resetParts {σ : Type} [Canvas σ] (parts : List Part) (canvas : σ) :
    (resetParts parts canvas).1 = parts.map Part.cleared := by
  induction parts generalizing canvas with
  | nil => rfl
  | cons part parts ih =>
      rw [List.map_cons, ← Part.fst_reset part canvas, ← ih (part.reset canvas).2]
      rfl

theorem fst_reset {σ : Type} [Canvas σ] (plate : Plate) (canvas : σ) :
    (plate.reset canvas).1 = plate.cleared :=
  congrArg (fun parts => { plate with parts := parts }) (fst_resetParts plate.parts canvas)

section

variable {rest : List CachedText} {canvas : Recording}

theorem updateParts_yields {parts : List Part}
    (h : Owns (parts.flatMap Part.texts ++ rest) canvas) (data : PlateData) :
    let updated := updateParts data parts canvas
    updated.1.map Part.anonymous =
        (parts.map Part.anonymous).map (·.updated data canvas.failShaping) ∧
      Yields (.concat ((parts.map Part.anonymous).map (·.shaping data canvas.setting)))
        (updated.1.flatMap Part.texts ++ rest) canvas updated.2 := by
  induction parts generalizing rest canvas with
  | nil => exact ⟨rfl, .refl h⟩
  | cons part parts ih =>
      intro updated
      rw [List.flatMap_cons, List.append_assoc] at h
      obtain ⟨hpart, hyields⟩ := Part.update_yields h data
      -- The texts of the later parts come to the front, and those of this part join the rest.
      have howns := hyields.owns.perm (List.perm_append_comm_assoc _ _ _)
      obtain ⟨hparts, hyields'⟩ := ih howns
      have hfails : (part.update data canvas).2.failShaping = canvas.failShaping :=
        congrArg Setting.failShaping hyields.setting
      have hupdated : updated =
          ((part.update data canvas).1 :: (updateParts data parts (part.update data canvas).2).1,
            (updateParts data parts (part.update data canvas).2).2) := rfl
      rw [hupdated]
      constructor
      · rw [List.map_cons, hpart, hparts, hfails]
        rfl
      · rw [hyields.setting] at hyields'
        have hall := (hyields.trans hyields').perm (List.perm_append_comm_assoc _ _ _)
        rwa [List.flatMap_cons, List.append_assoc]

theorem resetParts_yields {parts : List Part}
    (h : Owns (parts.flatMap Part.texts ++ rest) canvas) :
    Yields (releasing (parts.flatMap Part.texts))
      ((parts.map Part.cleared).flatMap Part.texts ++ rest) canvas (resetParts parts canvas).2 := by
  induction parts generalizing rest canvas with
  | nil => exact .refl h
  | cons part parts ih =>
      rw [List.flatMap_cons, List.append_assoc] at h
      have hyields := Part.reset_yields h
      have howns := hyields.owns.perm (List.perm_append_comm_assoc _ _ _)
      have hall := (hyields.trans (ih howns)).perm (List.perm_append_comm_assoc _ _ _)
      rwa [List.map_cons, List.flatMap_cons, List.flatMap_cons, List.append_assoc,
        releasing_append]

end

/-! ## The whole plate -/

section

variable (number : Nat → Nat) (plate : Plate)

theorem partsOrTemplate_renumber :
    (plate.renumber number).partsOrTemplate = plate.partsOrTemplate.map (Part.renumber number) := by
  cases hparts : plate.parts with
  | nil =>
      have htemplate : template.map (Part.renumber number) = template := rfl
      simp [renumber, partsOrTemplate, hparts, htemplate]
  | cons part parts => simp [renumber, partsOrTemplate, hparts]

/-- Layout and placements do not see the numbers of handles. -/
theorem renumber_ofParts (parts : List Part) (position : Point) :
    (ofParts parts position).renumber number =
      ofParts (parts.map (Part.renumber number)) position := by
  simp [ofParts, renumber, Function.comp_def]

theorem texts_renumber :
    (plate.renumber number).texts = plate.texts.map (CachedText.renumber number) := by
  simp [texts, renumber, List.flatMap_map, List.map_flatMap, Part.texts_renumber]

theorem drawing_renumber : (plate.renumber number).drawing = plate.drawing := by
  have hplacement : placementDrawing (plate.parts.map (Part.renumber number)) =
      placementDrawing plate.parts := by
    funext placement
    cases hpart : plate.parts[placement.index]? <;> simp [placementDrawing, hpart]
  show Record.concat (plate.placements.map
    (placementDrawing (plate.parts.map (Part.renumber number)))) = _
  rw [hplacement]
  rfl

end

@[simp] theorem partsOrTemplate_anonymous (plate : Plate) :
    plate.anonymous.partsOrTemplate = plate.partsOrTemplate.map Part.anonymous :=
  partsOrTemplate_renumber _ plate

theorem anonymous_ofParts (parts : List Part) (position : Point) :
    (ofParts parts position).anonymous = ofParts (parts.map Part.anonymous) position :=
  renumber_ofParts _ parts position

theorem texts_anonymous (plate : Plate) :
    plate.anonymous.texts = plate.texts.map CachedText.anonymous :=
  texts_renumber _ plate

@[simp] theorem drawing_anonymous (plate : Plate) : plate.anonymous.drawing = plate.drawing :=
  drawing_renumber _ plate

theorem releasing_anonymous (texts : List CachedText) :
    releasing (texts.map CachedText.anonymous) = releasing texts := by
  rw [releasing, CachedText.length_handles_map_anonymous]
  rfl

@[simp] theorem anonymous_cleared (plate : Plate) : plate.cleared.anonymous = plate.cleared := by
  simp [anonymous, cleared, Function.comp_def]

@[simp] theorem cleared_anonymous (plate : Plate) : plate.anonymous.cleared = plate.cleared := by
  simp [anonymous, cleared, Function.comp_def]

theorem handles_texts_cleared (plate : Plate) : handles plate.cleared.texts = [] := by
  simp only [texts, cleared]
  induction plate.parts with
  | nil => rfl
  | cons part parts ih =>
      rw [List.map_cons, List.flatMap_cons, handles_append, Part.handles_texts_cleared, ih]
      rfl

section

variable {plate : Plate} {rest : List CachedText} {canvas : Recording}

/-- The parts of a plate that was not updated yet own nothing. -/
theorem owns_partsOrTemplate :
    Owns (plate.partsOrTemplate.flatMap Part.texts ++ rest) canvas ↔
      Owns (plate.texts ++ rest) canvas := by
  cases hparts : plate.parts with
  | nil =>
      have htemplate : handles (template.flatMap Part.texts) = [] := rfl
      have htexts : handles plate.texts = [] := by
        simp [texts, hparts, handles]
      have hchoice : plate.partsOrTemplate = template := by
        simp [partsOrTemplate, hparts]
      rw [hchoice, Owns.append_iff htemplate, Owns.append_iff htexts]
  | cons part parts =>
      have hchoice : plate.partsOrTemplate = plate.parts := by
        simp [partsOrTemplate, hparts]
      rw [hchoice, texts]

theorem update_yields (h : Owns (plate.texts ++ rest) canvas) (data : PlateData) :
    (plate.update data canvas).1.anonymous = plate.anonymous.updated data canvas.failShaping ∧
      Yields (plate.anonymous.shaping data canvas.setting)
        ((plate.update data canvas).1.texts ++ rest) canvas (plate.update data canvas).2 := by
  obtain ⟨hparts, hyields⟩ := updateParts_yields (owns_partsOrTemplate.mpr h) data
  have hupdate : plate.update data canvas =
      (ofParts (updateParts data plate.partsOrTemplate canvas).1 data.position,
        (updateParts data plate.partsOrTemplate canvas).2) := rfl
  rw [hupdate]
  constructor
  · rw [anonymous_ofParts, hparts, updated, partsOrTemplate_anonymous]
  · rw [shaping, partsOrTemplate_anonymous]
    exact hyields

theorem drawPlacements_yields (h : Owns (plate.texts ++ rest) canvas) :
    Yields plate.drawing (plate.texts ++ rest) canvas (plate.drawPlacements canvas) := by
  have hpart : ∀ part ∈ plate.parts, ∀ cached ∈ part.texts, cached ∈ plate.texts ++ rest := by
    intro part hpart cached hcached
    exact List.mem_append_left _ (List.mem_flatMap.mpr ⟨part, hpart, hcached⟩)
  have hall : ∀ (placements : List (Placement Float32)) (canvas : Recording),
      Owns (plate.texts ++ rest) canvas →
        Yields (.concat (placements.map (placementDrawing plate.parts))) (plate.texts ++ rest)
          canvas (placements.foldl (drawPlacement plate.parts) canvas) := by
    intro placements
    induction placements with
    | nil => exact fun canvas h => .refl h
    | cons placement placements ih =>
        intro canvas h
        have hplacement : Yields (placementDrawing plate.parts placement) (plate.texts ++ rest)
            canvas (drawPlacement plate.parts canvas placement) := by
          unfold placementDrawing drawPlacement
          cases hfound : plate.parts[placement.index]? with
          | none => exact .refl h
          | some part =>
              exact Part.draw_yields h (hpart part (List.mem_of_getElem? hfound)) _
        exact hplacement.trans (ih _ hplacement.owns)
  exact hall plate.placements canvas h

theorem render_yields (h : Owns (plate.texts ++ rest) canvas) (data : PlateData) :
    (plate.render data canvas).1.anonymous = plate.anonymous.updated data canvas.failShaping ∧
      Yields (plate.anonymous.asks canvas.setting (.render data))
        ((plate.render data canvas).1.texts ++ rest) canvas (plate.render data canvas).2 := by
  have hflags : ∀ {owners : List CachedText} {canvas : Recording} (flags : RenderFlags),
      Owns owners canvas →
        Yields { flags := [flags] } owners canvas (Canvas.setFlags flags canvas) := by
    intro owners canvas flags h
    refine .of_containers h ?_ rfl rfl
    show _ = Record.mk ..
    simp [Canvas.setFlags, Recording.record]
  let flagged : Recording := Canvas.setFlags (RenderFlags.plate data.inGame) canvas
  let updated := plate.update data flagged
  have hflagged := hflags (RenderFlags.plate data.inGame) h
  obtain ⟨hupdated, hupdate⟩ := update_yields hflagged.owns data
  have hdrawn := drawPlacements_yields hupdate.owns
  have hunflagged := hflags RenderFlags.none hdrawn.owns
  refine ⟨hupdated, ?_⟩
  have hall := ((hflagged.trans hupdate).trans hdrawn).trans hunflagged
  have hdrawing : updated.1.drawing =
      (plate.anonymous.updated data canvas.failShaping).drawing := by
    rw [← drawing_anonymous, hupdated]
    rfl
  rw [hdrawing] at hall
  exact hall

theorem reset_yields (h : Owns (plate.texts ++ rest) canvas) :
    Yields (releasing plate.texts) (plate.cleared.texts ++ rest) canvas (plate.reset canvas).2 :=
  resetParts_yields h

/-- Every order is told by the plate, the order and the setting. -/
theorem obey_yields (h : Owns (plate.texts ++ rest) canvas) (order : Order) :
    (plate.obey order canvas).1.anonymous = plate.anonymous.obeyed canvas.failShaping order ∧
      Yields (plate.anonymous.asks canvas.setting order)
        ((plate.obey order canvas).1.texts ++ rest) canvas (plate.obey order canvas).2 := by
  cases order with
  | render data => exact render_yields h data
  | reset =>
      have hplate : (plate.obey .reset canvas).1 = plate.cleared := fst_reset plate canvas
      rw [hplate]
      constructor
      · show plate.cleared.anonymous = plate.anonymous.cleared
        rw [anonymous_cleared, cleared_anonymous]
      · show Yields (releasing plate.anonymous.texts) _ _ _
        rw [texts_anonymous, releasing_anonymous]
        exact reset_yields h

end

end Plate
end Overhead
