import Overhead.Proofs.Canvas.Counted
import Overhead.Proofs.Plate.Settled

/-!
# Plates that need no shaping

A part shapes the text it is asked to show unless it has just that text already, in that size. Once
all parts of a plate have been asked for texts that can be shaped, the same texts in the same sizes
cost nothing more.
-/

namespace Overhead

namespace PlateData

/-- Whatever a part is, both ask it for the same text in the same size, or for none. -/
def Alike (data other : PlateData) : Prop :=
  ∀ content : PartContent,
    (content.wanted? data).map (fun want => (want.text, want.fontSize)) =
      (content.wanted? other).map (fun want => (want.text, want.fontSize))

/-- Every text that is asked for can be shaped. -/
def Spells (data : PlateData) : Prop :=
  ∀ content want, PartContent.wanted? content data = some want →
    want.text.isEmpty = false ∧ 0 < want.fontSize

theorem Alike.symm {data other : PlateData} (h : data.Alike other) : other.Alike data :=
  fun content => (h content).symm

/-- Neither the place and the colors of a plate nor its arrows have a part in its texts. -/
theorem alike_restyled (data : PlateData) (position : Point) (color : Color) (alpha : Float32)
    (shown left jump right : Bool) :
    { data with
      position := position
      color := color
      alpha := alpha
      showDirection := shown
      dirLeft := left
      dirJump := jump
      dirRight := right }.Alike data := by
  intro content
  cases content with
  | arrow | friendMark | hookIcon | lineBreak => rfl
  | clientId | name | clan | hookId =>
      simp only [PartContent.wanted?]
      split <;> rfl

theorem Spells.congr {data other : PlateData} (h : other.Spells) (halike : data.Alike other) :
    data.Spells := by
  intro content want hwant
  have hkey := halike content
  rw [hwant] at hkey
  obtain ⟨want', hother, heq⟩ := Option.map_eq_some_iff.mp hkey.symm
  obtain ⟨htext, hsize⟩ := Prod.mk.inj heq
  rw [← htext, ← hsize]
  exact h content want' hother

end PlateData

namespace CachedText

/-- What was just shaped need not be shaped again. -/
theorem needsUpdate_refreshed (cached : CachedText) {text : String} {fontSize : Float32}
    (htext : text.isEmpty = false) (hsize : 0 < fontSize) :
    (cached.refreshed text fontSize false).needsUpdate text fontSize = false := by
  unfold refreshed
  split
  · have hequal : (fontSize == fontSize) = true := Single.beq_self_of_pos hsize
    simp [htext, needsUpdate, hequal, bne]
  · next hkept => exact eq_false_of_ne_true hkept

end CachedText

namespace Part

/-- The part is asked for a text that it does not have. -/
def reshapes (part : Part) (data : PlateData) : Bool :=
  match part.content.text?, part.content.wanted? data with
  | some cached, some want => cached.needsUpdate want.text want.fontSize
  | none, _ | some _, none => false

theorem reshapes_of_no_text {part : Part} (h : part.content.text? = none) (data : PlateData) :
    part.reshapes data = false := by
  rw [reshapes, h]

theorem reshapes_congr {data other : PlateData} (h : data.Alike other) (part : Part) :
    part.reshapes data = part.reshapes other := by
  have hwant := h part.content
  unfold reshapes
  cases part.content.text? with
  | none => rfl
  | some cached =>
      cases hone : part.content.wanted? data with
      | none =>
          rw [hone] at hwant
          rw [Option.map_eq_none_iff.mp hwant.symm]
      | some want =>
          rw [hone] at hwant
          obtain ⟨want', hother, hkey⟩ := Option.map_eq_some_iff.mp hwant.symm
          obtain ⟨htext, hsize⟩ := Prod.mk.inj hkey
          simp only [hother, htext, hsize]

theorem reshapes_of_wanted {part : Part} {cached : CachedText} {data : PlateData} {want : Wanted}
    (h : part.content.text? = some cached) (hwant : part.content.wanted? data = some want) :
    part.reshapes data = cached.needsUpdate want.text want.fontSize := by
  rw [reshapes, h, hwant]

@[simp] theorem reshapes_anonymous (part : Part) (data : PlateData) :
    part.anonymous.reshapes data = part.reshapes data := by
  have htext : part.anonymous.content.text? = part.content.text?.map CachedText.anonymous :=
    text?_renumber _ part
  have hwant : part.anonymous.content.wanted? = part.content.wanted? := wanted?_renumber _ part
  unfold reshapes
  rw [htext, hwant]
  cases part.content.text? with
  | none => rfl
  | some cached =>
      cases part.content.wanted? data with
      | none => rfl
      | some want => exact congrFun (congrFun (CachedText.needsUpdate_anonymous cached) _) _

/-- After an update, the same data asks a text for what it was just refreshed to. -/
theorem reshapes_updated_of_wanted {part : Part} {cached : CachedText} {data : PlateData}
    {want : Wanted} (h : part.content.text? = some cached)
    (hwant : part.content.wanted? data = some want) (fails : Bool) :
    (part.updated data fails).reshapes data =
      (cached.refreshed want.text want.fontSize fails).needsUpdate want.text want.fontSize := by
  let shown := cached.refreshed want.text want.fontSize fails
  have hcontent : (part.updated data fails).content = part.content.withText shown := by
    rw [updated_of_wanted h hwant, content_fit]
  have hshown : (part.updated data fails).content.text? = some shown := by
    rw [hcontent, PartContent.text?_withText, h]
    rfl
  have hwant' : (part.updated data fails).content.wanted? data = some want := by
    rw [hcontent, PartContent.wanted?_withText, hwant]
  exact reshapes_of_wanted hshown hwant'

/-- A part that is not asked for a text does not shape one. -/
theorem reshapes_of_not_wanted {part : Part} {data : PlateData}
    (h : part.content.wanted? data = none) : part.reshapes data = false := by
  rw [reshapes, h]
  cases part.content.text? <;> rfl

/-- After an update in which shaping works, the same data costs nothing. -/
theorem reshapes_updated (part : Part) {data : PlateData} (hdata : data.Spells) :
    (part.updated data false).reshapes data = false := by
  cases htext : part.content.text? with
  | none =>
      rw [updated_of_no_text htext]
      exact reshapes_of_no_text (text?_restyled htext data) data
  | some cached =>
      cases hwant : part.content.wanted? data with
      | none =>
          rw [updated_of_not_wanted htext hwant]
          exact reshapes_of_not_wanted hwant
      | some want =>
          obtain ⟨hspelled, hsize⟩ := hdata part.content want hwant
          rw [reshapes_updated_of_wanted htext hwant]
          exact cached.needsUpdate_refreshed hspelled hsize

/-! ## Counted updates -/

section

variable {σ : Type} [Canvas σ]

/-- An update shapes one text or none. -/
theorem shapings_update (part : Part) (data : PlateData) (counted : Counted σ) :
    (part.update data counted).2.shapings =
      counted.shapings + if part.reshapes data then 1 else 0 := by
  cases htext : part.content.text? with
  | none =>
      rw [update_of_no_text htext, reshapes_of_no_text htext]
      rfl
  | some cached =>
      rw [update_of_text htext]
      cases hwant : part.content.wanted? data with
      | none =>
          rw [reshapes, htext, hwant]
          rfl
      | some want =>
          rw [reshapes_of_wanted htext hwant]
          by_cases hneeds : cached.needsUpdate want.text want.fontSize
          · cases hgame : data.inGame <;> simp [showText, CachedText.update, hneeds] <;> rfl
          · simp [showText, CachedText.update, hneeds]

/-- A part that has its text already asks nothing of a canvas, and keeps the text. -/
theorem update_of_not_reshapes {part : Part} {data : PlateData}
    (h : part.reshapes data = false) (canvas : σ) :
    (part.update data canvas).2 = canvas ∧
      (part.update data canvas).1.reshapes data = false := by
  cases htext : part.content.text? with
  | none =>
      rw [update_of_no_text htext]
      exact ⟨rfl, reshapes_of_no_text (text?_restyled htext data) data⟩
  | some cached =>
      rw [update_of_text htext]
      cases hwant : part.content.wanted? data with
      | none => exact ⟨rfl, h⟩
      | some want =>
          have hkept : cached.needsUpdate want.text want.fontSize = false := by
            rwa [reshapes_of_wanted htext hwant] at h
          have hshown : ∀ size : Option Point,
              (({ part.setVisible true with
                  content := part.content.withText cached
                  color := want.color } : Part).fit size).reshapes data = false := by
            intro size
            have hcontent := PartContent.withText_self htext
            rw [reshapes, content_fit, hcontent, htext, hwant]
            exact hkept
          simp only [showText, CachedText.update, hkept]
          exact ⟨rfl, hshown _⟩

end

end Part

namespace Plate

/-- No part is asked for a text that it does not have. -/
def Fresh (plate : Plate) (data : PlateData) : Prop :=
  ∀ part ∈ plate.partsOrTemplate, part.reshapes data = false

theorem Fresh.congr {plate : Plate} {data other : PlateData} (h : plate.Fresh data)
    (halike : data.Alike other) : plate.Fresh other := by
  intro part hpart
  rw [← Part.reshapes_congr halike]
  exact h part hpart

theorem fresh_anonymous {plate : Plate} {data : PlateData} :
    plate.anonymous.Fresh data ↔ plate.Fresh data := by
  simp [Fresh]

theorem partsOrTemplate_ne_nil (plate : Plate) : plate.partsOrTemplate ≠ [] := by
  unfold partsOrTemplate
  split
  · exact List.cons_ne_nil _ _
  · next hparts => simpa using hparts

theorem partsOrTemplate_ofParts {parts : List Part} (h : parts ≠ []) (position : Point) :
    (ofParts parts position).partsOrTemplate = parts := by
  simp [partsOrTemplate, ofParts, h]

theorem fresh_updated (plate : Plate) {data : PlateData} (hdata : data.Spells) :
    (plate.updated data false).Fresh data := by
  have hparts : plate.partsOrTemplate.map (·.updated data false) ≠ [] := by
    simp [plate.partsOrTemplate_ne_nil]
  intro part hpart
  rw [updated, partsOrTemplate_ofParts hparts] at hpart
  obtain ⟨old, -, rfl⟩ := List.mem_map.mp hpart
  exact old.reshapes_updated hdata

/-! ## Counted renderings -/

def reshaped (data : PlateData) (parts : List Part) (place : Nat) : List Nat :=
  ((parts.zipIdx place).filter (·.1.reshapes data)).map (·.2)

theorem reshaped_cons (data : PlateData) (part : Part) (parts : List Part) (place : Nat) :
    reshaped data (part :: parts) place =
      List.replicate (if part.reshapes data then 1 else 0) place ++
        reshaped data parts (place + 1) := by
  cases hpart : part.reshapes data <;> simp [reshaped, hpart]

theorem nodup_reshaped (data : PlateData) (parts : List Part) (place : Nat) :
    (reshaped data parts place).Nodup := by
  have hplaces : ((parts.zipIdx place).map (·.2)).Nodup := by
    rw [List.zipIdx_map_snd]
    exact List.nodup_range'
  exact hplaces.sublist (List.filter_sublist.map _)

theorem Fresh.reshaped_eq_nil {plate : Plate} {data : PlateData} (h : plate.Fresh data) :
    reshaped data plate.partsOrTemplate 0 = [] := by
  have hnone : plate.partsOrTemplate.zipIdx.filter (·.1.reshapes data) = [] := by
    rw [List.filter_eq_nil_iff]
    rintro ⟨part, place⟩ hpart
    simp [h part (List.fst_mem_of_mem_zipIdx hpart)]
  rw [reshaped, hnone, List.map_nil]

section

variable {σ : Type} [Canvas σ]

/-- The places of the parts that shape a text in an update of parts, named once for every call. -/
def shapedFrom (data : PlateData) : List Part → Nat → σ → List Nat
  | [], _, _ => []
  | part :: parts, place, canvas =>
      let counted := (part.update data ({ canvas := canvas } : Counted σ)).2
      List.replicate counted.shapings place ++ shapedFrom data parts (place + 1) counted.canvas

/-- The places of the parts of a plate that shape a text when an order is obeyed. -/
def shaped (plate : Plate) (order : Order) (canvas : σ) : List Nat :=
  match order with
  | .render data =>
      shapedFrom data plate.partsOrTemplate 0
        (Canvas.setFlags (RenderFlags.plate data.inGame) canvas)
  | .reset => []

theorem shapedFrom_eq (data : PlateData) (parts : List Part) (place : Nat) (canvas : σ) :
    shapedFrom data parts place canvas = reshaped data parts place := by
  induction parts generalizing place canvas with
  | nil => rfl
  | cons part parts ih =>
      rw [shapedFrom, ih, Part.shapings_update, Nat.zero_add, reshaped_cons]

theorem shapings_updateParts (data : PlateData) (parts : List Part) (place : Nat)
    (counted : Counted σ) :
    (updateParts data parts counted).2.shapings =
      counted.shapings + (reshaped data parts place).length := by
  induction parts generalizing place counted with
  | nil => rfl
  | cons part parts ih =>
      have hrest := ih (place + 1) (part.update data counted).2
      rw [Part.shapings_update] at hrest
      rw [reshaped_cons, List.length_append, List.length_replicate, ← Nat.add_assoc]
      exact hrest

theorem updateParts_of_fresh {data : PlateData} {parts : List Part}
    (h : ∀ part ∈ parts, part.reshapes data = false) (canvas : σ) :
    (updateParts data parts canvas).2 = canvas ∧
      ∀ part ∈ (updateParts data parts canvas).1, part.reshapes data = false := by
  induction parts with
  | nil => exact ⟨rfl, by simp [updateParts]⟩
  | cons part parts ih =>
      obtain ⟨hcanvas, hpart⟩ :=
        Part.update_of_not_reshapes (h part List.mem_cons_self) canvas
      obtain ⟨hcanvas', hparts⟩ := ih fun other hother => h other (List.mem_cons_of_mem _ hother)
      simp only [updateParts, hcanvas, hcanvas', List.mem_cons, forall_eq_or_imp]
      exact ⟨trivial, hpart, hparts⟩

theorem length_updateParts (data : PlateData) (parts : List Part) (canvas : σ) :
    (updateParts data parts canvas).1.length = parts.length := by
  induction parts generalizing canvas with
  | nil => rfl
  | cons part parts ih => simp [updateParts, ih]

theorem shapings_render (plate : Plate) (data : PlateData) (counted : Counted σ) :
    (plate.render data counted).2.shapings =
      counted.shapings + (plate.shaped (.render data) counted.canvas).length := by
  have hdrawn := Counted.uncounted_drawPlacements
    (plate.update data (Canvas.setFlags (RenderFlags.plate data.inGame) counted)).1
    (plate.update data (Canvas.setFlags (RenderFlags.plate data.inGame) counted)).2
  have hupdated := shapings_updateParts data plate.partsOrTemplate 0
    (Canvas.setFlags (RenderFlags.plate data.inGame) counted)
  rw [shaped, shapedFrom_eq]
  exact hdrawn.1.trans hupdated

/-- A plate that has its texts already asks for no call, and keeps its texts. -/
theorem Fresh.render {plate : Plate} {data : PlateData} (h : plate.Fresh data)
    (counted : Counted σ) :
    (plate.render data counted).1.Fresh data ∧
      Counted.Uncounted counted (plate.render data counted).2 := by
  let flagged : Counted σ := Canvas.setFlags (RenderFlags.plate data.inGame) counted
  obtain ⟨hcanvas, hparts⟩ := updateParts_of_fresh h flagged
  constructor
  · have hlength := length_updateParts data plate.partsOrTemplate flagged
    have hsome : (updateParts data plate.partsOrTemplate flagged).1 ≠ [] := by
      rw [← List.length_pos_iff, hlength, List.length_pos_iff]
      exact plate.partsOrTemplate_ne_nil
    intro part hpart
    have hrendered : (plate.render data counted).1 =
        ofParts (updateParts data plate.partsOrTemplate flagged).1 data.position := rfl
    rw [hrendered, partsOrTemplate_ofParts hsome] at hpart
    exact hparts part hpart
  · have hdrawn := Counted.uncounted_drawPlacements (plate.update data flagged).1
      (plate.update data flagged).2
    have hupdated : Counted.Uncounted counted (plate.update data flagged).2 := by
      rw [show (plate.update data flagged).2 = flagged from hcanvas]
      exact ⟨rfl, rfl⟩
    exact hupdated.trans hdrawn

end

end Plate

end Overhead
