import Overhead.Proofs.Plate.Settled

/-!
# What a plate draws

A rendering draws what the plate looks like after the update; shaping draws nothing. A placement
that named no part, or a part that draws nothing, would be lost without a trace, but there is none:
what is placed is visible, a visible text has been shaped, and line breaks are never visible.
-/

namespace Overhead

open Recording

namespace Recording.Record

def picture (record : Record) : List DrawnText × List DrawnSprite :=
  (record.texts, record.sprites)

theorem picture_append_congr {a b a' b' : Record} (h : a.picture = a'.picture)
    (h' : b.picture = b'.picture) : (a ++ b).picture = (a' ++ b').picture := by
  obtain ⟨htexts, hsprites⟩ := Prod.mk.inj h
  obtain ⟨htexts', hsprites'⟩ := Prod.mk.inj h'
  simp [picture, htexts, hsprites, htexts', hsprites']

theorem picture_concat {records : List Record} (h : ∀ record ∈ records, record.picture = ([], [])) :
    (concat records).picture = ([], []) := by
  induction records with
  | nil => rfl
  | cons record records ih =>
      have hrecord := h record List.mem_cons_self
      have hrecords := ih fun other hother => h other (List.mem_cons_of_mem _ hother)
      have hboth : (record ++ concat records).picture = (nothing ++ nothing).picture :=
        picture_append_congr hrecord hrecords
      exact hboth

def drawings (record : Record) : Nat :=
  record.texts.length + record.sprites.length

end Recording.Record

theorem CachedText.drawings_drawing {cached : CachedText} (h : cached.handle.isSome)
    (center size : Point) (color : Color) : (cached.drawing center size color).drawings = 1 := by
  rw [drawing, if_pos h]
  rfl

namespace Part

/-- Every text of the part has been shaped. -/
def Shown (part : Part) : Prop :=
  ∀ cached ∈ part.texts, cached.handle.isSome

theorem shown_of_no_text {part : Part} (h : part.content.text? = none) : part.Shown := by
  intro cached hcached
  rw [texts_eq_nil h] at hcached
  cases hcached

/-- A text that could not be shaped hides its part. -/
theorem shown_updated {part : Part} {data : PlateData} {fails : Bool}
    (h : (part.updated data fails).box.drawn) : (part.updated data fails).Shown := by
  cases htext : part.content.text? with
  | none =>
      rw [updated_of_no_text htext]
      exact shown_of_no_text (text?_restyled htext data)
  | some cached =>
      cases hwant : part.content.wanted? data with
      | none =>
          rw [updated_of_not_wanted htext hwant] at h
          simp [PartBox.drawn, setVisible] at h
      | some want =>
          let shown := cached.refreshed want.text want.fontSize fails
          have hupdated := updated_of_wanted htext hwant fails
          have hcontent : (part.updated data fails).content.text? = some shown := by
            simp [hupdated, content_fit, htext, shown]
          intro text htexts
          rw [texts_eq hcontent, List.mem_singleton] at htexts
          rw [htexts]
          cases hhandle : shown.handle with
          | some index => rfl
          | none =>
              have hmeasure : shown.measure? = none := by
                simp [CachedText.measure?, CachedText.container?, hhandle]
              rw [hupdated] at h
              simp [shown, hmeasure, fit, PartBox.drawn, setVisible] at h

theorem drawings_drawing {part : Part} (hblank : part.blank ∈ Plate.template)
    (hdrawn : part.box.drawn) (hshown : part.Shown) (center : Point) :
    (part.drawing center).drawings = 1 := by
  have hbreaks : ∀ model ∈ Plate.template, model.content = .lineBreak → model.box.lineBreak := by
    decide
  obtain ⟨content, box, color⟩ := part
  cases content with
  | arrow | friendMark | hookIcon => rfl
  | clientId ownLine cached =>
      exact CachedText.drawings_drawing (hshown cached List.mem_cons_self) _ _ _
  | name cached => exact CachedText.drawings_drawing (hshown cached List.mem_cons_self) _ _ _
  | clan cached => exact CachedText.drawings_drawing (hshown cached List.mem_cons_self) _ _ _
  | hookId cached => exact CachedText.drawings_drawing (hshown cached List.mem_cons_self) _ _ _
  | lineBreak =>
      have hbreak : box.lineBreak := hbreaks _ hblank rfl
      simp [PartBox.drawn, hbreak] at hdrawn

end Part

namespace Plate

theorem picture_shaping (plate : Plate) (data : PlateData) (setting : Setting) :
    (plate.shaping data setting).picture = ([], []) := by
  refine Record.picture_concat fun record hrecord => ?_
  obtain ⟨part, -, rfl⟩ := List.mem_map.mp hrecord
  unfold Part.shaping CachedText.shaping
  split
  · split <;> rfl
  · rfl
  · rfl

theorem picture_asks (plate : Plate) (data : PlateData) (setting : Setting) :
    (plate.asks setting (.render data)).picture =
      (plate.updated data setting.failShaping).drawing.picture := by
  obtain ⟨htexts, hsprites⟩ := Prod.mk.inj (picture_shaping plate data setting)
  simp [asks, Record.picture, htexts, hsprites]

/-- Each placement draws one text or one sprite, and they follow each other as the parts do. -/
structure DrawsEach (plate : Plate) : Prop where
  rising : (plate.placements.map (·.index)).Pairwise (· < ·)
  once : ∀ placement ∈ plate.placements, ∃ part, plate.parts[placement.index]? = some part ∧
    (part.drawing placement.position).drawings = 1

theorem DrawsEach.of_anonymous {plate : Plate} (h : plate.anonymous.DrawsEach) :
    plate.DrawsEach := by
  refine ⟨h.rising, fun placement hplacement => ?_⟩
  obtain ⟨part, hpart, hdrawings⟩ := h.once placement hplacement
  have hparts : (plate.parts.map Part.anonymous)[placement.index]? = some part := hpart
  rw [List.getElem?_map, Option.map_eq_some_iff] at hparts
  obtain ⟨own, hown, rfl⟩ := hparts
  rw [Part.drawing_anonymous] at hdrawings
  exact ⟨own, hown, hdrawings⟩

theorem Settled.drawsEach_updated {plate : Plate} (h : plate.Settled) (data : PlateData)
    (fails : Bool) : (plate.updated data fails).DrawsEach := by
  let boxes := (plate.partsOrTemplate.map (·.updated data fails)).map (·.box)
  let anchor := data.position - ⟨0, clearance⟩
  refine ⟨Layout.pairwise_index_arrange boxes anchor, fun placement hplacement => ?_⟩
  have hindex : placement.index ∈ (Layout.arrange boxes anchor).placements.map (·.index) :=
    List.mem_map_of_mem hplacement
  obtain ⟨box, hbox, hdrawn⟩ := (Layout.mem_index_arrange boxes anchor placement.index).mp hindex
  rw [List.getElem?_map, Option.map_eq_some_iff] at hbox
  obtain ⟨part, hpart, rfl⟩ := hbox
  have hmem : part ∈ (plate.updated data fails).parts := List.mem_of_getElem? hpart
  have hblank : part.blank ∈ template := by
    have hsettled := h.updated data fails
    rcases hsettled.blank with hnil | hblanks
    · rw [hnil] at hmem
      cases hmem
    · rw [← hblanks]
      exact List.mem_map_of_mem hmem
  obtain ⟨old, -, rfl⟩ := List.mem_map.mp hmem
  exact ⟨_, hpart, Part.drawings_drawing hblank hdrawn (Part.shown_updated hdrawn) _⟩

end Plate
end Overhead
