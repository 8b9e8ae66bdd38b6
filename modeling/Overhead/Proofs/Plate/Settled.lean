import Overhead.Proofs.Layout.Unseen
import Overhead.Proofs.Plate.Orders
import Overhead.Proofs.Single.Sign

/-!
# Plates without a past

Parts are kept for ever, and an update leaves fields of hidden parts as they were. What never changes
of a part is its blank form, and from the blank form alone one can tell what the next update shows:
it makes the part what it would make of a new one, or hides it.
-/

namespace Overhead

open Recording

/-! ## Texts -/

namespace CachedText

/-- A text with a valid handle is not empty. -/
def Sound (cached : CachedText) : Prop :=
  ∀ index, cached.handle = some index → index = 0 ∧ cached.text.isEmpty = false

theorem sound_empty : ({} : CachedText).Sound := by
  intro index h
  cases h

theorem Sound.refreshed {cached : CachedText} (h : cached.Sound) (text : String)
    (fontSize : Float32) (fails : Bool) : (cached.refreshed text fontSize fails).Sound := by
  unfold CachedText.refreshed
  split
  · intro index hindex
    by_cases hnone : fails || text.isEmpty
    · simp [hnone] at hindex
    · have hshown : fails = false ∧ text.isEmpty = false := by
        simpa using hnone
      simp [hnone] at hindex
      exact ⟨hindex.symm, hshown.2⟩
  · exact h

theorem refreshed_new (text : String) (fontSize : Float32) :
    ({} : CachedText).refreshed text fontSize false =
      { handle := if text.isEmpty then none else some 0, text := text, fontSize := fontSize } := by
  simp [refreshed, needsUpdate]

/-- What an old text becomes does not depend on its past. -/
theorem refreshed_eq {cached : CachedText} (h : cached.Sound) (text : String) {fontSize : Float32}
    (hsize : 0 < fontSize) :
    cached.refreshed text fontSize false = ({} : CachedText).refreshed text fontSize false := by
  rw [refreshed_new]
  by_cases hneeds : cached.needsUpdate text fontSize
  · simp [CachedText.refreshed, hneeds]
  · obtain ⟨hvalid, rfl, hfont⟩ := kept_of_not_needsUpdate hneeds
    obtain ⟨index, hhandle⟩ := Option.isSome_iff_exists.mp hvalid
    obtain ⟨rfl, hempty⟩ := h index hhandle
    -- Of two positive sizes that compare as equal there is only one.
    obtain rfl := Single.eq_of_beq_of_pos hfont hsize
    have hkept : cached.refreshed cached.text cached.fontSize false = cached := if_neg hneeds
    rw [hkept, hempty, if_neg Bool.false_ne_true, ← hhandle]

end CachedText

/-! ## Data -/

structure PlateData.Sized (data : PlateData) : Prop where
  name : 0 < data.fontSize
  clientId : 0 < data.fontSizeClientId
  clan : 0 < data.fontSizeClan
  hook : 0 < data.fontSizeHook

theorem PlateData.Sized.wanted {data : PlateData} (h : data.Sized) {content : PartContent}
    {want : Wanted} (hwant : content.wanted? data = some want) : 0 < want.fontSize := by
  cases content with
  | clientId ownLine cached =>
      simp only [PartContent.wanted?, Option.ite_none_right_eq_some, Option.some.injEq] at hwant
      obtain ⟨-, rfl⟩ := hwant
      exact h.clientId
  | name cached =>
      simp only [PartContent.wanted?, Option.ite_none_right_eq_some, Option.some.injEq] at hwant
      obtain ⟨-, rfl⟩ := hwant
      exact h.name
  | clan cached =>
      simp only [PartContent.wanted?, Option.ite_none_right_eq_some, Option.some.injEq] at hwant
      obtain ⟨-, rfl⟩ := hwant
      exact h.clan
  | hookId cached =>
      simp only [PartContent.wanted?, Option.ite_none_right_eq_some, Option.some.injEq] at hwant
      obtain ⟨-, rfl⟩ := hwant
      exact h.hook
  | arrow | friendMark | hookIcon | lineBreak => cases hwant

/-! ## Parts -/

/-- The kind of a part alone. -/
def PartContent.blank : PartContent → PartContent
  | .clientId ownLine _ => .clientId ownLine {}
  | .name _ => .name {}
  | .clan _ => .clan {}
  | .hookId _ => .hookId {}
  | .hookIcon _ => .hookIcon .hookIcon
  | .arrow heading => .arrow heading
  | .friendMark => .friendMark
  | .lineBreak => .lineBreak

namespace Part

/-- What updates never change of a part. -/
def blank (part : Part) : Part :=
  match part.content with
  | .lineBreak => part
  | .arrow _ =>
      { part with
        box :=
          { part.box with
            size := Point.zero
            visible := true
            offset := { part.box.offset with y := 0 } } }
  | .clientId _ _ | .friendMark | .name _ | .clan _ | .hookIcon _ | .hookId _ =>
      { content := part.content.blank
        box := { part.box with size := Point.zero, visible := true }
        color := Color.white }

theorem map_blank_template : Plate.template.map blank = Plate.template := rfl

theorem blank_of_text (part : Part) {cached : CachedText} (h : part.content.text? = some cached) :
    part.blank =
      { content := part.content.withText {}
        box := { part.box with size := Point.zero, visible := true }
        color := Color.white } := by
  obtain ⟨content, box, color⟩ := part
  cases content with
  | clientId | name | clan | hookId => rfl
  | arrow | friendMark | hookIcon | lineBreak => cases h

theorem blank_restyled (part : Part) (data : PlateData) :
    (part.restyled data).blank = part.blank := by
  obtain ⟨content, box, color⟩ := part
  cases content with
  | arrow heading =>
      by_cases hshown : data.showDirection <;> simp [restyled, updateArrow, hshown] <;> rfl
  | friendMark => by_cases hshown : data.showFriendMark <;> simp [restyled, hshown] <;> rfl
  | hookIcon sprite => by_cases hshown : data.showHook <;> simp [restyled, hshown] <;> rfl
  | clientId | name | clan | hookId | lineBreak => rfl

theorem blank_updated (part : Part) (data : PlateData) (fails : Bool) :
    (part.updated data fails).blank = part.blank := by
  cases htext : part.content.text? with
  | none => rw [updated_of_no_text htext, blank_restyled]
  | some cached =>
      cases hwant : part.content.wanted? data with
      | none =>
          rw [updated_of_not_wanted htext hwant, blank_of_text part htext,
            blank_of_text (part.setVisible false) htext]
          rfl
      | some want =>
          rw [updated_of_wanted htext hwant]
          let shown := cached.refreshed want.text want.fontSize fails
          have hcontent : (part.content.withText shown).text? = some shown := by
            rw [PartContent.text?_withText, htext]
            rfl
          rw [blank_of_text part htext,
            blank_of_text _ ((congrArg _ (content_fit _ _)).trans hcontent)]
          cases shown.measure? <;> simp [fit, setVisible, setSize]

/-- Every text of the part is sound. -/
def Sound (part : Part) : Prop :=
  ∀ cached ∈ part.texts, cached.Sound

theorem sound_cleared (part : Part) : part.cleared.Sound := by
  obtain ⟨content, box, color⟩ := part
  intro cached hcached
  cases content with
  | clientId | name | clan | hookId =>
      rw [List.mem_singleton.mp hcached]
      exact CachedText.sound_empty
  | arrow | friendMark | hookIcon | lineBreak => cases hcached

theorem Sound.updated {part : Part} (h : part.Sound) (data : PlateData) (fails : Bool) :
    (part.updated data fails).Sound := by
  intro shown hshown
  cases htext : part.content.text? with
  | none =>
      rw [updated_of_no_text htext, texts_eq_nil (text?_restyled htext data)] at hshown
      cases hshown
  | some cached =>
      have hcached : cached.Sound := h cached (by simp [texts_eq htext])
      cases hwant : part.content.wanted? data with
      | none =>
          have htexts : (part.setVisible false).texts = [cached] := texts_eq htext
          rw [updated_of_not_wanted htext hwant, htexts, List.mem_singleton] at hshown
          rw [hshown]
          exact hcached
      | some want =>
          have hcontent : (part.updated data fails).content.text? =
              some (cached.refreshed want.text want.fontSize fails) := by
            simp [updated_of_wanted htext hwant, content_fit, htext]
          rw [texts_eq hcontent, List.mem_singleton] at hshown
          rw [hshown]
          exact hcached.refreshed _ _ _

/-- Only an arrow keeps its room while it is hidden. -/
theorem reserved_of_blank_mem_template {part : Part} (h : part.blank ∈ Plate.template) :
    part.box.reserved = false ∨ ∃ heading, part.content = .arrow heading := by
  have htemplate : ∀ model ∈ Plate.template, model.box.reserved = false ∨
      model ∈ [Part.arrow .left, Part.arrow .jump, Part.arrow .right] := by
    decide
  obtain ⟨content, box, color⟩ := part
  cases content with
  | arrow heading => exact Or.inr ⟨heading, rfl⟩
  | clientId | friendMark | name | clan | hookIcon | hookId | lineBreak =>
      refine Or.inl ((htemplate _ h).resolve_right fun harrow => ?_)
      simp [blank, PartContent.blank, Part.arrow] at harrow

/-- What is left of a hidden part says nothing about its size. -/
theorem trimmed_box_hidden (part : Part) (hreserved : part.box.reserved = false) (size : Point) :
    (part.setVisible false).box.trimmed =
      ((part.setSize size).setVisible false).box.trimmed := by
  have htrimmed := PartBox.trimmed_setSize_of_hidden (part.setVisible false).box rfl hreserved size
  exact htrimmed.symm

theorem text?_blank {part : Part} (h : part.content.text? = none) :
    part.blank.content.text? = none := by
  obtain ⟨content, box, color⟩ := part
  cases content with
  | arrow | friendMark | hookIcon | lineBreak => rfl
  | clientId | name | clan | hookId => cases h

/-- The part is the model, or it is hidden and leaves the layout what the model leaves it. -/
def Resembles (part model : Part) : Prop :=
  part = model ∨ part.box.visible = false ∧ part.box.trimmed = model.box.trimmed

theorem Resembles.trimmed_eq {part model : Part} (h : part.Resembles model) :
    part.box.trimmed = model.box.trimmed := by
  rcases h with rfl | ⟨-, htrimmed⟩
  · rfl
  · exact htrimmed

theorem Resembles.eq_of_drawn {part model : Part} (h : part.Resembles model)
    (hdrawn : part.box.drawn) : part = model := by
  refine h.resolve_right ?_
  rintro ⟨hhidden, -⟩
  simp [PartBox.drawn, hhidden] at hdrawn

theorem updated_resembles_of_text {part : Part} {cached : CachedText}
    (htext : part.content.text? = some cached) (hblank : part.blank ∈ Plate.template)
    (hsound : part.Sound) {data : PlateData} (hdata : data.Sized) :
    (part.updated data false).Resembles (part.blank.updated data false) := by
  have hreserved : part.box.reserved = false := by
    refine (reserved_of_blank_mem_template hblank).resolve_right ?_
    rintro ⟨heading, harrow⟩
    simp [harrow, PartContent.text?] at htext
  have hmodel := blank_of_text part htext
  have hmodelText : part.blank.content.text? = some {} := by
    rw [hmodel, PartContent.text?_withText, htext]
    rfl
  have hmodelWanted : part.blank.content.wanted? data = part.content.wanted? data := by
    rw [hmodel, PartContent.wanted?_withText]
  cases hwant : part.content.wanted? data with
  | none =>
      rw [updated_of_not_wanted htext hwant,
        updated_of_not_wanted hmodelText (hmodelWanted.trans hwant), hmodel]
      exact Or.inr ⟨rfl, trimmed_box_hidden part hreserved Point.zero⟩
  | some want =>
      have hshown := CachedText.refreshed_eq (hsound cached (by simp [texts_eq htext]))
        want.text (hdata.wanted hwant)
      rw [updated_of_wanted htext hwant,
        updated_of_wanted hmodelText (hmodelWanted.trans hwant), hshown, hmodel]
      dsimp only
      -- Without a text to measure the part is hidden, in its old size.
      cases (({} : CachedText).refreshed want.text want.fontSize false).measure? with
      | none => exact Or.inr ⟨rfl, trimmed_box_hidden part hreserved Point.zero⟩
      | some size =>
          refine Or.inl ?_
          simp [fit, setVisible, setSize]

theorem restyled_resembles {part : Part} (htext : part.content.text? = none)
    (hblank : part.blank ∈ Plate.template) (data : PlateData) :
    (part.restyled data).Resembles (part.blank.restyled data) := by
  have hreserved := reserved_of_blank_mem_template hblank
  obtain ⟨content, box, color⟩ := part
  cases content with
  | arrow heading =>
      by_cases hshown : data.showDirection
      · refine Or.inl ?_
        simp [restyled, blank, updateArrow, hshown]
      · simp only [restyled, blank, updateArrow, hshown]
        exact Or.inr ⟨rfl, (PartBox.trimmed_setOffset_of_hidden _ rfl _).symm⟩
  | friendMark =>
      by_cases hshown : data.showFriendMark
      · refine Or.inl ?_
        simp [restyled, blank, setVisible, setSize, hshown, PartContent.blank]
      · have hreserved : box.reserved = false := hreserved.resolve_right (by simp)
        simp only [restyled, blank, hshown]
        exact Or.inr ⟨rfl, trimmed_box_hidden ⟨_, box, color⟩ hreserved Point.zero⟩
  | hookIcon sprite =>
      by_cases hshown : data.showHook
      · refine Or.inl ?_
        simp [restyled, blank, setVisible, setSize, hshown, PartContent.blank]
      · have hreserved : box.reserved = false := hreserved.resolve_right (by simp)
        simp only [restyled, blank, hshown]
        exact Or.inr ⟨rfl, trimmed_box_hidden ⟨_, box, color⟩ hreserved Point.zero⟩
  | lineBreak => exact Or.inl rfl
  | clientId | name | clan | hookId => cases htext

/-- An update makes of a part what it would make of a new one, or hides it. -/
theorem updated_resembles {part : Part} (hblank : part.blank ∈ Plate.template)
    (hsound : part.Sound) {data : PlateData} (hdata : data.Sized) :
    (part.updated data false).Resembles (part.blank.updated data false) := by
  cases htext : part.content.text? with
  | some cached => exact updated_resembles_of_text htext hblank hsound hdata
  | none =>
      rw [updated_of_no_text htext, updated_of_no_text (text?_blank htext)]
      exact restyled_resembles htext hblank data

theorem blank_cleared (part : Part) : part.cleared.blank = part.blank := by
  obtain ⟨content, box, color⟩ := part
  cases content <;> rfl

theorem length_texts_blank (part : Part) : part.blank.texts.length = part.texts.length := by
  obtain ⟨content, box, color⟩ := part
  cases content <;> rfl

end Part

/-! ## Plates -/

namespace Plate

/-- A plate that was never drawn, or consists of the usual parts. -/
structure Settled (plate : Plate) : Prop where
  blank : plate.parts = [] ∨ plate.parts.map Part.blank = template
  sound : ∀ part ∈ plate.parts, part.Sound

theorem settled_new : ({} : Plate).Settled := by
  refine ⟨Or.inl rfl, fun part hpart => ?_⟩
  cases hpart

theorem map_blank_partsOrTemplate {plate : Plate} (h : plate.Settled) :
    plate.partsOrTemplate.map Part.blank = template := by
  unfold partsOrTemplate
  split
  · exact Part.map_blank_template
  · rename_i hparts
    refine h.blank.resolve_left fun hnil => ?_
    simp [hnil] at hparts

theorem sound_partsOrTemplate {plate : Plate} (h : plate.Settled) :
    ∀ part ∈ plate.partsOrTemplate, part.Sound := by
  have htemplate : template.map Part.cleared = template := rfl
  intro part hpart
  unfold partsOrTemplate at hpart
  split at hpart
  · rw [← htemplate] at hpart
    obtain ⟨model, -, rfl⟩ := List.mem_map.mp hpart
    exact model.sound_cleared
  · exact h.sound part hpart

theorem Settled.updated {plate : Plate} (h : plate.Settled) (data : PlateData) (fails : Bool) :
    (plate.updated data fails).Settled := by
  constructor
  · right
    show (plate.partsOrTemplate.map (·.updated data fails)).map Part.blank = template
    rw [List.map_map]
    simp only [Function.comp_def, Part.blank_updated]
    exact map_blank_partsOrTemplate h
  · intro part hpart
    obtain ⟨old, hold, rfl⟩ := List.mem_map.mp hpart
    exact (sound_partsOrTemplate h old hold).updated data fails

theorem Settled.cleared {plate : Plate} (h : plate.Settled) : plate.cleared.Settled := by
  constructor
  · rcases h.blank with hnil | hblank
    · left
      simp [Plate.cleared, hnil]
    · right
      simp only [Plate.cleared, List.map_map, Function.comp_def, Part.blank_cleared]
      exact hblank
  · intro part hpart
    obtain ⟨old, -, rfl⟩ := List.mem_map.mp hpart
    exact old.sound_cleared

theorem Settled.obeyed {plate : Plate} (h : plate.Settled) (fails : Bool) (order : Order) :
    (plate.obeyed fails order).Settled := by
  cases order with
  | render data => exact h.updated data fails
  | reset => exact h.cleared

/-- A plate has two places for an id, and one each for a name, a clan and a hook. -/
theorem Settled.length_texts_le {plate : Plate} (h : plate.Settled) : plate.texts.length ≤ 5 := by
  rcases h.blank with hnil | hblank
  · simp [texts, hnil]
  · have hlengths : plate.parts.map (·.texts.length) = template.map (·.texts.length) := by
      rw [← hblank, List.map_map]
      simp only [Function.comp_def, Part.length_texts_blank]
    rw [texts, List.length_flatMap, hlengths]
    decide

/-- Parts that look alike are drawn alike. -/
theorem drawing_ofParts_congr {parts models : List Part} (position : Point)
    (hboxes : parts.map (·.box.trimmed) = models.map (·.box.trimmed))
    (hparts : ∀ (index : Nat) (part : Part), parts[index]? = some part → part.box.drawn →
      models[index]? = some part) :
    (ofParts parts position).drawing = (ofParts models position).drawing := by
  let anchor := position - ⟨0, clearance⟩
  have harrange : Layout.arrange (parts.map (·.box)) anchor =
      Layout.arrange (models.map (·.box)) anchor := by
    have htrimmed : (parts.map (·.box)).map (·.trimmed) = (models.map (·.box)).map (·.trimmed) := by
      simpa only [List.map_map, Function.comp_def] using hboxes
    rw [← Layout.arrange_map_trimmed, htrimmed, Layout.arrange_map_trimmed]
  show Record.concat ((Layout.arrange (parts.map (·.box)) anchor).placements.map
      (placementDrawing parts)) =
    Record.concat ((Layout.arrange (models.map (·.box)) anchor).placements.map
      (placementDrawing models))
  rw [← harrange]
  congr 1
  refine List.map_congr_left fun placement hplacement => ?_
  -- Only boxes that are drawn have a placement.
  obtain ⟨box, hbox, hdrawn⟩ := (Layout.mem_index_arrange _ anchor placement.index).mp
    (List.mem_map_of_mem hplacement)
  rw [List.getElem?_map, Option.map_eq_some_iff] at hbox
  obtain ⟨part, hpart, rfl⟩ := hbox
  simp only [placementDrawing, hpart, hparts _ _ hpart hdrawn]

/-- While shaping works, a plate is drawn like a plate that was never drawn before. -/
theorem Settled.drawing_updated {plate : Plate} (h : plate.Settled) {data : PlateData}
    (hdata : data.Sized) :
    (plate.updated data false).drawing = (({} : Plate).updated data false).drawing := by
  have hmodels : (({} : Plate).partsOrTemplate.map (·.updated data false)) =
      plate.partsOrTemplate.map fun part => part.blank.updated data false := by
    show template.map _ = _
    rw [← map_blank_partsOrTemplate h, List.map_map]
    rfl
  have hresembles : ∀ part ∈ plate.partsOrTemplate,
      (part.updated data false).Resembles (part.blank.updated data false) := by
    intro part hpart
    refine Part.updated_resembles ?_ (sound_partsOrTemplate h part hpart) hdata
    rw [← map_blank_partsOrTemplate h]
    exact List.mem_map_of_mem hpart
  unfold Plate.updated
  rw [hmodels]
  refine drawing_ofParts_congr data.position ?_ fun index part hpart hdrawn => ?_
  · rw [List.map_map, List.map_map]
    exact List.map_congr_left fun part hpart => (hresembles part hpart).trimmed_eq
  · rw [List.getElem?_map, Option.map_eq_some_iff] at hpart ⊢
    obtain ⟨old, hold, rfl⟩ := hpart
    exact ⟨old, hold, ((hresembles old (List.mem_of_getElem? hold)).eq_of_drawn hdrawn).symm⟩

end Plate
end Overhead
