import Overhead.Plate.Part
import Overhead.Proofs.Text.Cached

/-!
# What a part does

A part with a text shows a text or hides; any other part changes without a canvas. Up to the numbers
of handles, what a part becomes and what it asks of a canvas are functions of the part, the data and
the setting.
-/

namespace Overhead

open Recording

structure Wanted where
  text : String
  fontSize : Float32
  color : Color

namespace PartContent

/-- The same part with its text changed, if it has one. -/
def mapText (change : CachedText → CachedText) (content : PartContent) : PartContent :=
  match content.text? with
  | some cached => content.withText (change cached)
  | none => content

/-- The text that the data asks this part to show. -/
def wanted? (content : PartContent) (data : PlateData) : Option Wanted :=
  match content with
  | .clientId ownLine _ =>
      if data.showClientId && data.clientIdNewLine == ownLine then
        some
          { text := Part.clientIdText data.clientId ownLine
            fontSize := data.fontSizeClientId
            color := data.color }
      else none
  | .name _ =>
      if data.showName then
        some { text := data.name, fontSize := data.fontSize, color := data.color }
      else none
  | .clan _ =>
      if data.showClan then
        some { text := data.clan, fontSize := data.fontSizeClan, color := data.color }
      else none
  | .hookId _ =>
      if data.showHookId then
        some
          { text := IdText.format data.hookId.toInt ""
            fontSize := data.fontSizeHook
            color := data.hook.color.withAlpha data.alpha }
      else none
  | .arrow _ | .friendMark | .hookIcon _ | .lineBreak => none

@[simp] theorem text?_withText (content : PartContent) (cached : CachedText) :
    (content.withText cached).text? = content.text?.map fun _ => cached := by
  cases content <;> rfl

@[simp] theorem withText_withText (content : PartContent) (cached cached' : CachedText) :
    (content.withText cached).withText cached' = content.withText cached' := by
  cases content <;> rfl

@[simp] theorem wanted?_withText (content : PartContent) (cached : CachedText) :
    (content.withText cached).wanted? = content.wanted? := by
  funext data
  cases content <;> rfl

theorem mapText_eq {content : PartContent} {cached : CachedText} (h : content.text? = some cached)
    (change : CachedText → CachedText) :
    content.mapText change = content.withText (change cached) := by
  rw [mapText, h]

theorem mapText_eq_self {content : PartContent} (h : content.text? = none)
    (change : CachedText → CachedText) : content.mapText change = content := by
  rw [mapText, h]

end PartContent

namespace Part

/-! ## Parts up to the numbers of handles -/

def texts (part : Part) : List CachedText :=
  part.content.text?.toList

def renumber (number : Nat → Nat) (part : Part) : Part :=
  { part with content := part.content.mapText (CachedText.renumber number) }

def anonymous (part : Part) : Part :=
  { part with content := part.content.mapText CachedText.anonymous }

/-- What a part without a text becomes. -/
def restyled (part : Part) (data : PlateData) : Part :=
  match part.content with
  | .arrow heading => part.updateArrow heading data
  | .friendMark =>
      let part := part.setVisible data.showFriendMark
      if data.showFriendMark then
        { part.setSize (Vec.square data.fontSize) with color := Color.white.withAlpha data.alpha }
      else part
  | .hookIcon _ =>
      let part := part.setVisible data.showHook
      if data.showHook then
        { part.setSize (Vec.square (data.fontSizeHook * 1.5)) with
          content := .hookIcon data.hook.sprite
          color := data.hook.color.withAlpha data.alpha }
      else part
  | .lineBreak | .clientId _ _ | .name _ | .clan _ | .hookId _ => part

def updated (part : Part) (data : PlateData) (fails : Bool) : Part :=
  match part.content.text?, part.content.wanted? data with
  | none, _ => part.restyled data
  | some _, none => part.setVisible false
  | some cached, some want =>
      let shown := cached.refreshed want.text want.fontSize fails
      { part.setVisible true with
        content := part.content.withText shown
        color := want.color }.fit shown.measure?

/-- What an update asks of the canvas. -/
def shaping (part : Part) (data : PlateData) (setting : Setting) : Record :=
  match part.content.text?, part.content.wanted? data with
  | some cached, some want => cached.shaping want.text want.fontSize data.inGame setting
  | none, _ | some _, none => .nothing

def drawing (part : Part) (center : Point) : Record :=
  let sprite (sprite : Sprite) (rotation : Float32) : Record :=
    { sprites :=
        [{ sprite := sprite
           center := center
           size := part.box.size
           rotation := rotation
           color := part.color }] }
  match part.content with
  | .lineBreak => .nothing
  | .arrow heading => sprite .arrow heading.rotation
  | .friendMark => sprite .friendHeart 0
  | .hookIcon icon => sprite icon 0
  | .clientId _ cached | .name cached | .clan cached | .hookId cached =>
      cached.drawing center part.box.size part.color

def cleared (part : Part) : Part :=
  { part with content := part.content.mapText fun _ => {} }

theorem updated_of_no_text {part : Part} (h : part.content.text? = none) (data : PlateData)
    (fails : Bool) : part.updated data fails = part.restyled data := by
  rw [updated, h]

theorem updated_of_not_wanted {part : Part} {cached : CachedText} {data : PlateData}
    (h : part.content.text? = some cached) (hwant : part.content.wanted? data = none)
    (fails : Bool) : part.updated data fails = part.setVisible false := by
  rw [updated, h, hwant]

theorem updated_of_wanted {part : Part} {cached : CachedText} {data : PlateData} {want : Wanted}
    (h : part.content.text? = some cached) (hwant : part.content.wanted? data = some want)
    (fails : Bool) :
    part.updated data fails =
      let shown := cached.refreshed want.text want.fontSize fails
      { part.setVisible true with
        content := part.content.withText shown
        color := want.color }.fit shown.measure? := by
  rw [updated, h, hwant]

theorem text?_restyled {part : Part} (h : part.content.text? = none) (data : PlateData) :
    (part.restyled data).content.text? = none := by
  obtain ⟨content, box, color⟩ := part
  cases content with
  | arrow heading =>
      by_cases hshown : data.showDirection <;> simp [restyled, updateArrow, hshown] <;> rfl
  | friendMark => by_cases hshown : data.showFriendMark <;> simp [restyled, hshown] <;> rfl
  | hookIcon sprite => by_cases hshown : data.showHook <;> simp [restyled, hshown] <;> rfl
  | lineBreak => rfl
  | clientId | name | clan | hookId => cases h

theorem content_fit (part : Part) (size : Option Point) :
    (part.fit size).content = part.content := by
  cases size <;> rfl

/-! ## What the numbers of handles do not change -/

section

variable (number : Nat → Nat) (part : Part)

@[simp] theorem box_renumber : (part.renumber number).box = part.box := rfl

theorem renumber_of_no_text {part : Part} (h : part.content.text? = none) :
    part.renumber number = part := by
  rw [renumber, PartContent.mapText_eq_self h]

theorem renumber_of_text {part : Part} {cached : CachedText}
    (h : part.content.text? = some cached) :
    part.renumber number =
      { part with content := part.content.withText (cached.renumber number) } := by
  rw [renumber, PartContent.mapText_eq h]

theorem text?_renumber :
    (part.renumber number).content.text? =
      part.content.text?.map (CachedText.renumber number) := by
  obtain ⟨content, box, color⟩ := part
  cases content <;> rfl

theorem wanted?_renumber : (part.renumber number).content.wanted? = part.content.wanted? := by
  obtain ⟨content, box, color⟩ := part
  cases content <;> rfl

theorem texts_renumber :
    (part.renumber number).texts = part.texts.map (CachedText.renumber number) := by
  obtain ⟨content, box, color⟩ := part
  cases content <;> rfl

theorem renumber_fit (size : Option Point) :
    (part.fit size).renumber number = (part.renumber number).fit size := by
  cases size <;> rfl

@[simp] theorem drawing_renumber : (part.renumber number).drawing = part.drawing := by
  funext center
  obtain ⟨content, box, color⟩ := part
  cases content with
  | clientId | name | clan | hookId =>
      exact congrFun (congrFun (congrFun (CachedText.drawing_renumber number _) _) _) _
  | arrow | friendMark | hookIcon | lineBreak => rfl

@[simp] theorem cleared_renumber : (part.renumber number).cleared = part.cleared := by
  obtain ⟨content, box, color⟩ := part
  cases content <;> rfl

end

section

variable (part : Part)

theorem anonymous_of_no_text {part : Part} (h : part.content.text? = none) :
    part.anonymous = part :=
  renumber_of_no_text _ h

theorem anonymous_fit (size : Option Point) : (part.fit size).anonymous = part.anonymous.fit size :=
  renumber_fit _ part size

@[simp] theorem box_anonymous : part.anonymous.box = part.box := rfl

@[simp] theorem drawing_anonymous : part.anonymous.drawing = part.drawing :=
  drawing_renumber _ part

@[simp] theorem cleared_anonymous : part.anonymous.cleared = part.cleared :=
  cleared_renumber _ part

@[simp] theorem anonymous_cleared : part.cleared.anonymous = part.cleared := by
  obtain ⟨content, box, color⟩ := part
  cases content <;> rfl

/-- A part that gave its text back has no valid handle. -/
theorem handles_texts_cleared : handles part.cleared.texts = [] := by
  obtain ⟨content, box, color⟩ := part
  cases content <;> rfl

end

/-! ## Operations beside other texts -/

section

variable {σ : Type} [Canvas σ]

theorem update_of_no_text {part : Part} (h : part.content.text? = none) (data : PlateData)
    (canvas : σ) : part.update data canvas = (part.restyled data, canvas) := by
  obtain ⟨content, box, color⟩ := part
  cases content with
  | arrow heading => rfl
  | friendMark => by_cases hshown : data.showFriendMark <;> simp [update, restyled, hshown]
  | hookIcon sprite => by_cases hshown : data.showHook <;> simp [update, restyled, hshown]
  | lineBreak => rfl
  | clientId | name | clan | hookId => cases h

theorem update_of_text {part : Part} {cached : CachedText} (h : part.content.text? = some cached)
    (data : PlateData) (canvas : σ) :
    part.update data canvas =
      match part.content.wanted? data with
      | none => (part.setVisible false, canvas)
      | some want =>
          (part.setVisible true).showText cached want.text want.fontSize want.color data.inGame
            canvas := by
  obtain ⟨content, box, color⟩ := part
  cases content with
  | clientId ownLine text =>
      obtain rfl : text = cached := Option.some.inj h
      simp only [update, PartContent.wanted?]
      generalize (data.showClientId && data.clientIdNewLine == ownLine) = shown
      cases shown <;> rfl
  | name text =>
      obtain rfl : text = cached := Option.some.inj h
      by_cases hshown : data.showName <;> simp [update, PartContent.wanted?, hshown]
  | clan text =>
      obtain rfl : text = cached := Option.some.inj h
      by_cases hshown : data.showClan <;> simp [update, PartContent.wanted?, hshown]
  | hookId text =>
      obtain rfl : text = cached := Option.some.inj h
      by_cases hshown : data.showHookId <;> simp [update, PartContent.wanted?, hshown]
  | arrow | friendMark | hookIcon | lineBreak => cases h

theorem fst_reset (part : Part) (canvas : σ) : (part.reset canvas).1 = part.cleared := by
  obtain ⟨content, box, color⟩ := part
  cases content <;> rfl

end

section

variable {part : Part} {rest : List CachedText} {canvas : Recording}

theorem texts_eq {cached : CachedText} (h : part.content.text? = some cached) :
    part.texts = [cached] := by
  rw [texts, h]
  rfl

theorem texts_eq_nil (h : part.content.text? = none) : part.texts = [] := by
  rw [texts, h]
  rfl

/-- Showing a text changes the text, the size and the color. -/
theorem showText_yields (part : Part) {cached : CachedText}
    (htext : part.content.text? = some cached) (h : Owns (cached :: rest) canvas) (text : String)
    (fontSize : Float32) (color : Color) (inGame : Bool) :
    let shown := part.showText cached text fontSize color inGame canvas
    let refreshed := cached.anonymous.refreshed text fontSize canvas.failShaping
    shown.1.anonymous =
        ({ part with content := part.content.withText refreshed, color := color } : Part).fit
          refreshed.measure? ∧
      Yields (cached.anonymous.shaping text fontSize inGame canvas.setting)
        (shown.1.texts ++ rest) canvas shown.2 := by
  intro shown refreshed
  let updated := cached.update text fontSize inGame canvas
  obtain ⟨hsize, hanonymous, hyields⟩ := CachedText.update_yields h text fontSize inGame
  have hcontent : (part.content.withText updated.2.1).text? = some updated.2.1 := by
    rw [PartContent.text?_withText, htext]
    rfl
  have hshown : shown =
      (({ part with content := part.content.withText updated.2.1, color := color } : Part).fit
        updated.1, updated.2.2) := rfl
  rw [hshown]
  constructor
  · rw [anonymous_fit, hsize]
    simp only [anonymous, PartContent.mapText_eq hcontent, PartContent.withText_withText]
    rw [hanonymous]
  · rw [texts_eq ((congrArg PartContent.text? (content_fit _ _)).trans hcontent)]
    exact hyields

theorem update_yields (h : Owns (part.texts ++ rest) canvas) (data : PlateData) :
    (part.update data canvas).1.anonymous = part.anonymous.updated data canvas.failShaping ∧
      Yields (part.anonymous.shaping data canvas.setting)
        ((part.update data canvas).1.texts ++ rest) canvas (part.update data canvas).2 := by
  cases htext : part.content.text? with
  | none =>
      have hrestyled := text?_restyled htext data
      rw [update_of_no_text htext, anonymous_of_no_text htext, anonymous_of_no_text hrestyled]
      simp only [updated, shaping, htext, texts_eq_nil hrestyled, true_and]
      rw [texts_eq_nil htext] at h
      exact .refl h
  | some cached =>
      rw [update_of_text htext]
      have hcontent : part.anonymous.content = part.content.withText cached.anonymous :=
        PartContent.mapText_eq htext _
      have hanonymous : part.anonymous.content.text? = some cached.anonymous := by
        rw [hcontent, PartContent.text?_withText, htext]
        rfl
      have hwanted : part.anonymous.content.wanted? data = part.content.wanted? data := by
        rw [hcontent, PartContent.wanted?_withText]
      rw [texts_eq htext] at h
      cases hwant : part.content.wanted? data with
      | none =>
          simp only [updated, shaping, hanonymous, hwanted, hwant]
          have hhidden : (part.setVisible false).texts = [cached] := texts_eq htext
          exact ⟨rfl, .refl (by rwa [hhidden])⟩
      | some want =>
          simp only [updated, shaping, hanonymous, hwanted, hwant]
          obtain ⟨hshown, hyields⟩ := showText_yields (part.setVisible true) htext h want.text
            want.fontSize want.color data.inGame
          refine ⟨?_, hyields⟩
          rw [hshown, hcontent, PartContent.withText_withText]
          rfl

theorem reset_yields (h : Owns (part.texts ++ rest) canvas) :
    Yields (releasing part.texts) (part.cleared.texts ++ rest) canvas (part.reset canvas).2 := by
  unfold reset cleared
  cases htext : part.content.text? with
  | none =>
      rw [texts_eq_nil htext] at h ⊢
      simp only [PartContent.mapText_eq_self htext, texts_eq_nil htext]
      exact .refl h
  | some cached =>
      rw [texts_eq htext] at h ⊢
      have hcontent : (part.content.withText {}).text? = some {} := by
        rw [PartContent.text?_withText, htext]
        rfl
      have hcleared : ({ part with content := part.content.withText {} } : Part).texts = [{}] :=
        texts_eq hcontent
      rw [PartContent.mapText_eq htext, hcleared]
      exact CachedText.reset_yields h

theorem draw_yields {owners : List CachedText} (h : Owns owners canvas)
    (hpart : ∀ cached ∈ part.texts, cached ∈ owners) (center : Point) :
    Yields (part.drawing center) owners canvas (part.draw center canvas) := by
  have hsprite : ∀ (sprite : Sprite) (rotation : Float32),
      Yields
        { sprites :=
            [{ sprite := sprite
               center := center
               size := part.box.size
               rotation := rotation
               color := part.color }] }
        owners canvas
        (Canvas.drawSprite sprite center part.box.size rotation part.color canvas) := by
    intro sprite rotation
    refine .of_containers h ?_ rfl rfl
    show _ = Record.mk ..
    simp [Canvas.drawSprite, drawSprite, Recording.record]
  have htext : ∀ cached, part.content.text? = some cached →
      Yields (cached.drawing center part.box.size part.color) owners canvas
        (cached.draw center part.box.size part.color canvas) := by
    intro cached hcached
    exact CachedText.draw_yields h (hpart cached (by simp [texts_eq hcached])) _ _ _
  unfold draw drawing
  cases hcontent : part.content with
  | lineBreak => exact .refl h
  | arrow heading => exact hsprite _ _
  | friendMark => exact hsprite _ _
  | hookIcon sprite => exact hsprite _ _
  | clientId ownLine cached => exact htext cached (by rw [hcontent]; rfl)
  | name cached => exact htext cached (by rw [hcontent]; rfl)
  | clan cached => exact htext cached (by rw [hcontent]; rfl)
  | hookId cached => exact htext cached (by rw [hcontent]; rfl)

end

end Part
end Overhead
