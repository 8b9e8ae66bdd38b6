import Overhead.Proofs.Plate.Settled
import Overhead.Proofs.Text.IdText

/-!
# What an updated plate shows

While shaping works, an update decides from the data alone which parts are visible, what their texts
are and how many lines they make. What the parts were before leaves no trace, whatever the plate went
through: every part that is to show something shows just that, and any other part is hidden.
-/

namespace Overhead

open Recording

/-! ## Id texts -/

namespace Part

/-- An inner id has a colon behind it, an id on a line of its own stands alone. -/
theorem clientIdText_eq {id : Nat} (h : id < 2 ^ 64) (ownLine : Bool) :
    clientIdText id ownLine = toString id ++ if ownLine then "" else ":" := by
  have hmark : (if ownLine then "" else ":").utf8ByteSize ≤ 1 := by
    cases ownLine <;> decide
  have hlow : -2 ^ 63 ≤ (id : Int) := by omega
  have hhigh : (id : Int) < 2 ^ 64 := by omega
  exact IdText.format_eq hlow hhigh hmark

theorem clientIdText_ne_empty {id : Nat} (h : id < 2 ^ 64) (ownLine : Bool) :
    clientIdText id ownLine ≠ "" := by
  apply IdText.format_ne_empty
  · omega
  · omega
  · cases ownLine <;> decide

theorem hookIdText_eq (id : Int32) : IdText.format id.toInt "" = toString id.toInt := by
  have hlow := id.le_toInt
  have hhigh := id.toInt_lt
  have hmark : "".utf8ByteSize ≤ 1 := by decide
  rw [IdText.format_eq (by omega) (by omega) hmark, String.append_empty]
  rfl

theorem hookIdText_ne_empty (id : Int32) : IdText.format id.toInt "" ≠ "" := by
  have hlow := id.le_toInt
  have hhigh := id.toInt_lt
  apply IdText.format_ne_empty
  · omega
  · omega
  · decide

end Part

/-! ## What data says about a part -/

namespace PartContent

/-- Whether the data has something to show in this part. -/
def shown (data : PlateData) : PartContent → Bool
  | .arrow heading => data.showDirection && heading.shownIn data
  | .clientId ownLine _ => data.showClientId && data.clientIdNewLine == ownLine
  | .friendMark => data.showFriendMark
  | .name _ => data.showName && !data.name.isEmpty
  | .clan _ => data.showClan && !data.clan.isEmpty
  | .hookIcon _ => data.showHook
  | .hookId _ => data.showHookId
  | .lineBreak => false

/-- The text that stands in this part when it is visible, and its size. -/
def caption? (data : PlateData) : PartContent → Option Container
  | .clientId ownLine _ =>
      some
        { text := toString data.clientId ++ if ownLine then "" else ":"
          fontSize := data.fontSizeClientId }
  | .name _ => some { text := data.name, fontSize := data.fontSize }
  | .clan _ => some { text := data.clan, fontSize := data.fontSizeClan }
  | .hookId _ => some { text := toString data.hookId.toInt, fontSize := data.fontSizeHook }
  | .arrow _ | .friendMark | .hookIcon _ | .lineBreak => none

@[simp] theorem shown_blank (content : PartContent) (data : PlateData) :
    content.blank.shown data = content.shown data := by
  cases content <;> rfl

@[simp] theorem caption?_blank (content : PartContent) (data : PlateData) :
    content.blank.caption? data = content.caption? data := by
  cases content <;> rfl

@[simp] theorem blank_mapText (content : PartContent) (change : CachedText → CachedText) :
    (content.mapText change).blank = content.blank := by
  cases content <;> rfl

theorem text?_eq_none_of_caption? {content : PartContent} {data : PlateData}
    (h : content.text? = none) : content.caption? data = none := by
  cases content with
  | arrow | friendMark | hookIcon | lineBreak => rfl
  | clientId | name | clan | hookId => cases h

/-- A text that is wanted is the one that stands there, and is shown unless it is empty. -/
theorem shown_of_wanted {content : PartContent} {data : PlateData} (hid : data.clientId < 2 ^ 64)
    {want : Wanted} (hwant : content.wanted? data = some want) :
    content.shown data = !want.text.isEmpty ∧
      content.caption? data = some { text := want.text, fontSize := want.fontSize } := by
  have hnonempty : ∀ {text : String}, text ≠ "" → text.isEmpty = false := by
    intro text htext
    rw [← Bool.not_eq_true, String.isEmpty_iff]
    exact htext
  cases content with
  | clientId ownLine cached =>
      simp only [wanted?, Option.ite_none_right_eq_some, Option.some.injEq] at hwant
      obtain ⟨hshown, rfl⟩ := hwant
      rw [shown, hshown, caption?, hnonempty (Part.clientIdText_ne_empty hid ownLine),
        Part.clientIdText_eq hid]
      exact ⟨rfl, rfl⟩
  | name cached =>
      simp only [wanted?, Option.ite_none_right_eq_some, Option.some.injEq] at hwant
      obtain ⟨hshown, rfl⟩ := hwant
      rw [shown, hshown, caption?]
      exact ⟨Bool.true_and _, rfl⟩
  | clan cached =>
      simp only [wanted?, Option.ite_none_right_eq_some, Option.some.injEq] at hwant
      obtain ⟨hshown, rfl⟩ := hwant
      rw [shown, hshown, caption?]
      exact ⟨Bool.true_and _, rfl⟩
  | hookId cached =>
      simp only [wanted?, Option.ite_none_right_eq_some, Option.some.injEq] at hwant
      obtain ⟨hshown, rfl⟩ := hwant
      rw [shown, hshown, caption?, hnonempty (Part.hookIdText_ne_empty _), Part.hookIdText_eq]
      exact ⟨rfl, rfl⟩
  | arrow | friendMark | hookIcon | lineBreak => cases hwant

theorem shown_of_not_wanted {content : PartContent} {data : PlateData} {cached : CachedText}
    (htext : content.text? = some cached) (hwant : content.wanted? data = none) :
    content.shown data = false := by
  cases content with
  | clientId ownLine text =>
      simp only [wanted?, ite_eq_right_iff, reduceCtorEq, imp_false, Bool.not_eq_true] at hwant
      exact hwant
  | name | clan =>
      simp only [wanted?, ite_eq_right_iff, reduceCtorEq, imp_false, Bool.not_eq_true] at hwant
      rw [shown, hwant, Bool.false_and]
  | hookId text =>
      simp only [wanted?, ite_eq_right_iff, reduceCtorEq, imp_false, Bool.not_eq_true] at hwant
      exact hwant
  | arrow | friendMark | hookIcon | lineBreak => cases htext

end PartContent

/-! ## Parts -/

namespace Part

theorem content_blank (part : Part) : part.blank.content = part.content.blank := by
  obtain ⟨content, box, color⟩ := part
  cases content <;> rfl

/-- Whether a part ends its line, and whether it keeps its room, never changes. -/
theorem room_eq (part : Part) :
    (part.box.lineBreak, part.box.takesSpace) =
      (part.blank.box.lineBreak,
        !part.blank.box.lineBreak && (part.box.visible || part.blank.box.reserved)) := by
  obtain ⟨content, box, color⟩ := part
  cases content <;> rfl

theorem visible_restyled {part : Part} (htext : part.content.text? = none)
    (hblank : part.blank ∈ Plate.template) (data : PlateData) :
    (part.restyled data).box.visible = part.content.shown data := by
  have hbreaks : ∀ model ∈ Plate.template, model.content = .lineBreak →
      model.box.visible = false := by
    decide
  obtain ⟨content, box, color⟩ := part
  cases content with
  | arrow heading =>
      by_cases hshown : data.showDirection <;>
        simp [restyled, updateArrow, PartContent.shown, setVisible, hshown]
  | friendMark =>
      by_cases hshown : data.showFriendMark <;>
        simp [restyled, PartContent.shown, setVisible, setSize, hshown]
  | hookIcon sprite =>
      by_cases hshown : data.showHook <;>
        simp [restyled, PartContent.shown, setVisible, setSize, hshown]
  | lineBreak => exact hbreaks _ hblank rfl
  | clientId | name | clan | hookId => cases htext

/-- An update shows a text if the data asks for one that is not empty. -/
theorem updated_of_text {part : Part} {cached : CachedText}
    (htext : part.content.text? = some cached) (hsound : part.Sound) {data : PlateData}
    (hdata : data.Sized) (hid : data.clientId < 2 ^ 64) :
    (part.updated data false).box.visible = part.content.shown data ∧
      ((part.updated data false).box.visible → ∃ text,
        (part.updated data false).content.text? = some text ∧
          text.container? = part.content.caption? data) := by
  cases hwant : part.content.wanted? data with
  | none =>
      rw [updated_of_not_wanted htext hwant, PartContent.shown_of_not_wanted htext hwant]
      exact ⟨rfl, by simp [setVisible]⟩
  | some want =>
      obtain ⟨hshown, hcaption⟩ := PartContent.shown_of_wanted hid hwant
      have hrefreshed := CachedText.refreshed_eq (hsound cached (by simp [texts_eq htext]))
        want.text (hdata.wanted hwant)
      rw [CachedText.refreshed_new] at hrefreshed
      rw [updated_of_wanted htext hwant, hrefreshed, hshown, hcaption]
      cases want.text.isEmpty with
      | true => exact ⟨rfl, by simp [CachedText.measure?, CachedText.container?, fit, setVisible]⟩
      | false =>
          let text : CachedText :=
            { handle := some 0, text := want.text, fontSize := want.fontSize }
          refine ⟨rfl, fun _ => ⟨text, ?_, rfl⟩⟩
          rw [content_fit, PartContent.text?_withText, htext]
          rfl

/-- What is visible after an update is told by the data. -/
theorem visible_updated {part : Part} (hblank : part.blank ∈ Plate.template)
    (hsound : part.Sound) {data : PlateData} (hdata : data.Sized)
    (hid : data.clientId < 2 ^ 64) :
    (part.updated data false).box.visible = part.content.shown data := by
  cases htext : part.content.text? with
  | none =>
      rw [updated_of_no_text htext]
      exact visible_restyled htext hblank data
  | some cached => exact (updated_of_text htext hsound hdata hid).1

/-- A visible part with a caption remembers it under a valid handle. -/
theorem text?_updated {part : Part} (hsound : part.Sound) {data : PlateData} (hdata : data.Sized)
    (hid : data.clientId < 2 ^ 64) {caption : Container}
    (hcaption : part.content.caption? data = some caption)
    (hvisible : (part.updated data false).box.visible) :
    ∃ text, (part.updated data false).content.text? = some text ∧
      text.container? = some caption := by
  cases htext : part.content.text? with
  | none =>
      rw [PartContent.text?_eq_none_of_caption? htext] at hcaption
      cases hcaption
  | some cached =>
      rw [← hcaption]
      exact (updated_of_text htext hsound hdata hid).2 hvisible

end Part

/-! ## Plates -/

namespace Plate

/-- While shaping works, an update leaves of the past only what updates never change. -/
theorem Settled.map_visible_updated {plate : Plate} (h : plate.Settled) {data : PlateData}
    (hdata : data.Sized) (hid : data.clientId < 2 ^ 64) :
    (plate.updated data false).parts.map (fun part => (part.blank, part.box.visible)) =
      template.map fun model => (model, model.content.shown data) := by
  rw [← map_blank_partsOrTemplate h, List.map_map]
  show (plate.partsOrTemplate.map (·.updated data false)).map _ = _
  rw [List.map_map]
  refine List.map_congr_left fun part hpart => ?_
  have hblank : part.blank ∈ template := by
    rw [← map_blank_partsOrTemplate h]
    exact List.mem_map_of_mem hpart
  have hvisible := Part.visible_updated hblank (sound_partsOrTemplate h part hpart) hdata hid
  simp [Part.blank_updated, hvisible, Part.content_blank]

theorem Settled.text?_updated {plate : Plate} (h : plate.Settled) {data : PlateData}
    (hdata : data.Sized) (hid : data.clientId < 2 ^ 64) {part : Part}
    (hpart : part ∈ (plate.updated data false).parts) (hvisible : part.box.visible)
    {caption : Container} (hcaption : part.content.caption? data = some caption) :
    ∃ text, part.content.text? = some text ∧ text.container? = some caption := by
  obtain ⟨old, hold, rfl⟩ := List.mem_map.mp hpart
  refine Part.text?_updated (sound_partsOrTemplate h old hold) hdata hid ?_ hvisible
  rw [← PartContent.caption?_blank, ← Part.content_blank, Part.blank_updated] at hcaption
  rwa [← PartContent.caption?_blank, ← Part.content_blank]

/-- The arrows keep their line; any other line needs a visible part. -/
theorem Settled.lines_updated {plate : Plate} (h : plate.Settled) {data : PlateData}
    (hdata : data.Sized) (hid : data.clientId < 2 ^ 64) :
    (plate.updated data false).lines =
      1 + ((PartContent.clientId false {}).shown data || PartContent.friendMark.shown data ||
            (PartContent.name {}).shown data).toNat +
          ((PartContent.clan {}).shown data).toNat +
          ((PartContent.clientId true {}).shown data).toNat +
          ((PartContent.hookIcon .hookIcon).shown data ||
            (PartContent.hookId {}).shown data).toNat := by
  let room (seen : Part × Bool) : Bool × Bool :=
    (seen.1.box.lineBreak, !seen.1.box.lineBreak && (seen.2 || seen.1.box.reserved))
  let parts := plate.partsOrTemplate.map (·.updated data false)
  have hlines : (plate.updated data false).lines =
      Layout.countLines false (template.map fun model => room (model, model.content.shown data)) := by
    calc
      (plate.updated data false).lines =
          Layout.countLines false
            ((parts.map (·.box)).map fun box => (box.lineBreak, box.takesSpace)) :=
        Layout.lines_arrange _ _
      _ = Layout.countLines false
            ((parts.map fun part => (part.blank, part.box.visible)).map room) := by
        simp only [List.map_map, Function.comp_def, Part.room_eq, room]
      _ = _ := by
        have hvisible := h.map_visible_updated hdata hid
        have hparts : (plate.updated data false).parts = parts := rfl
        rw [hparts] at hvisible
        rw [hvisible, List.map_map]
        rfl
  rw [hlines]
  simp only [template, room, Layout.countLines, List.map_cons, List.map_nil, Part.arrow,
    Part.clientId, Part.lineBreak, Part.friendMark, Part.name, Part.clan, Part.hookIcon,
    Part.hookId, PartBox.plain, PartBox.newLine]
  simp only [Bool.not_false, Bool.true_and, Bool.false_or, Bool.or_false, Bool.or_true,
    Bool.toNat_true]
  omega

/-! ## Every plate -/

/-- Plates on a canvas, with whatever past. Between two orders the canvas may change in any way that
leaves the plate its texts: shaping starts to fail or works again, the screen moves, and other plates
come and go. -/
inductive Reached : Plate → Recording → Prop where
  | new (canvas : Recording) : Reached {} canvas
  | updated {plate : Plate} {canvas : Recording} (h : Reached plate canvas) (data : PlateData) :
      Reached (plate.update data canvas).1 (plate.update data canvas).2
  | rendered {plate : Plate} {canvas : Recording} (h : Reached plate canvas) (data : PlateData) :
      Reached (plate.render data canvas).1 (plate.render data canvas).2
  | reset {plate : Plate} {canvas : Recording} (h : Reached plate canvas) :
      Reached (plate.reset canvas).1 (plate.reset canvas).2
  | meanwhile {plate : Plate} {canvas later : Recording} (h : Reached plate canvas)
      (hkept : ∀ cached ∈ plate.texts, later.find cached.handle = canvas.find cached.handle) :
      Reached plate later

/-- Every plate is settled, and its texts are its own. -/
theorem Reached.settled {plate : Plate} {canvas : Recording} (h : plate.Reached canvas) :
    plate.anonymous.Settled ∧ ∃ rest, Owns (plate.texts ++ rest) canvas := by
  induction h with
  | new canvas => exact ⟨settled_new, exists_owns canvas⟩
  | updated h data ih =>
      obtain ⟨hsettled, rest, howns⟩ := ih
      obtain ⟨hupdated, hyields⟩ := update_yields howns data
      exact ⟨hupdated ▸ hsettled.updated data _, rest, hyields.owns⟩
  | rendered h data ih =>
      obtain ⟨hsettled, rest, howns⟩ := ih
      obtain ⟨hrendered, hyields⟩ := render_yields howns data
      exact ⟨hrendered ▸ hsettled.updated data _, rest, hyields.owns⟩
  | @reset plate canvas h ih =>
      obtain ⟨hsettled, rest, howns⟩ := ih
      rw [fst_reset, anonymous_cleared, ← cleared_anonymous]
      exact ⟨hsettled.cleared, rest, (cleared_anonymous plate ▸ reset_yields howns).owns⟩
  | @meanwhile plate canvas later h hkept ih =>
      obtain ⟨hsettled, rest, howns⟩ := ih
      refine ⟨hsettled, exists_owns_beside ?_ fun cached hc => ?_⟩
      · have hdistinct := howns.distinct
        rw [handles_append] at hdistinct
        exact (List.nodup_append.mp hdistinct).1
      · rw [hkept cached hc]
        exact howns.kept cached (List.mem_append_left _ hc)

/-- What a part remembers is kept for it under its handle. -/
theorem find_of_container? {plate : Plate} {rest : List CachedText} {canvas : Recording}
    (howns : Owns (plate.texts ++ rest) canvas) {part : Part} (hpart : part ∈ plate.parts)
    {text : CachedText} (htext : part.anonymous.content.text? = some text) :
    ∃ cached, part.content.text? = some cached ∧ canvas.find cached.handle = text.container? := by
  have hown : part.content.text?.map CachedText.anonymous = some text :=
    (Part.text?_renumber _ part).symm.trans htext
  obtain ⟨cached, hcached, rfl⟩ := Option.map_eq_some_iff.mp hown
  have hmem : cached ∈ plate.texts :=
    List.mem_flatMap.mpr ⟨part, hpart, by simp [Part.texts_eq hcached]⟩
  refine ⟨cached, hcached, ?_⟩
  rw [howns.kept cached (List.mem_append_left _ hmem), CachedText.container?_anonymous]

/-- While shaping works, every update makes of every plate the usual parts in their order, shows just
those that the data has something for, keeps their texts under their handles, and counts the line of
the arrows and every line with a visible part. -/
theorem updates_show_what_data_says {plate : Plate} {canvas : Recording}
    (hplate : plate.Reached canvas) (hworks : canvas.failShaping = false) {data : PlateData}
    (hdata : data.Sized) (hid : data.clientId < 2 ^ 64) :
    let updated := (plate.update data canvas).1
    let later := (plate.update data canvas).2
    let innerId := data.showClientId && !data.clientIdNewLine
    let ownId := data.showClientId && data.clientIdNewLine
    let name := data.showName && !data.name.isEmpty
    let clan := data.showClan && !data.clan.isEmpty
    updated.parts.map (fun part => (part.content.blank, part.box.visible)) =
        [ (.arrow .left, data.showDirection && data.dirLeft),
          (.arrow .jump, data.showDirection && data.dirJump),
          (.arrow .right, data.showDirection && data.dirRight),
          (.lineBreak, false),
          (.clientId false {}, innerId),
          (.friendMark, data.showFriendMark),
          (.name {}, name),
          (.lineBreak, false),
          (.clan {}, clan),
          (.lineBreak, false),
          (.clientId true {}, ownId),
          (.lineBreak, false),
          (.hookIcon .hookIcon, data.showHook),
          (.hookId {}, data.showHookId) ] ∧
      (innerId && ownId) = false ∧
      (∀ part ∈ updated.parts, part.box.visible → ∀ caption,
        part.content.caption? data = some caption →
          ∃ cached, part.content.text? = some cached ∧ later.find cached.handle = some caption) ∧
      updated.lines =
        1 + (innerId || data.showFriendMark || name).toNat + clan.toNat + ownId.toNat +
          (data.showHook || data.showHookId).toNat := by
  intro updated later innerId ownId name clan
  obtain ⟨hsettled, rest, howns⟩ := hplate.settled
  obtain ⟨hupdated, hyields⟩ := update_yields howns data
  rw [hworks] at hupdated
  refine ⟨?_, ?_, fun part hpart hvisible caption hcaption => ?_, ?_⟩
  · have hparts : updated.parts.map (fun part => (part.content.blank, part.box.visible)) =
        (updated.anonymous.parts.map fun part => (part.blank, part.box.visible)).map
          fun seen => (seen.1.content, seen.2) := by
      simp [anonymous, Part.anonymous, Part.content_blank]
    rw [hparts, hupdated, hsettled.map_visible_updated hdata hid]
    simp [template, Part.arrow, Part.clientId, Part.lineBreak, Part.friendMark, Part.name,
      Part.clan, Part.hookIcon, Part.hookId, PartContent.shown, Heading.shownIn, innerId, ownId,
      name, clan]
  · cases hline : data.clientIdNewLine <;> simp [innerId, ownId, hline]
  · have hanonymous : part.anonymous ∈ updated.anonymous.parts := List.mem_map_of_mem hpart
    rw [hupdated] at hanonymous
    have hcaption' : part.anonymous.content.caption? data = some caption := by
      rw [← hcaption, ← PartContent.caption?_blank, Part.anonymous, PartContent.blank_mapText,
        PartContent.caption?_blank]
    obtain ⟨text, htext, hcontainer⟩ :=
      hsettled.text?_updated hdata hid hanonymous hvisible hcaption'
    obtain ⟨cached, hcached, hfound⟩ := find_of_container? hyields.owns hpart htext
    exact ⟨cached, hcached, hfound.trans hcontainer⟩
  · have hlines := hsettled.lines_updated hdata hid
    rw [← hupdated] at hlines
    have hlines' : updated.lines = updated.anonymous.lines := rfl
    rw [hlines', hlines]
    simp [PartContent.shown, innerId, ownId, name, clan]

/-- A tee without a clan, with its id on a line of its own and a negative hook id. -/
def tee : PlateData :=
  { showName := true
    name := "nameless tee"
    showClientId := true
    clientIdNewLine := true
    clientId := 7
    showClan := true
    showHookId := true
    hookId := -5 }

theorem updates_show_what_data_says_after_failure :
    let failed := ({} : Plate).update tee ({ failShaping := true } : Recording)
    let repaired := { failed.2 with failShaping := false }
    let updated := failed.1.update tee repaired
    failed.1.Reached repaired ∧ repaired.failShaping = false ∧ tee.Sized ∧ tee.clientId < 2 ^ 64 ∧
      updated.1.parts.map (·.box.visible) =
        [false, false, false, false, false, false, true, false, false, false, true, false, false,
          true] ∧
      updated.1.lines = 4 ∧
      ∃ part ∈ updated.1.parts, ∃ cached, part.content.text? = some cached ∧
        updated.2.find cached.handle =
          some { text := "7", fontSize := fontSizeOfPercent 50 } := by
  intro failed repaired updated
  have hfailed : failed.1.Reached failed.2 := (Reached.new _).updated tee
  have hreached : failed.1.Reached repaired := hfailed.meanwhile fun _ _ => rfl
  have hsized : tee.Sized :=
    ⟨fontSizeOfPercent_pos _, fontSizeOfPercent_pos _, fontSizeOfPercent_pos _,
      fontSizeOfPercent_pos _⟩
  have hid : tee.clientId < 2 ^ 64 := by decide
  obtain ⟨hparts, -, hcaptions, hlines⟩ := updates_show_what_data_says hreached rfl hsized hid
  refine ⟨hreached, rfl, hsized, hid, ?_, hlines, ?_⟩
  · have hvisible := congrArg (List.map Prod.snd) hparts
    rw [List.map_map] at hvisible
    exact hvisible
  · have hownId : (PartContent.clientId true {}, true) ∈
        updated.1.parts.map fun part => (part.content.blank, part.box.visible) := by
      rw [hparts]
      decide
    obtain ⟨part, hpart, hseen⟩ := List.mem_map.mp hownId
    obtain ⟨hcontent, hvisible⟩ := Prod.mk.inj hseen
    refine ⟨part, hpart, hcaptions part hpart hvisible _ ?_⟩
    rw [← PartContent.caption?_blank, hcontent]
    rfl

end Plate
end Overhead
