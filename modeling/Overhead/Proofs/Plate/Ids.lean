import Overhead.Proofs.Plate.Content
import Overhead.Proofs.Plate.Fresh

/-!
# Ids on a plate

A part that shows an id remembers the text of the id it showed last. Ids have different texts just if
they are different, so the part has its text shaped again just when the id is another one.
-/

namespace Overhead

open Recording

namespace CachedText

structure Holds (cached : CachedText) (text : String) (fontSize : Float32) : Prop where
  handle : cached.handle.isSome
  text_eq : cached.text = text
  fontSize_eq : cached.fontSize = fontSize

/-- A text that the cache has is shaped again just if another one is asked for. -/
theorem Holds.needsUpdate_eq {cached : CachedText} {text : String} {fontSize : Float32}
    (h : cached.Holds text fontSize) (hsize : 0 < fontSize) (next : String) :
    cached.needsUpdate next fontSize = (text != next) := by
  have hvalid : cached.handle.isNone = false := by
    rw [← Option.not_isSome, h.handle]
    rfl
  have hequal : (fontSize == fontSize) = true := Single.beq_self_of_pos hsize
  rw [needsUpdate, hvalid, h.text_eq, h.fontSize_eq, bne, hequal]
  rfl

section

variable {σ : Type} [Canvas σ]

theorem isSome_extent? (cached : CachedText) (canvas : σ) :
    (cached.extent? canvas).isSome = cached.handle.isSome := by
  unfold extent?
  split
  · next h => rw [h, Option.isSome_some]
  · next h => rw [eq_false_of_ne_true h, Option.isSome_none]

theorem isSome_fst_update (cached : CachedText) (text : String) (fontSize : Float32)
    (inGame : Bool) (canvas : σ) :
    (cached.update text fontSize inGame canvas).1.isSome =
      (cached.update text fontSize inGame canvas).2.1.handle.isSome :=
  isSome_extent? _ _

/-- A cache that tells an extent has the text that it was updated to. -/
theorem holds_update (cached : CachedText) (text : String) {fontSize : Float32}
    (hsize : 0 < fontSize) (inGame : Bool) (canvas : σ)
    (hshown : (cached.update text fontSize inGame canvas).1.isSome) :
    (cached.update text fontSize inGame canvas).2.1.Holds text fontSize := by
  have hvalid : (cached.update text fontSize inGame canvas).2.1.handle.isSome := by
    rwa [isSome_fst_update] at hshown
  by_cases hneeds : cached.needsUpdate text fontSize
  · cases inGame with
    | true =>
        rw [update, if_pos hneeds] at hvalid ⊢
        exact ⟨hvalid, rfl, rfl⟩
    | false =>
        rw [update, if_pos hneeds] at hvalid ⊢
        exact ⟨hvalid, rfl, rfl⟩
  · rw [update, if_neg hneeds] at hvalid ⊢
    obtain ⟨-, htext, hfont⟩ := kept_of_not_needsUpdate hneeds
    exact ⟨hvalid, htext, Single.eq_of_beq_of_pos hfont hsize⟩

end

/-- While shaping works, an update to a text tells its extent. -/
theorem isSome_update_of_works (cached : CachedText) {text : String}
    (hspelled : text.isEmpty = false) (fontSize : Float32) (inGame : Bool) {canvas : Recording}
    (hworks : canvas.failShaping = false) :
    (cached.update text fontSize inGame canvas).1.isSome := by
  have hshaped : ∀ shaped : CachedText, shaped.anonymous =
      { handle := if canvas.failShaping || text.isEmpty then none else some 0
        text := text
        fontSize := fontSize } → shaped.handle.isSome := by
    intro shaped hanonymous
    have hhandle := congrArg CachedText.handle hanonymous
    rw [handle_anonymous, hworks, hspelled] at hhandle
    rw [← Option.isSome_map, hhandle]
    rfl
  rw [isSome_fst_update]
  by_cases hneeds : cached.needsUpdate text fontSize
  · cases inGame with
    | true =>
        rw [update, if_pos hneeds]
        exact hshaped _ (anonymous_reshapeInGame cached text fontSize canvas)
    | false =>
        rw [update, if_pos hneeds]
        exact hshaped _ (anonymous_reshape cached text fontSize canvas)
  · rw [update, if_neg hneeds]
    exact (kept_of_not_needsUpdate hneeds).1

end CachedText

namespace PartContent

/-- The id that a part shows, if it is the part of an id that the data shows, and the size of its
text. -/
def shownId? (data : PlateData) : PartContent → Option (Int × Float32)
  | .clientId ownLine _ =>
      if data.showClientId && data.clientIdNewLine == ownLine then
        some (data.clientId, data.fontSizeClientId)
      else none
  | .hookId _ => if data.showHookId then some (data.hookId.toInt, data.fontSizeHook) else none
  | .arrow _ | .friendMark | .name _ | .clan _ | .hookIcon _ | .lineBreak => none

/-- What stands behind the id of a part. -/
def idMark : PartContent → String
  | .clientId ownLine _ => if ownLine then "" else ":"
  | .arrow _ | .friendMark | .name _ | .clan _ | .hookIcon _ | .hookId _ | .lineBreak => ""

theorem utf8ByteSize_idMark (content : PartContent) : content.idMark.utf8ByteSize ≤ 1 := by
  have hcolon : ":".utf8ByteSize ≤ 1 := by decide
  have hnone : "".utf8ByteSize ≤ 1 := by decide
  cases content with
  | clientId ownLine cached =>
      cases ownLine with
      | true => exact hnone
      | false => exact hcolon
  | arrow | friendMark | name | clan | hookIcon | hookId | lineBreak => exact hnone

/-- An id that is shown is the text of its part, and small enough to be written out. -/
theorem wanted?_of_shownId? {content : PartContent} {data : PlateData} {id : Int}
    {fontSize : Float32} (hid : data.clientId < 2 ^ 64)
    (h : content.shownId? data = some (id, fontSize)) :
    -2 ^ 63 ≤ id ∧ id < 2 ^ 64 ∧ ∃ cached color, content.text? = some cached ∧
      content.wanted? data =
        some
          { text := IdText.format id content.idMark
            fontSize := fontSize
            color := color } := by
  cases content with
  | clientId ownLine cached =>
      simp only [shownId?, Option.ite_none_right_eq_some, Option.some.injEq, Prod.mk.injEq] at h
      obtain ⟨hshown, rfl, rfl⟩ := h
      refine ⟨by omega, by omega, cached, data.color, rfl, ?_⟩
      rw [wanted?, if_pos hshown]
      rfl
  | hookId cached =>
      simp only [shownId?, Option.ite_none_right_eq_some, Option.some.injEq, Prod.mk.injEq] at h
      obtain ⟨hshown, rfl, rfl⟩ := h
      have hlow := data.hookId.le_toInt
      have hhigh := data.hookId.toInt_lt
      refine ⟨by omega, by omega, cached, data.hook.color.withAlpha data.alpha, rfl, ?_⟩
      rw [wanted?, if_pos hshown]
      rfl
  | arrow | friendMark | name | clan | hookIcon | lineBreak => cases h

end PartContent

namespace Part

section

variable {σ : Type} [Canvas σ] {part : Part} {cached : CachedText} {data other : PlateData}
  {want next : Wanted}

theorem update_of_wanted (htext : part.content.text? = some cached)
    (hwant : part.content.wanted? data = some want) (canvas : σ) :
    (part.update data canvas).1 =
      let updated := cached.update want.text want.fontSize data.inGame canvas
      { part.setVisible true with
        content := part.content.withText updated.2.1
        color := want.color }.fit updated.1 := by
  rw [update_of_text htext, hwant]
  rfl

theorem visible_update (htext : part.content.text? = some cached)
    (hwant : part.content.wanted? data = some want) (canvas : σ) :
    (part.update data canvas).1.box.visible =
      (cached.update want.text want.fontSize data.inGame canvas).1.isSome := by
  rw [update_of_wanted htext hwant]
  dsimp only
  cases (cached.update want.text want.fontSize data.inGame canvas).1 <;> rfl

/-- A part that shows a text has it, and is shaped again just if it is asked for another one. -/
theorem reshapes_update (htext : part.content.text? = some cached)
    (hwant : part.content.wanted? data = some want) (hsize : 0 < want.fontSize) {canvas : σ}
    (hvisible : (part.update data canvas).1.box.visible)
    (hnext : part.content.wanted? other = some next) (hsame : next.fontSize = want.fontSize) :
    (part.update data canvas).1.reshapes other = (want.text != next.text) := by
  let updated := cached.update want.text want.fontSize data.inGame canvas
  have hcontent : (part.update data canvas).1.content = part.content.withText updated.2.1 := by
    rw [update_of_wanted htext hwant, content_fit]
  have hkept : (part.update data canvas).1.content.text? = some updated.2.1 := by
    rw [hcontent, PartContent.text?_withText, htext]
    rfl
  have hasked : (part.update data canvas).1.content.wanted? other = some next := by
    rw [hcontent, PartContent.wanted?_withText, hnext]
  have hholds : updated.2.1.Holds want.text want.fontSize := by
    rw [visible_update htext hwant] at hvisible
    exact cached.holds_update want.text hsize data.inGame canvas hvisible
  rw [reshapes_of_wanted hkept hasked, hsame]
  exact hholds.needsUpdate_eq hsize next.text

end

/-! ## Ids -/

/-- The text of an id is its decimal digits and its mark, whatever id it is, so ids with the same
mark have different texts. A part that is visible with an id is shaped by its next update in the same
size just if the id is another one, on any canvas; and while shaping works a part that shows an id is
visible. -/
theorem ids_are_shaped_when_they_change :
    (∀ mark : String, mark.utf8ByteSize ≤ 1 →
      (∀ id : UInt64, (IdText.format id.toNat mark).toList =
        IdText.decimal id.toNat ++ mark.toList) ∧
      (∀ id : Int32, (IdText.format id.toInt mark).toList =
        IdText.decimal id.toInt ++ mark.toList) ∧
      (∀ id other : UInt64,
        IdText.format id.toNat mark = IdText.format other.toNat mark → id = other) ∧
      ∀ id other : Int32,
        IdText.format id.toInt mark = IdText.format other.toInt mark → id = other) ∧
    ∀ (part : Part) (data other : PlateData) (id id' : Int) (fontSize : Float32),
      data.clientId < 2 ^ 64 → other.clientId < 2 ^ 64 →
      part.content.shownId? data = some (id, fontSize) →
      part.content.shownId? other = some (id', fontSize) → 0 < fontSize →
        (∀ {σ : Type} [Canvas σ] (canvas : σ) (later : Counted σ),
          (part.update data canvas).1.box.visible →
            ((part.update data canvas).1.update other later).2.shapings =
              later.shapings + if id' = id then 0 else 1) ∧
        ∀ canvas : Recording, canvas.failShaping = false →
          (part.update data canvas).1.box.visible := by
  refine ⟨fun mark hmark => ⟨fun id => ?_, fun id => ?_, fun id other h => ?_,
    fun id other h => ?_⟩, fun part data other id id' fontSize hid hid' hshown hshown' hsize =>
    ⟨fun canvas later hvisible => ?_, fun canvas hworks => ?_⟩⟩
  · have hhigh := id.toNat_lt
    exact IdText.toList_format (by omega) (by omega) hmark
  · have hlow := id.le_toInt
    have hhigh := id.toInt_lt
    exact IdText.toList_format (by omega) (by omega) hmark
  · have hhigh := id.toNat_lt
    have hhigh' := other.toNat_lt
    have heq := IdText.eq_of_format_eq (by omega) (by omega) (by omega) (by omega) hmark h
    exact UInt64.toNat_inj.mp (Int.ofNat.inj heq)
  · have hlow := id.le_toInt
    have hhigh := id.toInt_lt
    have hlow' := other.le_toInt
    have hhigh' := other.toInt_lt
    have heq := IdText.eq_of_format_eq (by omega) (by omega) (by omega) (by omega) hmark h
    exact Int32.toInt_inj.mp heq
  · obtain ⟨hlow, hhigh, cached, color, htext, hwant⟩ :=
      PartContent.wanted?_of_shownId? hid hshown
    obtain ⟨hlow', hhigh', -, color', -, hwant'⟩ := PartContent.wanted?_of_shownId? hid' hshown'
    have hmark := part.content.utf8ByteSize_idMark
    rw [shapings_update, reshapes_update htext hwant hsize hvisible hwant' rfl]
    by_cases hsame : id' = id
    · simp [hsame]
    · have htexts : IdText.format id part.content.idMark ≠
          IdText.format id' part.content.idMark := by
        intro heq
        exact hsame (IdText.eq_of_format_eq hlow hhigh hlow' hhigh' hmark heq).symm
      simp [hsame, htexts]
  · obtain ⟨hlow, hhigh, cached, color, htext, hwant⟩ :=
      PartContent.wanted?_of_shownId? hid hshown
    have hspelled : (IdText.format id part.content.idMark).isEmpty = false := by
      rw [← Bool.not_eq_true, String.isEmpty_iff]
      exact IdText.format_ne_empty hlow hhigh part.content.utf8ByteSize_idMark
    rw [visible_update htext hwant]
    exact cached.isSome_update_of_works hspelled fontSize data.inGame hworks

def withId (id : Nat) : PlateData :=
  { showClientId := true, clientId := id }

/-- The longest ids are complete, and an id is shaped when it follows another one. -/
theorem ids_are_shaped_when_they_change_of_seven :
    (IdText.format (UInt64.toNat 18446744073709551615) ":").toList =
        "18446744073709551615:".toList ∧
      (IdText.format (Int32.toInt (-2147483648)) "").toList = "-2147483648".toList ∧
      ∃ shown, ((clientId false).update (withId 7) ({} : Recording)).1 = shown ∧
        shown.box.visible ∧ ∀ later : Counted Recording,
          (shown.update (withId 7) later).2.shapings = later.shapings ∧
            (shown.update (withId 17) later).2.shapings = later.shapings + 1 := by
  obtain ⟨htexts, hshaped⟩ := ids_are_shaped_when_they_change
  obtain ⟨hclient, -, -, -⟩ := htexts ":" (by decide)
  obtain ⟨-, hhook, -, -⟩ := htexts "" (by decide)
  have hid : 7 < 2 ^ 64 := by decide
  have hid' : 17 < 2 ^ 64 := by decide
  have hsize : 0 < fontSizeOfPercent 50 := fontSizeOfPercent_pos 50
  obtain ⟨hstays, hworks⟩ := hshaped (clientId false) (withId 7) (withId 7) 7 7
    (fontSizeOfPercent 50) hid hid rfl rfl hsize
  obtain ⟨hchanges, -⟩ := hshaped (clientId false) (withId 7) (withId 17) 7 17
    (fontSizeOfPercent 50) hid hid' rfl rfl hsize
  have hvisible := hworks {} rfl
  refine ⟨?_, ?_, _, rfl, hvisible, fun later => ⟨?_, ?_⟩⟩
  · rw [hclient]
    rfl
  · rw [hhook]
    rfl
  · rw [hstays {} later hvisible]
    rfl
  · rw [hchanges {} later hvisible]
    rfl

end Part

end Overhead
