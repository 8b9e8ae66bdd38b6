import Overhead.Proofs.Plate.Content
import Overhead.Proofs.Plate.Fresh

/-!
# Updating a plate again

The same data asks for the same texts, and a text that was shaped is not shaped again. An empty text
gets no handle, so the cache cannot tell it from a text that was never shaped, and every update asks
the canvas for it once more. Ids are never empty, so only a name or a clan can be asked for in vain.
-/

namespace Overhead

open Recording

/-- A text that was just asked for has to be shaped again just if it is empty. -/
theorem CachedText.needsUpdate_again {cached : CachedText} (h : cached.Sound) (text : String)
    {fontSize : Float32} (hsize : 0 < fontSize) :
    (cached.refreshed text fontSize false).needsUpdate text fontSize = text.isEmpty := by
  have hequal : (fontSize == fontSize) = true := Single.beq_self_of_pos hsize
  rw [refreshed_eq h text hsize, refreshed_new]
  cases hempty : text.isEmpty <;> simp [needsUpdate, bne, hequal]

namespace PartContent

/-- The part is asked for a text, but has nothing to show. -/
def vain (data : PlateData) (content : PartContent) : Bool :=
  (content.wanted? data).isSome && !content.shown data

theorem wanted?_of_no_text {content : PartContent} (h : content.text? = none)
    (data : PlateData) : content.wanted? data = none := by
  cases content with
  | arrow | friendMark | hookIcon | lineBreak => rfl
  | clientId | name | clan | hookId => cases h

theorem vain_blank (content : PartContent) (data : PlateData) :
    content.blank.vain data = content.vain data := by
  cases content <;> rfl

theorem vain_eq (content : PartContent) (data : PlateData) :
    content.vain data =
      match content with
      | .name _ => data.showName && data.name.isEmpty
      | .clan _ => data.showClan && data.clan.isEmpty
      | .arrow _ | .clientId _ _ | .friendMark | .hookIcon _ | .hookId _ | .lineBreak => false := by
  cases content with
  | arrow | friendMark | hookIcon | lineBreak => rfl
  | clientId ownLine cached =>
      by_cases hshown : data.showClientId && data.clientIdNewLine == ownLine <;>
        simp [vain, wanted?, shown, hshown]
  | name cached => by_cases hshown : data.showName <;> simp [vain, wanted?, shown, hshown]
  | clan cached => by_cases hshown : data.showClan <;> simp [vain, wanted?, shown, hshown]
  | hookId cached => by_cases hshown : data.showHookId <;> simp [vain, wanted?, shown, hshown]

theorem vain_of_wanted {content : PartContent} {data : PlateData} (hid : data.clientId < 2 ^ 64)
    {want : Wanted} (hwant : content.wanted? data = some want) :
    content.vain data = want.text.isEmpty := by
  rw [vain, hwant, (shown_of_wanted hid hwant).1]
  simp

end PartContent

namespace Part

/-- While shaping works, an update leaves to the next one just the empty texts. -/
theorem reshapes_again {part : Part} (hsound : part.Sound) {data : PlateData} (hdata : data.Sized)
    (hid : data.clientId < 2 ^ 64) :
    (part.updated data false).reshapes data = part.content.vain data := by
  cases htext : part.content.text? with
  | none =>
      rw [updated_of_no_text htext, reshapes_of_no_text (text?_restyled htext data),
        PartContent.vain, PartContent.wanted?_of_no_text htext]
      rfl
  | some cached =>
      cases hwant : part.content.wanted? data with
      | none =>
          rw [updated_of_not_wanted htext hwant, PartContent.vain, hwant]
          exact reshapes_of_not_wanted hwant
      | some want =>
          rw [reshapes_updated_of_wanted htext hwant, PartContent.vain_of_wanted hid hwant]
          exact CachedText.needsUpdate_again (hsound cached (by simp [texts_eq htext])) want.text
            (hdata.wanted hwant)

/-- What a part asks of the canvas is one shaping or none. -/
theorem length_shaping (part : Part) (data : PlateData) (setting : Setting) :
    (part.shaping data setting).shapedOn.length = if part.reshapes data then 1 else 0 := by
  unfold shaping reshapes CachedText.shaping
  cases part.content.text? with
  | none => rfl
  | some cached =>
      cases part.content.wanted? data with
      | none => rfl
      | some want =>
          dsimp only
          split <;> rfl

end Part

namespace Plate

theorem length_shaping (plate : Plate) (data : PlateData) (setting : Setting) :
    (plate.shaping data setting).shapedOn.length =
      plate.partsOrTemplate.countP (·.reshapes data) := by
  unfold shaping
  induction plate.partsOrTemplate with
  | nil => rfl
  | cons part parts ih =>
      rw [List.map_cons, Record.concat_cons, Record.shapedOn_append, List.length_append, ih,
        Part.length_shaping, List.countP_cons, Nat.add_comm]

/-- A plate whose parts have their texts leaves the canvas as it is. -/
theorem Fresh.update {plate : Plate} {data : PlateData} (h : plate.Fresh data)
    (canvas : Recording) : (plate.update data canvas).2 = canvas :=
  (updateParts_of_fresh h canvas).1

/-- How many texts the same data asks for in vain. -/
theorem Settled.countP_reshapes_updated {plate : Plate} (h : plate.Settled) {data : PlateData}
    (hdata : data.Sized) (hid : data.clientId < 2 ^ 64) :
    (plate.updated data false).partsOrTemplate.countP (·.reshapes data) =
      (data.showName && data.name.isEmpty).toNat + (data.showClan && data.clan.isEmpty).toNat := by
  have hparts : plate.partsOrTemplate.map (·.updated data false) ≠ [] := by
    simp [plate.partsOrTemplate_ne_nil]
  calc
    (plate.updated data false).partsOrTemplate.countP (·.reshapes data) =
        plate.partsOrTemplate.countP fun part => (part.updated data false).reshapes data := by
      rw [Plate.updated, partsOrTemplate_ofParts hparts, List.countP_map]
      rfl
    _ = plate.partsOrTemplate.countP fun part => part.blank.content.vain data := by
      refine List.countP_congr fun part hpart => ?_
      rw [Part.reshapes_again (sound_partsOrTemplate h part hpart) hdata hid, Part.content_blank,
        PartContent.vain_blank]
    _ = template.countP fun model => model.content.vain data := by
      rw [← map_blank_partsOrTemplate h, List.countP_map]
      rfl
    _ = (data.showName && data.name.isEmpty).toNat +
        (data.showClan && data.clan.isEmpty).toNat := by
      simp only [PartContent.vain_eq]
      cases data.showName && data.name.isEmpty <;> cases data.showClan && data.clan.isEmpty <;> rfl

/-- While shaping works, an update with the data of the one before shapes again a name and a clan
that are to be shown and are empty, and no other text. If there is neither, it leaves the canvas as
it is. -/
theorem updates_repeat_only_empty_texts {plate : Plate} {canvas : Recording}
    (hplate : plate.Reached canvas) (hworks : canvas.failShaping = false) {data : PlateData}
    (hdata : data.Sized) (hid : data.clientId < 2 ^ 64) :
    let first := plate.update data canvas
    let second := first.1.update data first.2
    let emptyName := data.showName && data.name.isEmpty
    let emptyClan := data.showClan && data.clan.isEmpty
    second.2.shapedOn.size = first.2.shapedOn.size + emptyName.toNat + emptyClan.toNat ∧
      (emptyName = false ∧ emptyClan = false → second.2 = first.2) := by
  intro first second emptyName emptyClan
  obtain ⟨hsettled, rest, howns⟩ := hplate.settled
  obtain ⟨hfirst, hyields⟩ := update_yields howns data
  rw [hworks] at hfirst
  have hcount : first.1.anonymous.partsOrTemplate.countP (·.reshapes data) =
      emptyName.toNat + emptyClan.toNat := by
    rw [hfirst]
    exact hsettled.countP_reshapes_updated hdata hid
  constructor
  · obtain ⟨-, hsecond⟩ := update_yields hyields.owns data
    have hshaped := congrArg List.length (congrArg Record.shapedOn hsecond.record)
    rw [Record.shapedOn_append, List.length_append, length_shaping, hcount] at hshaped
    rw [Nat.add_assoc]
    exact hshaped
  · rintro ⟨hname, hclan⟩
    rw [hname, hclan] at hcount
    have hfresh : first.1.anonymous.Fresh data := fun part hpart =>
      Bool.eq_false_iff.mpr (List.countP_eq_zero.mp hcount part hpart)
    exact (fresh_anonymous.mp hfresh).update first.2

/-- A clan that is shown but empty is shaped once more. -/
theorem updates_repeat_only_empty_texts_of_tee :
    let first := ({} : Plate).update tee ({} : Recording)
    let second := first.1.update tee first.2
    ({} : Plate).Reached {} ∧ tee.Sized ∧ tee.clientId < 2 ^ 64 ∧ first.2.shapedOn.size = 4 ∧
      second.2.shapedOn.size = 5 := by
  intro first second
  have hsized : tee.Sized :=
    ⟨fontSizeOfPercent_pos _, fontSizeOfPercent_pos _, fontSizeOfPercent_pos _,
      fontSizeOfPercent_pos _⟩
  have hid : tee.clientId < 2 ^ 64 := by decide
  have hfirst : first.2.shapedOn.size = 4 := by
    decide +kernel
  obtain ⟨hsecond, -⟩ := updates_repeat_only_empty_texts (.new {}) rfl hsized hid
  exact ⟨.new {}, hsized, hid, hfirst, hsecond.trans (by rw [hfirst]; rfl)⟩

/-- Where clans are shown, a player without one costs a shaping in every update. -/
theorem clanless_player_is_shaped_again :
    let data : PlateData := { showName := true, name := "nameless tee", showClan := true }
    let first := ({} : Plate).update data ({} : Recording)
    let second := first.1.update data first.2
    ({} : Plate).Reached {} ∧ ({} : Recording).failShaping = false ∧ data.Sized ∧
      data.clan = "" ∧ second.2.shapedOn.size ≠ first.2.shapedOn.size := by
  intro data first second
  have hsized : data.Sized :=
    ⟨fontSizeOfPercent_pos _, fontSizeOfPercent_pos _, fontSizeOfPercent_pos _,
      fontSizeOfPercent_pos _⟩
  exact ⟨.new {}, rfl, hsized, rfl, by decide +kernel⟩

end Plate
end Overhead
