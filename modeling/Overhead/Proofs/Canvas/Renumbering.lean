import Overhead.Frame.Overlay
import Overhead.Proofs.Frame.Commands

/-!
# Handles with other numbers

Plates pass handles on and never look at their numbers. So when the states of one canvas can be told
as states of another one, handle for handle, then all that plates do on the one can be told as what
they do on the other.
-/

namespace Overhead

open Recording

/-- A way to tell the states of a canvas as states of another one, and the numbers of its handles as
numbers over there, that every operation keeps to. -/
structure Renumbering (σ τ : Type) [Canvas σ] [Canvas τ] where
  state : σ → τ
  number : Nat → Nat
  screen : ∀ canvas, Canvas.screen (state canvas) = Canvas.screen canvas
  setScreen : ∀ area canvas,
    Canvas.setScreen area (state canvas) = state (Canvas.setScreen area canvas)
  setInterface : ∀ canvas, Canvas.setInterface (state canvas) = state (Canvas.setInterface canvas)
  shape : ∀ handle text fontSize canvas,
    Canvas.shape (handle.map number) text fontSize (state canvas) =
      Prod.map (Option.map number) state (Canvas.shape handle text fontSize canvas)
  extent : ∀ handle canvas,
    Canvas.extent (handle.map number) (state canvas) = Canvas.extent handle canvas
  release : ∀ handle canvas,
    Canvas.release (handle.map number) (state canvas) = state (Canvas.release handle canvas)
  drawText : ∀ handle color outline position canvas,
    Canvas.drawText (handle.map number) color outline position (state canvas) =
      state (Canvas.drawText handle color outline position canvas)
  drawSprite : ∀ sprite center size rotation color canvas,
    Canvas.drawSprite sprite center size rotation color (state canvas) =
      state (Canvas.drawSprite sprite center size rotation color canvas)
  setFlags : ∀ flags canvas,
    Canvas.setFlags flags (state canvas) = state (Canvas.setFlags flags canvas)

/-! ## Numbers that stay -/

theorem CachedText.renumber_eq_self {number : Nat → Nat} {cached : CachedText}
    (h : ∀ n, cached.handle = some n → number n = n) : cached.renumber number = cached := by
  obtain ⟨handle, text, fontSize⟩ := cached
  cases handle with
  | none => rfl
  | some n => simp [renumber, h n rfl]

theorem PartContent.withText_self {content : PartContent} {cached : CachedText}
    (h : content.text? = some cached) : content.withText cached = content := by
  cases content with
  | clientId | name | clan | hookId => rw [← Option.some.inj h]; rfl
  | arrow | friendMark | hookIcon | lineBreak => cases h

theorem Part.renumber_eq_self {number : Nat → Nat} {part : Part}
    (h : ∀ n ∈ handles part.texts, number n = n) : part.renumber number = part := by
  cases htext : part.content.text? with
  | none => exact renumber_of_no_text number htext
  | some cached =>
      have hcached : cached.renumber number = cached := by
        refine CachedText.renumber_eq_self fun n hn => h n ?_
        exact mem_handles.mpr ⟨cached, by simp [texts_eq htext], hn⟩
      rw [renumber_of_text number htext, hcached, PartContent.withText_self htext]

theorem Plate.renumber_eq_self {number : Nat → Nat} {plate : Plate}
    (h : ∀ n ∈ handles plate.texts, number n = n) : plate.renumber number = plate := by
  have hparts : plate.parts.map (Part.renumber number) = plate.parts.map id := by
    refine List.map_congr_left fun part hpart => Part.renumber_eq_self fun n hn => h n ?_
    obtain ⟨cached, hcached, hhandle⟩ := mem_handles.mp hn
    exact mem_handles.mpr ⟨cached, List.mem_flatMap.mpr ⟨part, hpart, hcached⟩, hhandle⟩
  rw [renumber, hparts, List.map_id]

theorem Plates.renumber_eq_self {number : Nat → Nat} {plates : Plates}
    (h : ∀ n ∈ handles plates.texts, number n = n) : plates.renumber number = plates := by
  have hslots : plates.slots.map (Plate.renumber number) = plates.slots.map id := by
    refine Vector.map_congr_left fun plate hplate => Plate.renumber_eq_self fun n hn => h n ?_
    obtain ⟨cached, hcached, hhandle⟩ := mem_handles.mp hn
    have hmem : cached ∈ plates.texts :=
      List.mem_flatMap.mpr ⟨plate, Vector.mem_toList_iff.mpr hplate, hcached⟩
    exact mem_handles.mpr ⟨cached, hmem, hhandle⟩
  rw [renumber, hslots, Vector.map_id]

def Overlay.renumber (number : Nat → Nat) (overlay : Overlay) : Overlay :=
  { overlay with plates := overlay.plates.renumber number }

namespace Renumbering

variable {σ τ : Type} [Canvas σ] [Canvas τ] (r : Renumbering σ τ)

/-! ## Texts -/

section

variable (cached : CachedText) (canvas : σ)

theorem cached_reshape (text : String) (fontSize : Float32) :
    (cached.renumber r.number).reshape text fontSize (r.state canvas) =
      Prod.map (CachedText.renumber r.number) r.state (cached.reshape text fontSize canvas) := by
  simp [CachedText.reshape, CachedText.renumber, r.shape]

theorem cached_reshapeInGame (text : String) (fontSize : Float32) :
    (cached.renumber r.number).reshapeInGame text fontSize (r.state canvas) =
      Prod.map (CachedText.renumber r.number) r.state
        (cached.reshapeInGame text fontSize canvas) := by
  -- Shaping starts from no handle at all, which has no number to change.
  have hnone : ∀ canvas : σ,
      ({ cached with handle := none } : CachedText).reshape text fontSize (r.state canvas) =
        Prod.map (CachedText.renumber r.number) r.state
          (({ cached with handle := none } : CachedText).reshape text fontSize canvas) :=
    fun canvas => r.cached_reshape { cached with handle := none } canvas text fontSize
  simp only [CachedText.reshapeInGame, CachedText.renumber, r.screen, r.setInterface, r.release]
  rw [hnone]
  simp [CachedText.renumber, r.setScreen]

theorem cached_extent? :
    (cached.renumber r.number).extent? (r.state canvas) = cached.extent? canvas := by
  simp [CachedText.extent?, CachedText.renumber, r.extent]

theorem cached_update (text : String) (fontSize : Float32) (inGame : Bool) :
    (cached.renumber r.number).update text fontSize inGame (r.state canvas) =
      Prod.map id (Prod.map (CachedText.renumber r.number) r.state)
        (cached.update text fontSize inGame canvas) := by
  -- All three ways end with a measurement of what they hold.
  have hmeasured : ∀ shown : CachedText × σ,
      ((shown.1.renumber r.number).extent? (r.state shown.2), shown.1.renumber r.number,
          r.state shown.2) =
        Prod.map id (Prod.map (CachedText.renumber r.number) r.state)
          (shown.1.extent? shown.2, shown.1, shown.2) := by
    intro shown
    rw [cached_extent?]
    rfl
  unfold CachedText.update
  rw [CachedText.needsUpdate_renumber]
  by_cases hneeds : cached.needsUpdate text fontSize
  · cases inGame with
    | true =>
        rw [if_pos hneeds, if_pos hneeds, if_pos rfl, if_pos rfl, cached_reshapeInGame]
        exact hmeasured (cached.reshapeInGame text fontSize canvas)
    | false =>
        rw [if_pos hneeds, if_pos hneeds, if_neg Bool.false_ne_true, if_neg Bool.false_ne_true,
          cached_reshape]
        exact hmeasured (cached.reshape text fontSize canvas)
  · rw [if_neg hneeds, if_neg hneeds]
    exact hmeasured (cached, canvas)

theorem cached_draw (center size : Point) (color : Color) :
    (cached.renumber r.number).draw center size color (r.state canvas) =
      r.state (cached.draw center size color canvas) := by
  unfold CachedText.draw
  rw [CachedText.isSome_handle_renumber]
  split
  · exact r.drawText _ _ _ _ _
  · rfl

theorem cached_reset :
    (cached.renumber r.number).reset (r.state canvas) =
      Prod.map (CachedText.renumber r.number) r.state (cached.reset canvas) := by
  simp [CachedText.reset, CachedText.renumber, r.release]

end

/-! ## Parts -/

section

variable (part : Part) (canvas : σ)

theorem part_showText {part : Part} {cached : CachedText}
    (h : part.content.text? = some cached) (text : String) (fontSize : Float32) (color : Color)
    (inGame : Bool) :
    (part.renumber r.number).showText (cached.renumber r.number) text fontSize color inGame
        (r.state canvas) =
      Prod.map (Part.renumber r.number) r.state
        (part.showText cached text fontSize color inGame canvas) := by
  have hcontent : ∀ shown : CachedText, (part.content.withText shown).text? = some shown := by
    intro shown
    rw [PartContent.text?_withText, h]
    rfl
  have hpart : ∀ shown : CachedText,
      ({ part with content := part.content.withText shown, color := color } : Part).renumber
          r.number =
        { part with
          content := part.content.withText (shown.renumber r.number)
          color := color } := by
    intro shown
    rw [Part.renumber_of_text _ (hcontent shown), PartContent.withText_withText]
  unfold Part.showText
  simp only [cached_update, Part.renumber_of_text _ h, PartContent.withText_withText, Prod.map_fst,
    Prod.map_snd, id_eq, Prod.map_apply, Part.renumber_fit, hpart]

theorem part_update (data : PlateData) :
    (part.renumber r.number).update data (r.state canvas) =
      Prod.map (Part.renumber r.number) r.state (part.update data canvas) := by
  cases htext : part.content.text? with
  | none =>
      have hrestyled := Part.text?_restyled htext data
      rw [Part.renumber_of_no_text _ htext, Part.update_of_no_text htext,
        Part.update_of_no_text htext, Prod.map_apply, Part.renumber_of_no_text _ hrestyled]
  | some cached =>
      have hrenumbered : (part.renumber r.number).content.text? =
          some (cached.renumber r.number) := by
        rw [Part.text?_renumber, htext]
        rfl
      rw [Part.update_of_text hrenumbered, Part.update_of_text htext, Part.wanted?_renumber]
      cases part.content.wanted? data with
      | none => rfl
      | some want =>
          have hvisible : (part.setVisible true).content.text? = some cached := htext
          exact r.part_showText canvas hvisible _ _ _ _

theorem part_draw (center : Point) :
    (part.renumber r.number).draw center (r.state canvas) = r.state (part.draw center canvas) := by
  obtain ⟨content, box, color⟩ := part
  cases content with
  | lineBreak => rfl
  | arrow heading => exact r.drawSprite _ _ _ _ _ _
  | friendMark => exact r.drawSprite _ _ _ _ _ _
  | hookIcon sprite => exact r.drawSprite _ _ _ _ _ _
  | clientId ownLine cached => exact r.cached_draw cached canvas _ _ _
  | name cached => exact r.cached_draw cached canvas _ _ _
  | clan cached => exact r.cached_draw cached canvas _ _ _
  | hookId cached => exact r.cached_draw cached canvas _ _ _

theorem part_reset :
    (part.renumber r.number).reset (r.state canvas) =
      Prod.map (Part.renumber r.number) r.state (part.reset canvas) := by
  unfold Part.reset
  rw [Part.text?_renumber]
  cases htext : part.content.text? with
  | none => rfl
  | some cached =>
      have hcontent : (part.content.withText (cached.reset canvas).1).text? =
          some (cached.reset canvas).1 := by
        rw [PartContent.text?_withText, htext]
        rfl
      simp only [Option.map_some, cached_reset, Prod.map_apply, Part.renumber_of_text _ htext,
        PartContent.withText_withText]
      rw [Part.renumber_of_text _ hcontent, PartContent.withText_withText]
      rfl

end

/-! ## Plates -/

theorem plate_updateParts (data : PlateData) (parts : List Part) (canvas : σ) :
    Plate.updateParts data (parts.map (Part.renumber r.number)) (r.state canvas) =
      Prod.map (List.map (Part.renumber r.number)) r.state
        (Plate.updateParts data parts canvas) := by
  induction parts generalizing canvas with
  | nil => rfl
  | cons part parts ih => simp [Plate.updateParts, part_update, ih]

theorem plate_resetParts (parts : List Part) (canvas : σ) :
    Plate.resetParts (parts.map (Part.renumber r.number)) (r.state canvas) =
      Prod.map (List.map (Part.renumber r.number)) r.state (Plate.resetParts parts canvas) := by
  induction parts generalizing canvas with
  | nil => rfl
  | cons part parts ih => simp [Plate.resetParts, part_reset, ih]

section

variable (plate : Plate) (canvas : σ)

theorem plate_update (data : PlateData) :
    (plate.renumber r.number).update data (r.state canvas) =
      Prod.map (Plate.renumber r.number) r.state (plate.update data canvas) := by
  simp [Plate.update, Plate.partsOrTemplate_renumber, plate_updateParts, Plate.renumber_ofParts]

theorem plate_drawPlacements :
    (plate.renumber r.number).drawPlacements (r.state canvas) =
      r.state (plate.drawPlacements canvas) := by
  have hplacement : ∀ (placement : Placement Float32) (canvas : σ),
      Plate.drawPlacement (plate.parts.map (Part.renumber r.number)) (r.state canvas) placement =
        r.state (Plate.drawPlacement plate.parts canvas placement) := by
    intro placement canvas
    cases hpart : plate.parts[placement.index]? with
    | none => simp [Plate.drawPlacement, hpart]
    | some part => simp [Plate.drawPlacement, hpart, part_draw]
  have hall : ∀ (placements : List (Placement Float32)) (canvas : σ),
      placements.foldl (Plate.drawPlacement (plate.parts.map (Part.renumber r.number)))
          (r.state canvas) =
        r.state (placements.foldl (Plate.drawPlacement plate.parts) canvas) := by
    intro placements
    induction placements with
    | nil => exact fun canvas => rfl
    | cons placement placements ih =>
        intro canvas
        rw [List.foldl_cons, List.foldl_cons, hplacement, ih]
  exact hall plate.placements canvas

theorem plate_obey (order : Plate.Order) :
    (plate.renumber r.number).obey order (r.state canvas) =
      Prod.map (Plate.renumber r.number) r.state (plate.obey order canvas) := by
  cases order with
  | render data =>
      simp [Plate.obey, Plate.render, r.setFlags, plate_update, plate_drawPlacements]
  | reset => simp [Plate.obey, Plate.reset, Plate.renumber, plate_resetParts]

end

/-! ## All plates of a frame -/

theorem plates_obey (state : Plates × σ) (command : Plates.Command) :
    Plates.obey (Prod.map (Plates.renumber r.number) r.state state) command =
      Prod.map (Plates.renumber r.number) r.state (Plates.obey state command) := by
  obtain ⟨plates, canvas⟩ := state
  simp only [Prod.map_apply, Plates.obey, Plates.get_renumber, plate_obey, Prod.map_fst,
    Prod.map_snd, Plates.renumber_set]

theorem plates_carryOut (commands : List Plates.Command) (state : Plates × σ) :
    Plates.carryOut commands (Prod.map (Plates.renumber r.number) r.state state) =
      Prod.map (Plates.renumber r.number) r.state (Plates.carryOut commands state) := by
  induction commands generalizing state with
  | nil => rfl
  | cons command commands ih =>
      have hnext := ih (Plates.obey state command)
      rw [← plates_obey] at hnext
      exact hnext

theorem plates_reset (plates : Plates) (canvas : σ) :
    (plates.renumber r.number).reset (r.state canvas) =
      Prod.map (Plates.renumber r.number) r.state (plates.reset canvas) := by
  rw [Plates.reset_eq, Plates.reset_eq]
  exact r.plates_carryOut _ (plates, canvas)

theorem plates_draw (plates : Plates) (game : Game) (settings : PlateSettings) (canvas : σ) :
    (plates.renumber r.number).draw game settings (r.state canvas) =
      (plates.draw game settings canvas).map
        (Prod.map id (Prod.map (Plates.renumber r.number) r.state)) := by
  rw [Plates.draw_eq, Plates.draw_eq, r.screen]
  cases Plates.frameCommands game settings (Canvas.screen canvas) with
  | error missing => rfl
  | ok commands =>
      have hcommands := r.plates_carryOut commands (plates, canvas)
      simp only [Except.map, Prod.map_apply, id_eq] at hcommands ⊢
      rw [hcommands]

/-! ## The overlay -/

theorem overlay_refresh (overlay : Overlay) (events : FrameEvents) (canvas : σ) :
    (overlay.renumber r.number).refresh events (r.state canvas) =
      Prod.map (Overlay.renumber r.number) r.state (overlay.refresh events canvas) := by
  have houtdated : (overlay.renumber r.number).isOutdated events = overlay.isOutdated events := rfl
  unfold Overlay.refresh
  rw [houtdated]
  cases overlay.isOutdated events with
  | false => rfl
  | true =>
      have hreset : (overlay.renumber r.number).plates.reset (r.state canvas) =
          Prod.map (Plates.renumber r.number) r.state (overlay.plates.reset canvas) :=
        r.plates_reset overlay.plates canvas
      rw [if_pos rfl, if_pos rfl, hreset]
      generalize overlay.plates.reset canvas = emptied
      rfl

theorem overlay_frame (overlay : Overlay) (events : FrameEvents) (game : Game)
    (settings : PlateSettings) (canvas : σ) :
    (overlay.renumber r.number).frame events game settings (r.state canvas) =
      (overlay.frame events game settings canvas).map
        (Prod.map id (Prod.map (Overlay.renumber r.number) r.state)) := by
  simp only [Overlay.frame, overlay_refresh, Prod.map_fst, Prod.map_snd]
  have hdraw := r.plates_draw (overlay.refresh events canvas).1.plates game settings
    (overlay.refresh events canvas).2
  have hplates : ((overlay.refresh events canvas).1.renumber r.number).plates =
      (overlay.refresh events canvas).1.plates.renumber r.number := rfl
  rw [hplates, hdraw]
  cases (overlay.refresh events canvas).1.plates.draw game settings
    (overlay.refresh events canvas).2 <;> rfl

end Renumbering
end Overhead
