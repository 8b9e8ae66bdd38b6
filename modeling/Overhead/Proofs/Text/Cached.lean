import Overhead.Proofs.Text.Ownership

/-!
# What a cached text does

The numbers of handles are an accident of the canvas. Up to them, what a cached text becomes and what
it asks of a canvas depend only on the text itself, on what it is to show and on the setting.
-/

namespace Overhead

open Recording

def Container.extent (content : Container) : Point :=
  ⟨Float32.ofNat content.text.utf8ByteSize * content.fontSize / 2, content.fontSize⟩

namespace Recording

/-! ## Shaping and releasing -/

/-- What giving texts back is counted as. -/
def releasing (texts : List CachedText) : Record :=
  { releases := (handles texts).length }

theorem releasing_append (texts more : List CachedText) :
    releasing (texts ++ more) = releasing texts ++ releasing more := by
  rw [releasing, handles_append, List.length_append]
  rfl

theorem record_release (handle : TextHandle) (canvas : Recording) :
    (canvas.release handle).record =
      canvas.record ++ { releases := if handle.isSome then 1 else 0 } := by
  show _ = Record.mk ..
  cases handle <;> simp [release, record]

theorem setting_release (handle : TextHandle) (canvas : Recording) :
    (canvas.release handle).setting = canvas.setting := by
  cases handle <;> rfl

theorem record_shape (handle : TextHandle) (text : String) (fontSize : Float32)
    (canvas : Recording) :
    (canvas.shape handle text fontSize).2.record = canvas.record ++
      { shapedOn := [canvas.screen]
        releases := if handle.isSome && (canvas.failShaping || text.isEmpty) then 1 else 0 } := by
  have hnoted : canvas.noteShaping.record = canvas.record ++ { shapedOn := [canvas.screen] } := by
    show _ = Record.mk ..
    simp [noteShaping, record]
  by_cases hfails : canvas.failShaping || text.isEmpty
  · have hshape : canvas.shape handle text fontSize = (none, canvas.noteShaping.release handle) :=
      if_pos hfails
    rw [hshape, record_release, hnoted, Record.append_assoc, hfails, Bool.and_true]
    cases handle <;> rfl
  · have hshape : canvas.shape handle text fontSize =
        canvas.noteShaping.keep handle ⟨text, fontSize⟩ := if_neg hfails
    have hkeep : (canvas.noteShaping.keep handle ⟨text, fontSize⟩).2.record =
        canvas.noteShaping.record := by
      cases handle <;> rfl
    rw [hshape, hkeep, hnoted, Bool.eq_false_iff.mpr hfails, Bool.and_false]
    rfl

theorem setting_shape (handle : TextHandle) (text : String) (fontSize : Float32)
    (canvas : Recording) :
    (canvas.shape handle text fontSize).2.setting = canvas.setting := by
  unfold shape
  dsimp only
  split
  · exact setting_release handle _
  · cases handle <;> rfl

/-- A handle comes back unless shaping fails or the text is empty. -/
theorem map_fst_shape (handle : TextHandle) (text : String) (fontSize : Float32)
    (canvas : Recording) :
    (canvas.shape handle text fontSize).1.map (fun _ => 0) =
      if canvas.failShaping || text.isEmpty then none else some 0 := by
  by_cases hfails : canvas.failShaping || text.isEmpty
  · have hshape : canvas.shape handle text fontSize = (none, canvas.noteShaping.release handle) :=
      if_pos hfails
    rw [hshape, if_pos hfails]
    rfl
  · have hshape : canvas.shape handle text fontSize =
        canvas.noteShaping.keep handle ⟨text, fontSize⟩ := if_neg hfails
    rw [hshape, if_neg hfails]
    cases handle <;> rfl

end Recording

namespace CachedText

/-- A cache that needs no update has just the text that is asked for. -/
theorem kept_of_not_needsUpdate {cached : CachedText} {text : String} {fontSize : Float32}
    (h : ¬ cached.needsUpdate text fontSize) :
    cached.handle.isSome ∧ cached.text = text ∧ cached.fontSize == fontSize := by
  simp only [needsUpdate, Bool.or_eq_true, not_or, Bool.not_eq_true, Option.isNone_eq_false_iff,
    bne_eq_false_iff_eq] at h
  obtain ⟨⟨hvalid, hfont⟩, htext⟩ := h
  exact ⟨hvalid, htext, by simpa [bne] using hfont⟩

/-! ## Texts up to the numbers of their handles -/

def renumber (number : Nat → Nat) (cached : CachedText) : CachedText :=
  { cached with handle := cached.handle.map number }

/-- The same text under a handle without a number of its own. -/
def anonymous (cached : CachedText) : CachedText :=
  { cached with handle := cached.handle.map fun _ => 0 }

/-- What a cached text becomes when it is to show a text. -/
def refreshed (cached : CachedText) (text : String) (fontSize : Float32) (fails : Bool) :
    CachedText :=
  if cached.needsUpdate text fontSize then
    { handle := if fails || text.isEmpty then none else some 0, text := text, fontSize := fontSize }
  else cached

/-- What showing a text asks of the canvas. In the game the old text is released in any case, in a
preview only if no other one takes its place. -/
def shaping (cached : CachedText) (text : String) (fontSize : Float32) (inGame : Bool)
    (setting : Setting) : Record :=
  if cached.needsUpdate text fontSize then
    { shapedOn := [if inGame then setting.interface else setting.screen]
      releases :=
        if cached.handle.isSome && (inGame || setting.failShaping || text.isEmpty) then 1 else 0 }
  else .nothing

def measure? (cached : CachedText) : Option Point :=
  cached.container?.map Container.extent

def drawing (cached : CachedText) (center size : Point) (color : Color) : Record :=
  if cached.handle.isSome then
    let outline := Color.defaultOutline
    { texts :=
        [{ text := cached.text
           color := color
           outline := outline.withAlpha (outline.alpha * color.alpha)
           position := center - size.half }] }
  else .nothing

section

variable (number : Nat → Nat) (cached : CachedText)

@[simp] theorem isSome_handle_renumber :
    (cached.renumber number).handle.isSome = cached.handle.isSome :=
  Option.isSome_map

@[simp] theorem container?_renumber :
    (cached.renumber number).container? = cached.container? := by
  cases h : cached.handle <;> simp [container?, renumber, h]

@[simp] theorem measure?_renumber : (cached.renumber number).measure? = cached.measure? := by
  rw [measure?, container?_renumber, measure?]

@[simp] theorem drawing_renumber : (cached.renumber number).drawing = cached.drawing := by
  funext center size color
  simp [drawing, renumber]

@[simp] theorem needsUpdate_renumber :
    (cached.renumber number).needsUpdate = cached.needsUpdate := by
  funext text fontSize
  simp [needsUpdate, renumber]

theorem handles_map_renumber (texts : List CachedText) :
    handles (texts.map (renumber number)) = (handles texts).map number := by
  simp [handles, List.filterMap_map, List.map_filterMap, Function.comp_def, renumber]

end

-- Every number becomes the same one.
theorem anonymous_eq_renumber : anonymous = renumber fun _ => 0 := rfl

@[simp] theorem handle_anonymous (cached : CachedText) :
    cached.anonymous.handle = cached.handle.map fun _ => 0 := rfl

@[simp] theorem container?_anonymous (cached : CachedText) :
    cached.anonymous.container? = cached.container? :=
  container?_renumber _ cached

@[simp] theorem measure?_anonymous (cached : CachedText) :
    cached.anonymous.measure? = cached.measure? :=
  measure?_renumber _ cached

theorem needsUpdate_anonymous (cached : CachedText) :
    cached.anonymous.needsUpdate = cached.needsUpdate :=
  needsUpdate_renumber _ cached

theorem length_handles_map_anonymous (texts : List CachedText) :
    (handles (texts.map anonymous)).length = (handles texts).length := by
  rw [anonymous_eq_renumber, handles_map_renumber, List.length_map]

theorem anonymous_reshape (cached : CachedText) (text : String) (fontSize : Float32)
    (canvas : Recording) :
    (cached.reshape text fontSize canvas).1.anonymous =
      { handle := if canvas.failShaping || text.isEmpty then none else some 0
        text := text
        fontSize := fontSize } :=
  congrArg (CachedText.mk · text fontSize) (map_fst_shape _ _ _ _)

theorem anonymous_reshapeInGame (cached : CachedText) (text : String) (fontSize : Float32)
    (canvas : Recording) :
    (cached.reshapeInGame text fontSize canvas).1.anonymous =
      { handle := if canvas.failShaping || text.isEmpty then none else some 0
        text := text
        fontSize := fontSize } := by
  let zoomed : Recording := { canvas with screen := canvas.interface }
  have hfails : (zoomed.release cached.handle).failShaping = canvas.failShaping :=
    congrArg Setting.failShaping (setting_release cached.handle zoomed)
  rw [← hfails]
  exact anonymous_reshape { cached with handle := none } text fontSize _

/-! ## Operations beside other texts -/

section

variable {cached : CachedText} {rest : List CachedText} {canvas : Recording}

theorem extent?_eq (h : Owns (cached :: rest) canvas) :
    cached.extent? canvas = cached.measure? := by
  have hkept := h.kept cached List.mem_cons_self
  cases hhandle : cached.handle with
  | none => simp [extent?, measure?, container?, hhandle]
  | some index =>
      rw [hhandle, container?, hhandle] at hkept
      simp [extent?, measure?, container?, hhandle, Canvas.extent, Recording.extent, hkept,
        Container.extent]

theorem reset_yields (h : Owns (cached :: rest) canvas) :
    Yields (releasing [cached]) ((cached.reset canvas).1 :: rest) canvas
      (cached.reset canvas).2 := by
  refine ⟨?_, setting_release _ _, h.replace (replaced_release _ _)⟩
  have hcount : (handles [cached]).length = if cached.handle.isSome then 1 else 0 := by
    rw [handles_cons]
    cases cached.handle <;> rfl
  rw [releasing, hcount]
  exact record_release _ _

theorem draw_yields {owners : List CachedText} (h : Owns owners canvas) (hc : cached ∈ owners)
    (center size : Point) (color : Color) :
    Yields (cached.drawing center size color) owners canvas
      (cached.draw center size color canvas) := by
  have hkept := h.kept cached hc
  cases hhandle : cached.handle with
  | none =>
      have hdraw : cached.draw center size color canvas = canvas := by
        simp [draw, hhandle]
      rw [hdraw, drawing, hhandle]
      exact .refl h
  | some index =>
      rw [hhandle, container?, hhandle] at hkept
      refine .of_containers h ?_ ?_ ?_
      · show _ = Record.mk ..
        simp [draw, drawing, hhandle, Canvas.drawText, drawText, hkept, Recording.record]
      · simp [draw, hhandle, Canvas.drawText, drawText, hkept, Recording.setting]
      · simp [draw, hhandle, Canvas.drawText, drawText, hkept]

/-- A text is shaped for the screen, and takes the place of the old one. -/
theorem reshape_yields (h : Owns (cached :: rest) canvas) (text : String) (fontSize : Float32) :
    Yields
      { shapedOn := [canvas.screen]
        releases := if cached.handle.isSome && (canvas.failShaping || text.isEmpty) then 1 else 0 }
      ((cached.reshape text fontSize canvas).1 :: rest) canvas
      (cached.reshape text fontSize canvas).2 := by
  refine ⟨record_shape _ _ _ _, setting_shape _ _ _ _, h.replace ?_⟩
  exact replaced_shape text fontSize (h.isSome_find List.mem_cons_self)

/-- In the game a text is shaped at the reference zoom, and the screen comes back. -/
theorem reshapeInGame_yields (h : Owns (cached :: rest) canvas) (text : String)
    (fontSize : Float32) :
    Yields
      { shapedOn := [canvas.interface], releases := if cached.handle.isSome then 1 else 0 }
      ((cached.reshapeInGame text fontSize canvas).1 :: rest) canvas
      (cached.reshapeInGame text fontSize canvas).2 := by
  let zoomed : Recording := { canvas with screen := canvas.interface }
  let released := zoomed.release cached.handle
  let shaped := released.shape none text fontSize
  have hsetting : shaped.2.setting = zoomed.setting := by
    rw [setting_shape, setting_release]
  have hscreen : released.screen = canvas.interface :=
    congrArg Setting.screen (setting_release cached.handle zoomed)
  refine ⟨?_, ?_, h.replace ?_⟩
  · calc
      shaped.2.record = canvas.record ++ { releases := if cached.handle.isSome then 1 else 0 } ++
          { shapedOn := [released.screen] } := by
        rw [record_shape, record_release]
        rfl
      _ = _ := by
        rw [hscreen, Record.append_assoc]
        cases cached.handle <;> rfl
  · show Setting.mk canvas.screen shaped.2.interface shaped.2.failShaping = canvas.setting
    rw [show shaped.2.interface = canvas.interface from congrArg Setting.interface hsetting,
      show shaped.2.failShaping = canvas.failShaping from congrArg Setting.failShaping hsetting]
    rfl
  · have hreleased : Replaced cached.handle none none canvas released :=
      (replaced_release cached.handle zoomed).congr rfl rfl
    have hshaped : Replaced none shaped.1 (shaped.1.map fun _ => ⟨text, fontSize⟩) released
        shaped.2 := replaced_shape text fontSize (by simp)
    exact (hreleased.trans_none hshaped).congr rfl rfl

/-- An update is told by the text, by what it is to show and by the setting. -/
theorem update_yields (h : Owns (cached :: rest) canvas) (text : String) (fontSize : Float32)
    (inGame : Bool) :
    let updated := cached.update text fontSize inGame canvas
    let refreshed := cached.anonymous.refreshed text fontSize canvas.failShaping
    updated.1 = refreshed.measure? ∧ updated.2.1.anonymous = refreshed ∧
      Yields (cached.anonymous.shaping text fontSize inGame canvas.setting)
        (updated.2.1 :: rest) canvas updated.2.2 := by
  intro updated refreshed
  by_cases hneeds : cached.needsUpdate text fontSize
  · have hrefreshed : refreshed =
        { handle := if canvas.failShaping || text.isEmpty then none else some 0
          text := text
          fontSize := fontSize } := by
      simp [refreshed, CachedText.refreshed, needsUpdate_anonymous, hneeds]
    have hshaping : cached.anonymous.shaping text fontSize inGame canvas.setting =
        { shapedOn := [if inGame then canvas.interface else canvas.screen]
          releases :=
            if cached.handle.isSome && (inGame || canvas.failShaping || text.isEmpty) then 1
            else 0 } := by
      simp [shaping, needsUpdate_anonymous, hneeds, Recording.setting]
    -- Both ways of shaping end with a measurement of what they shaped.
    have htold : ∀ shaped : CachedText × Recording,
        updated = (shaped.1.extent? shaped.2, shaped) → shaped.1.anonymous = refreshed →
          Yields (cached.anonymous.shaping text fontSize inGame canvas.setting)
            (shaped.1 :: rest) canvas shaped.2 →
          updated.1 = refreshed.measure? ∧ updated.2.1.anonymous = refreshed ∧
            Yields (cached.anonymous.shaping text fontSize inGame canvas.setting)
              (updated.2.1 :: rest) canvas updated.2.2 := by
      intro shaped hupdated hanonymous hyields
      rw [hupdated, ← hanonymous]
      exact ⟨by rw [extent?_eq hyields.owns, measure?_anonymous], rfl, hyields⟩
    cases inGame with
    | true =>
        refine htold (cached.reshapeInGame text fontSize canvas) ?_ ?_ ?_
        · simp [updated, update, hneeds]
        · rw [hrefreshed]
          exact anonymous_reshapeInGame cached text fontSize canvas
        · rw [hshaping]
          simpa using reshapeInGame_yields h text fontSize
    | false =>
        refine htold (cached.reshape text fontSize canvas) ?_ ?_ ?_
        · simp [updated, update, hneeds]
        · rw [hrefreshed]
          exact anonymous_reshape cached text fontSize canvas
        · rw [hshaping]
          simpa using reshape_yields h text fontSize
  · have hupdated : updated = (cached.extent? canvas, cached, canvas) := by
      simp [updated, update, hneeds]
    have hrefreshed : refreshed = cached.anonymous := by
      simp [refreshed, CachedText.refreshed, needsUpdate_anonymous, hneeds]
    have hshaping : cached.anonymous.shaping text fontSize inGame canvas.setting = .nothing := by
      simp [shaping, needsUpdate_anonymous, hneeds]
    rw [hupdated, hrefreshed, hshaping]
    exact ⟨by rw [extent?_eq h, measure?_anonymous], rfl, .refl h⟩

end

end CachedText
end Overhead
