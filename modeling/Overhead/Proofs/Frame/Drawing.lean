import Mathlib.Data.List.Forall2
import Overhead.Proofs.Frame.Settled
import Overhead.Proofs.Frame.Sights
import Overhead.Proofs.Plate.Drawn

/-!
# What a frame draws

A frame renders the plates that are due, one after the other, and the canvas shows what each of them
looked like at that moment. Two plates of one slot share their texts, and shaping moves the screen
for a while; neither changes which plates are drawn, or in which order.
-/

namespace Overhead

open Recording

/-- A plate that a frame rendered: where, with which data, and how it looked then. -/
structure Rendering where
  sight : Sight
  data : PlateData
  plate : Plate

namespace Plates

/-- From one state to another, plates were rendered one after the other: the plate of a slot is
rendered with its data, and the slot then has what became of it. -/
inductive Renders : Plates × Recording → List Rendering → Plates × Recording → Prop where
  | nil (state : Plates × Recording) : Renders state [] state
  | cons {slots : Vector Plate slotCount} {canvas next : Recording} {last : Plates × Recording}
      {rendering : Rendering} {rest : List Rendering}
      (hplate : (slots.get rendering.sight.slot).render rendering.data canvas =
        (rendering.plate, next))
      (hrest : Renders
        (⟨slots.set rendering.sight.slot rendering.plate rendering.sight.slot.isLt⟩, next)
        rest last) :
      Renders (⟨slots⟩, canvas) (rendering :: rest) last

/-- The canvas shows more plates than before, and the screen is back where it was. -/
structure Adds (shown : List Plate) (canvas later : Recording) : Prop where
  texts : later.texts.toList = canvas.texts.toList ++ shown.flatMap (·.drawing.texts)
  sprites : later.sprites.toList = canvas.sprites.toList ++ shown.flatMap (·.drawing.sprites)
  screen : later.screen = canvas.screen

theorem Adds.trans {shown more : List Plate} {canvas middle later : Recording}
    (h : Adds shown canvas middle) (h' : Adds more middle later) :
    Adds (shown ++ more) canvas later := by
  refine ⟨?_, ?_, h'.screen.trans h.screen⟩
  · rw [h'.texts, h.texts, List.append_assoc, List.flatMap_append]
  · rw [h'.sprites, h.sprites, List.append_assoc, List.flatMap_append]

section

variable {plates : Plates} {rest : List CachedText} {canvas : Recording}

theorem get_render (plates : Plates) (slot other : Fin slotCount) (data : PlateData)
    (canvas : Recording) :
    (plates.render slot data canvas).1.slots.get other =
      if slot = other then ((plates.slots.get slot).render data canvas).1
      else plates.slots.get other :=
  get_set plates.slots slot other _

theorem render_eq {slots : Vector Plate slotCount} {slot : Fin slotCount} {data : PlateData}
    {canvas next : Recording} {plate : Plate}
    (h : (slots.get slot).render data canvas = (plate, next)) :
    (⟨slots⟩ : Plates).render slot data canvas = (⟨slots.set slot plate slot.isLt⟩, next) := by
  rw [render, h]

/-- Up to the numbers of handles a rendered plate is told by the plate before and the data. -/
theorem anonymous_get_render (howns : Owns (plates.texts ++ rest) canvas) (slot : Fin slotCount)
    (data : PlateData) :
    ((plates.render slot data canvas).1.slots.get slot).anonymous =
      (plates.anonymous.slots.get slot).updated data canvas.failShaping := by
  let command : Command := { slot := slot, order := .render data }
  have hnext := (obey_yields howns command).1
  have hobeyed := get_obeyed canvas.failShaping plates.anonymous command slot
  rw [if_pos rfl, ← hnext, get_anonymous] at hobeyed
  exact hobeyed

/-- What one rendering adds: whatever else the plate asks for, it draws what it looks like. -/
theorem render_adds (hsettled : plates.anonymous.Settled)
    (howns : Owns (plates.texts ++ rest) canvas) (slot : Fin slotCount) (data : PlateData) :
    let next := plates.render slot data canvas
    let plate := next.1.slots.get slot
    next.1.anonymous.Settled ∧ Owns (next.1.texts ++ rest) next.2 ∧
      Adds [plate] canvas next.2 ∧ plate.DrawsEach := by
  intro next plate
  let command : Command := { slot := slot, order := .render data }
  obtain ⟨hnext, hyields⟩ := obey_yields howns command
  let updated := (plates.anonymous.slots.get slot).updated data canvas.failShaping
  have hplate : plate.anonymous = updated := anonymous_get_render howns slot data
  have hpicture : ((plates.anonymous.slots.get slot).asks canvas.setting (.render data)).picture =
      plate.drawing.picture := by
    rw [← Plate.drawing_anonymous plate, hplate]
    exact Plate.picture_asks _ _ _
  obtain ⟨htexts, hsprites⟩ := Prod.mk.inj hpicture
  refine ⟨?_, hyields.owns, ⟨?_, ?_, ?_⟩, ?_⟩
  · have hobeyed := hsettled.obeyed canvas.failShaping command
    rwa [← hnext] at hobeyed
  · rw [List.flatMap_singleton, ← htexts]
    exact congrArg Record.texts hyields.record
  · rw [List.flatMap_singleton, ← hsprites]
    exact congrArg Record.sprites hyields.record
  · exact congrArg Setting.screen hyields.setting
  · refine Plate.DrawsEach.of_anonymous ?_
    rw [hplate]
    exact (hsettled slot).drawsEach_updated data _

/-- Rendering plates one after the other adds what they look like, in this order. -/
theorem Renders.adds {state last : Plates × Recording} {shown : List Rendering}
    (h : Renders state shown last) (hsettled : state.1.anonymous.Settled)
    (howns : Owns (state.1.texts ++ rest) state.2) :
    Adds (shown.map (·.plate)) state.2 last.2 ∧
      ∀ rendering ∈ shown, rendering.plate.DrawsEach := by
  induction h with
  | nil state => exact ⟨⟨by simp, by simp, rfl⟩, by simp⟩
  | @cons slots canvas next last rendering _ hplate _ ih =>
      obtain ⟨hnext, hkept, hadds, heach⟩ :=
        render_adds hsettled howns rendering.sight.slot rendering.data
      rw [get_render, if_pos rfl, hplate] at hadds heach
      rw [render_eq hplate] at hnext hkept hadds
      obtain ⟨hadds', heach'⟩ := ih hnext hkept
      refine ⟨hadds.trans hadds', fun other hother => ?_⟩
      rcases List.mem_cons.mp hother with rfl | hother
      · exact heach
      · exact heach' other hother

/-- Plates that are not rendered stay as they are. -/
theorem Renders.get_eq {state last : Plates × Recording} {shown : List Rendering}
    (h : Renders state shown last) {slot : Fin slotCount}
    (hother : ∀ rendering ∈ shown, rendering.sight.slot ≠ slot) :
    last.1.slots.get slot = state.1.slots.get slot := by
  induction h with
  | nil state => rfl
  | @cons slots canvas next last rendering _ hplate _ ih =>
      have hrest := ih fun later hlater => hother later (List.mem_cons_of_mem _ hlater)
      have hfirst := get_render ⟨slots⟩ rendering.sight.slot slot rendering.data canvas
      rw [render_eq hplate, if_neg (hother rendering List.mem_cons_self)] at hfirst
      exact hrest.trans hfirst

end

/-! ## The commands of a frame -/

section

variable {game : Game} {settings : PlateSettings} {screen : Area Float32}

theorem drawCommand_eq_ok {sight : Sight} {command : Command} :
    drawCommand game settings sight.sighting = .ok command ↔
      ∃ data, sight.data game settings = .ok data ∧
        command = { slot := sight.slot, order := .render data } := by
  have hdata : sight.sighting.data game settings = sight.data game settings := rfl
  rw [drawCommand, hdata]
  cases sight.data game settings with
  | error missing => simp [Except.map]
  | ok data => simp [Except.map, Sight.sighting, eq_comm]

theorem frameCommands_eq_ok (hgame : game.isRunning = true)
    (hsettings : settings.isDisabled = false) {commands : List Command} :
    frameCommands game settings screen = .ok commands ↔
      List.Forall₂ (fun sight command => ∃ data, sight.data game settings = .ok data ∧
        command = { slot := sight.slot, order := .render data })
        (Sight.all game settings screen) commands := by
  rw [frameCommands, ← Sight.map_sighting_all hgame hsettings, mapM_eq_ok,
    List.forall₂_map_left_iff]
  simp only [drawCommand_eq_ok]

/-- A frame has its commands if there is data for every plate that is due. -/
theorem exists_frameCommands (hgame : game.isRunning = true)
    (hsettings : settings.isDisabled = false) :
    (∃ commands, frameCommands game settings screen = .ok commands) ↔
      ∀ sight : Sight, sight.Due game settings screen →
        ∃ data, sight.data game settings = .ok data := by
  rw [frameCommands, ← Sight.map_sighting_all hgame hsettings, exists_mapM_eq_ok]
  simp only [List.forall_mem_map, Sight.mem_all, drawCommand_eq_ok]
  refine forall_congr' fun sight => imp_congr_right fun _ => ?_
  constructor
  · rintro ⟨command, data, hdata, -⟩
    exact ⟨data, hdata⟩
  · rintro ⟨data, hdata⟩
    exact ⟨_, data, hdata, rfl⟩

/-- A frame without commands leaves everything as it is. -/
theorem draw_of_off (h : game.isRunning = false ∨ settings.isDisabled = true) (plates : Plates)
    (canvas : Recording) : plates.draw game settings canvas = .ok (0, plates, canvas) := by
  have hnone : Sighting.all game settings (Canvas.screen canvas) = [] := by
    rcases h with hgame | hsettings
    · simp [Sighting.all, hgame]
    · simp [Sighting.all, hsettings]
  rw [draw_eq, frameCommands, hnone]
  rfl

theorem exists_renders {sights : List Sight} {commands : List Command}
    (h : List.Forall₂ (fun sight command => ∃ data, sight.data game settings = .ok data ∧
      command = { slot := sight.slot, order := .render data }) sights commands)
    (state : Plates × Recording) :
    ∃ shown : List Rendering, shown.map (·.sight) = sights ∧
      (∀ rendering ∈ shown, rendering.sight.data game settings = .ok rendering.data) ∧
      Renders state shown (carryOut commands state) := by
  induction h generalizing state with
  | nil => exact ⟨[], rfl, by simp, .nil state⟩
  | @cons sight command sights commands hcommand _ ih =>
      obtain ⟨data, hdata, rfl⟩ := hcommand
      obtain ⟨shown, hsights, hall, hrenders⟩ := ih (state.1.render sight.slot data state.2)
      let rendering : Rendering :=
        { sight := sight, data := data
          plate := ((state.1.slots.get sight.slot).render data state.2).1 }
      refine ⟨rendering :: shown, ?_, ?_, .cons rfl hrenders⟩
      · rw [List.map_cons, hsights]
      · intro other hother
        rcases List.mem_cons.mp hother with rfl | hother
        · exact hdata
        · exact hall other hother

end

end Plates

namespace Session

/-- However a session came about, a frame that is switched off changes nothing. Any other frame
fails only if there is no data for a plate that is due; otherwise it renders exactly the plates that
are due on the screen it starts with, by slot and at the body first. It counts them, and what it adds
to the canvas is what each of them looked like when it was rendered, one text or sprite for each of
its placements. The other plates stay as they are, and the screen is back where it was. -/
theorem frames_draw_what_is_due {start : Recording} {steps : List Step} {session : Session}
    (hrun : ({ canvas := start } : Session).run steps = .ok session) (game : Game)
    (settings : PlateSettings) :
    let frame := session.plates.draw game settings session.canvas
    let screen := session.canvas.screen
    (game.state = .offline ∨ settings.isDisabled = true →
      frame = .ok (0, session.plates, session.canvas)) ∧
    (game.state ≠ .offline → settings.isDisabled = false →
      ((∃ drawn, frame = .ok drawn) ↔
        ∀ sight : Sight, sight.Due game settings screen →
          ∃ data, sight.data game settings = .ok data) ∧
      ∀ count plates canvas, frame = .ok (count, plates, canvas) →
        ∃ shown : List Rendering,
          (∀ sight : Sight, sight ∈ shown.map (·.sight) ↔ sight.Due game settings screen) ∧
          (shown.map (·.sight)).Pairwise Sight.Before ∧
          (∀ rendering ∈ shown, rendering.sight.data game settings = .ok rendering.data) ∧
          Plates.Renders (session.plates, session.canvas) shown (plates, canvas) ∧
          count = shown.length ∧
          canvas.texts.toList =
            session.canvas.texts.toList ++ shown.flatMap (·.plate.drawing.texts) ∧
          canvas.sprites.toList =
            session.canvas.sprites.toList ++ shown.flatMap (·.plate.drawing.sprites) ∧
          (∀ rendering ∈ shown, rendering.plate.DrawsEach) ∧
          canvas.screen = screen ∧
          ∀ slot, (∀ rendering ∈ shown, rendering.sight.slot ≠ slot) →
            plates.slots.get slot = session.plates.slots.get slot) := by
  intro frame screen
  have hrunning : game.isRunning = true ↔ game.state ≠ .offline := by
    cases hstate : game.state <;> simp [Game.isRunning, hstate]
  refine ⟨fun hoff => ?_, fun hstate hsettings => ?_⟩
  · refine Plates.draw_of_off (hoff.imp_left fun hstate => ?_) session.plates session.canvas
    rw [← Bool.not_eq_true, hrunning]
    exact not_not_intro hstate
  · have hgame : game.isRunning = true := hrunning.mpr hstate
    constructor
    · rw [← Plates.exists_frameCommands hgame hsettings]
      constructor
      · rintro ⟨drawn, hframe⟩
        obtain ⟨commands, hcommands, -⟩ := Plates.draw_eq_ok.mp hframe
        exact ⟨commands, hcommands⟩
      · rintro ⟨commands, hcommands⟩
        exact ⟨_, Plates.draw_eq_ok.mpr ⟨commands, hcommands, rfl⟩⟩
    · intro count plates canvas hframe
      obtain ⟨rest, howns⟩ := exists_owns start
      obtain ⟨hsettled, hholds⟩ := settled_run_on howns hrun
      obtain ⟨commands, hcommands, hdrawn⟩ := Plates.draw_eq_ok.mp hframe
      obtain ⟨hcount, hlast⟩ := Prod.mk.inj hdrawn
      have hpairs := (Plates.frameCommands_eq_ok hgame hsettings).mp hcommands
      obtain ⟨shown, hsights, hdata, hrenders⟩ :=
        Plates.exists_renders hpairs (session.plates, session.canvas)
      rw [← hlast] at hrenders
      obtain ⟨hadds, heach⟩ := hrenders.adds hsettled hholds
      refine ⟨shown, fun sight => ?_, ?_, hdata, hrenders, ?_, ?_, ?_, heach, hadds.screen,
        fun slot hother => hrenders.get_eq hother⟩
      · rw [hsights]
        exact Sight.mem_all
      · rw [hsights]
        exact Sight.pairwise_all
      · rw [hcount, ← hpairs.length_eq, ← hsights, List.length_map]
      · rw [hadds.texts, List.flatMap_map]
      · rw [hadds.sprites, List.flatMap_map]

/-- One player that looks around: its body is to the left of the screen, and it is to the right. -/
def lookout : Game :=
  { duel with
    slots := duel.slots.set 3
      { info := some {}
        client := { name := "ada", position := ⟨100, 0⟩, spectatorBody := some ⟨-100, 0⟩ }
        character := { active := true } }
      three_lt_slotCount }

theorem lookout_is_drawn_twice :
    ∃ session plates canvas, ({} : Session).run troubled = .ok session ∧
      session.plates.draw lookout { showOwn := true } session.canvas = .ok (2, plates, canvas) ∧
      ∃ shown : List Rendering,
        (∀ sight : Sight, sight ∈ shown.map (·.sight) ↔
          sight.Due lookout { showOwn := true } session.canvas.screen) ∧
        (shown.map (·.sight)).Pairwise Sight.Before ∧ shown.length = 2 ∧
        canvas.texts.toList =
          session.canvas.texts.toList ++ shown.flatMap (·.plate.drawing.texts) := by
  obtain ⟨session, hrun, -, hscreen, -⟩ := run_troubled
  have hchecked : (Plates.frameCommands lookout { showOwn := true } ⟨-50, -50, 50, 50⟩).toOption.any
      (·.length == 2) = true := by
    decide +kernel
  cases hcommands : Plates.frameCommands lookout { showOwn := true } ⟨-50, -50, 50, 50⟩ with
  | error missing => simp [hcommands, Except.toOption] at hchecked
  | ok commands =>
      have hlength : commands.length = 2 := by
        simpa [hcommands, Except.toOption] using hchecked
      have hframe := Plates.draw_eq session.plates lookout { showOwn := true } session.canvas
      have hstart : Canvas.screen session.canvas = ⟨-50, -50, 50, 50⟩ := hscreen
      rw [hstart, hcommands] at hframe
      simp only [Except.map, hlength] at hframe
      have hon := (frames_draw_what_is_due hrun lookout { showOwn := true }).2 (by decide) rfl
      obtain ⟨shown, hdue, horder, -, -, hcount, htexts, -⟩ := hon.2 _ _ _ hframe
      exact ⟨session, _, _, hrun, hframe, shown, hdue, horder, hcount.symm, htexts⟩

end Session
end Overhead
