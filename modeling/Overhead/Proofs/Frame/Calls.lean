import Overhead.Proofs.Frame.Settled
import Overhead.Proofs.Game.Missing

/-!
# Screens and flags in a frame

A plate sets its flags, shapes what it has to, draws, and takes its flags back. In the game all of
its texts are shaped at the reference zoom, in a preview on the screen as it is. Whatever is cached,
hidden or fails in between, a frame leaves the screen as it found it and the flags unset.
-/

namespace Overhead

open Recording

namespace Recording.Record

/-- Every shaping was on the screen, and these flags were set, in this order. -/
structure Calls (screen : Area Float32) (flags : List RenderFlags) (record : Record) : Prop where
  shapedOn : ∀ area ∈ record.shapedOn, area = screen
  flags : record.flags = flags

variable {screen : Area Float32} {flags more : List RenderFlags} {a b : Record}

theorem calls_nothing (screen : Area Float32) : nothing.Calls screen [] := by
  refine ⟨fun area harea => ?_, rfl⟩
  cases harea

theorem Calls.append (h : a.Calls screen flags) (h' : b.Calls screen more) :
    (a ++ b).Calls screen (flags ++ more) := by
  refine ⟨fun area harea => ?_, ?_⟩
  · rcases List.mem_append.mp harea with harea | harea
    · exact h.shapedOn area harea
    · exact h'.shapedOn area harea
  · rw [flags_append, h.flags, h'.flags]

/-- Records without flags have none together. -/
theorem calls_concat {records : List Record} (h : ∀ record ∈ records, record.Calls screen []) :
    (concat records).Calls screen [] := by
  induction records with
  | nil => exact calls_nothing screen
  | cons record records ih =>
      have hrecord := h record List.mem_cons_self
      exact hrecord.append (ih fun other hother => h other (List.mem_cons_of_mem _ hother))

theorem calls_flags (screen : Area Float32) (flags : List RenderFlags) :
    ({ flags := flags } : Record).Calls screen flags := by
  refine ⟨fun area harea => ?_, rfl⟩
  cases harea

end Recording.Record

/-- What calls leave behind on a canvas. -/
theorem Recording.Yields.calls {added : Record} {owners : List CachedText}
    {canvas later : Recording} {screen : Area Float32} {flags : List RenderFlags}
    (h : Yields added owners canvas later) (hcalls : added.Calls screen flags) :
    later.screen = canvas.screen ∧
      later.flags.toList = canvas.flags.toList ++ flags ∧
      ∃ shapings, later.shapedOn.toList =
        canvas.shapedOn.toList ++ List.replicate shapings screen := by
  have hflags := congrArg Record.flags h.record
  have hshaped := congrArg Record.shapedOn h.record
  rw [Record.flags_append, hcalls.flags] at hflags
  rw [Record.shapedOn_append, List.eq_replicate_of_mem hcalls.shapedOn] at hshaped
  exact ⟨congrArg Setting.screen h.setting, hflags, _, hshaped⟩

/-- The screen on which plates are shaped. -/
def Recording.Setting.shapingScreen (setting : Setting) (inGame : Bool) : Area Float32 :=
  if inGame then setting.interface else setting.screen

theorem CachedText.calls_shaping (cached : CachedText) (text : String) (fontSize : Float32)
    (inGame : Bool) (setting : Setting) :
    (cached.shaping text fontSize inGame setting).Calls (setting.shapingScreen inGame) [] := by
  unfold shaping
  split
  · exact ⟨by simp [Setting.shapingScreen], rfl⟩
  · exact Record.calls_nothing _

theorem CachedText.calls_drawing (cached : CachedText) (center size : Point) (color : Color)
    (screen : Area Float32) : (cached.drawing center size color).Calls screen [] := by
  unfold drawing
  split
  · exact ⟨by simp, rfl⟩
  · exact Record.calls_nothing _

namespace Part

theorem calls_shaping (part : Part) (data : PlateData) (setting : Setting) :
    (part.shaping data setting).Calls (setting.shapingScreen data.inGame) [] := by
  unfold shaping
  split
  · exact CachedText.calls_shaping _ _ _ _ _
  · exact Record.calls_nothing _
  · exact Record.calls_nothing _

theorem calls_drawing (part : Part) (center : Point) (screen : Area Float32) :
    (part.drawing center).Calls screen [] := by
  obtain ⟨content, box, color⟩ := part
  cases content with
  | lineBreak => exact Record.calls_nothing _
  | arrow | friendMark | hookIcon => exact ⟨by simp [drawing], rfl⟩
  | clientId | name | clan | hookId => exact CachedText.calls_drawing _ _ _ _ _

end Part

namespace Plate

theorem calls_drawing (plate : Plate) (screen : Area Float32) :
    plate.drawing.Calls screen [] := by
  refine Record.calls_concat fun record hrecord => ?_
  obtain ⟨placement, -, rfl⟩ := List.mem_map.mp hrecord
  unfold placementDrawing
  split
  · exact Part.calls_drawing _ _ _
  · exact Record.calls_nothing _

/-- A rendering sets the flags of its plate first and takes them back last. -/
theorem calls_render (plate : Plate) (data : PlateData) (setting : Setting) :
    (plate.asks setting (.render data)).Calls (setting.shapingScreen data.inGame)
      [RenderFlags.plate data.inGame, RenderFlags.none] := by
  have hshaping : (plate.shaping data setting).Calls (setting.shapingScreen data.inGame) [] := by
    refine Record.calls_concat fun record hrecord => ?_
    obtain ⟨part, -, rfl⟩ := List.mem_map.mp hrecord
    exact part.calls_shaping data setting
  have hdrawing := (plate.updated data setting.failShaping).calls_drawing
    (setting.shapingScreen data.inGame)
  have hset := Record.calls_flags (setting.shapingScreen data.inGame)
    [RenderFlags.plate data.inGame]
  have hunset := Record.calls_flags (setting.shapingScreen data.inGame) [RenderFlags.none]
  exact ((hset.append hshaping).append hdrawing).append hunset

theorem calls_reset (plate : Plate) (setting : Setting) (screen : Area Float32) :
    (plate.asks setting .reset).Calls screen [] := by
  refine ⟨fun area harea => ?_, rfl⟩
  cases harea

end Plate

/-! ## Frames -/

/-- Whatever a frame draws is in the game. -/
theorem Game.inGame_of_plateData {game : Game} {settings : PlateSettings} {id : Nat}
    {position : Point} {alpha : Float32} {force : Bool} {data : PlateData}
    (h : game.plateData settings id position alpha force = .ok data) : data.inGame = true := by
  obtain ⟨player, faded, -, -, rfl⟩ := exists_of_plateData h
  unfold hookPart arrowPart
  split
  · rfl
  · rfl

namespace Plates

def Command.DrawsInGame (command : Command) : Prop :=
  ∃ data, command.order = .render data ∧ data.inGame = true

theorem drawsInGame_of_frameCommands {game : Game} {settings : PlateSettings}
    {screen : Area Float32} {commands : List Command}
    (h : frameCommands game settings screen = .ok commands) :
    ∀ command ∈ commands, command.DrawsInGame := by
  intro command hcommand
  obtain ⟨sighting, -, hsighting⟩ := (results_of_mapM h).2 command hcommand
  unfold drawCommand at hsighting
  cases hdata : sighting.data game settings with
  | error missing => simp [hdata, Except.map] at hsighting
  | ok data =>
      rw [hdata] at hsighting
      obtain rfl := Except.ok.inj hsighting
      exact ⟨data, rfl, Game.inGame_of_plateData hdata⟩

/-- Each plate of a frame sets its flags and takes them back. -/
theorem calls_asks {commands : List Command} (h : ∀ command ∈ commands, command.DrawsInGame)
    (setting : Setting) (plates : Plates) :
    (plates.asks setting commands).Calls setting.interface
      (List.replicate commands.length [RenderFlags.plate true, RenderFlags.none]).flatten := by
  induction commands generalizing plates with
  | nil => exact Record.calls_nothing _
  | cons command commands ih =>
      obtain ⟨data, horder, hgame⟩ := h command List.mem_cons_self
      have hfirst := (plates.slots.get command.slot).calls_render data setting
      rw [hgame] at hfirst
      have hrest := ih (fun other hother => h other (List.mem_cons_of_mem _ hother))
        (plates.obeyed setting.failShaping command)
      rw [asks, horder]
      exact hfirst.append hrest

end Plates

theorem Preview.calls_asks (settings : PlateSettings) (profile : Profile) (position : Point)
    (dummy : Nat) (setting : Setting) :
    (asks settings profile position dummy setting).Calls setting.screen
      [RenderFlags.plate false, RenderFlags.none] := by
  let data := Preview.data settings profile position dummy
  have hrender : (({} : Plate).asks setting (.render data)).Calls setting.screen
      [RenderFlags.plate false, RenderFlags.none] := Plate.calls_render {} data setting
  exact hrender.append (Plate.calls_reset _ setting setting.screen)

namespace Session

/-- However a session came about, and whether or not shaping works: a frame leaves the screen as it
was, sets flags and takes them back once for each plate it counts, and shapes on the interface
screen only. A preview leaves the screen as it was, sets flags once, which let its plate move to
whole pixels, and shapes on the current screen only. -/
theorem frames_and_previews_clean_up {start : Recording} {steps : List Step} {session : Session}
    (hrun : ({ canvas := start } : Session).run steps = .ok session) :
    (∀ game settings count plates canvas,
      session.plates.draw game settings session.canvas = .ok (count, plates, canvas) →
        canvas.screen = session.canvas.screen ∧
        canvas.flags.toList = session.canvas.flags.toList ++
          (List.replicate count
            [ { noFirstBearing := true, noLastAdvance := true, noPixelAlignment := true },
              { noFirstBearing := false, noLastAdvance := false,
                noPixelAlignment := false } ]).flatten ∧
        ∃ shapings, canvas.shapedOn.toList =
          session.canvas.shapedOn.toList ++
            List.replicate shapings session.canvas.interface) ∧
    ∀ settings profile position dummy,
      let canvas := Preview.draw settings profile position dummy session.canvas
      canvas.screen = session.canvas.screen ∧
      canvas.flags.toList = session.canvas.flags.toList ++
        [ { noFirstBearing := true, noLastAdvance := true, noPixelAlignment := false },
          { noFirstBearing := false, noLastAdvance := false, noPixelAlignment := false } ] ∧
      ∃ shapings, canvas.shapedOn.toList =
        session.canvas.shapedOn.toList ++ List.replicate shapings session.canvas.screen := by
  obtain ⟨rest, howns⟩ := exists_owns start
  obtain ⟨-, hholds⟩ := settled_run_on howns hrun
  constructor
  · intro game settings count plates canvas hframe
    obtain ⟨commands, hcommands, hdrawn⟩ := Plates.draw_eq_ok.mp hframe
    obtain ⟨rfl, hlast⟩ := Prod.mk.inj hdrawn
    obtain ⟨-, hyields⟩ := Plates.carryOut_yields hholds commands
    rw [← hlast] at hyields
    have hcalls := Plates.calls_asks (Plates.drawsInGame_of_frameCommands hcommands)
      session.canvas.setting session.plates.anonymous
    exact hyields.calls hcalls
  · intro settings profile position dummy canvas
    have hyields := Preview.draw_yields hholds settings profile position dummy
    have hcalls := Preview.calls_asks settings profile position dummy session.canvas.setting
    exact hyields.calls hcalls

theorem frames_and_previews_clean_up_of_troubled :
    ∃ session plates canvas, ({} : Session).run troubled = .ok session ∧
      session.plates.draw duel { showOwn := true } session.canvas = .ok (1, plates, canvas) ∧
      canvas.screen = ⟨-50, -50, 50, 50⟩ ∧
      canvas.flags.toList = session.canvas.flags.toList ++
        [ { noFirstBearing := true, noLastAdvance := true, noPixelAlignment := true },
          { noFirstBearing := false, noLastAdvance := false, noPixelAlignment := false } ] ∧
      ∃ shapings, canvas.shapedOn.toList =
        session.canvas.shapedOn.toList ++ List.replicate shapings session.canvas.interface := by
  obtain ⟨session, hrun, -, hscreen, -⟩ := run_troubled
  have hcommands : (Plates.frameCommands duel { showOwn := true } ⟨-50, -50, 50, 50⟩).toOption.any
      (·.length == 1) = true := by
    decide +kernel
  have hdraw := Plates.draw_eq session.plates duel { showOwn := true } session.canvas
  have hstart : Canvas.screen session.canvas = ⟨-50, -50, 50, 50⟩ := hscreen
  rw [hstart] at hdraw
  cases hframe : Plates.frameCommands duel { showOwn := true } ⟨-50, -50, 50, 50⟩ with
  | error missing => simp [hframe, Except.toOption] at hcommands
  | ok commands =>
      have hlength : commands.length = 1 := by
        simpa [hframe, Except.toOption] using hcommands
      simp only [hframe, Except.map, hlength] at hdraw
      obtain ⟨hback, hflags, hshaped⟩ :=
        (frames_and_previews_clean_up hrun).1 _ _ _ _ _ hdraw
      exact ⟨session, _, _, hrun, hdraw, hback.trans hscreen, hflags, hshaped⟩

end Session
end Overhead
