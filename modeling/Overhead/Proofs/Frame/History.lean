import Overhead.Proofs.Frame.Settled
import Overhead.Proofs.Game.Missing
import Overhead.Proofs.Plate.Drawn

/-!
# Frames without a past

However a session came about, while shaping works its next frame looks like the first frame of new
plates: the plates of a session are always settled, and the data of a frame always asks for fonts
that have a size.
-/

namespace Overhead

open Recording

/-! ## Fonts -/

namespace PlateData

theorem Sized.arrowPart {data : PlateData} (h : data.Sized) (game : Game)
    (settings : PlateSettings) (id : Nat) (slot : Slot) :
    (game.arrowPart settings id slot data).Sized := by
  unfold Game.arrowPart
  split
  · exact ⟨h.name, h.clientId, h.clan, h.hook⟩
  · exact h

theorem sized_settings (settings : PlateSettings) : settings.plateData.Sized := by
  refine ⟨fontSizeOfPercent_pos _, ?_, fontSizeOfPercent_pos _, fontSizeOfPercent_pos _⟩
  show 0 < settings.idFontSize
  unfold PlateSettings.idFontSize
  split
  · exact fontSizeOfPercent_pos _
  · exact fontSizeOfPercent_pos _

/-- Whatever a frame shows has fonts that have a size. -/
theorem sized_of_plateData {game : Game} {settings : PlateSettings} {id : Nat} {position : Point}
    {alpha : Float32} {force : Bool} {data : PlateData}
    (h : game.plateData settings id position alpha force = .ok data) : data.Sized := by
  have hname : ∀ slot alpha, (game.namePart settings id slot position alpha).Sized := by
    intro slot alpha
    obtain ⟨hname, hclientId, hclan, hhook⟩ := sized_settings settings
    exact ⟨hname, hclientId, hclan, hhook⟩
  obtain ⟨player, faded, -, -, rfl⟩ := Game.exists_of_plateData h
  obtain ⟨hname, hclientId, hclan, hhook⟩ :=
    (hname player faded).arrowPart game settings id player
  exact ⟨hname, hclientId, hclan, hhook⟩

end PlateData

/-! ## What is drawn -/

namespace Plate

theorem Settled.picture_asks {plate plate' : Plate} (h : plate.Settled) (h' : plate'.Settled)
    {data : PlateData} (hdata : data.Sized) {setting setting' : Setting}
    (hworks : setting.failShaping = false) (hworks' : setting'.failShaping = false) :
    (plate.asks setting (.render data)).picture =
      (plate'.asks setting' (.render data)).picture := by
  rw [Plate.picture_asks, Plate.picture_asks, hworks, hworks', h.drawing_updated hdata,
    h'.drawing_updated hdata]

end Plate

namespace Plates

/-- A command to draw a plate whose fonts have a size. -/
def Command.Draws (command : Command) : Prop :=
  ∃ data, command.order = .render data ∧ data.Sized

theorem draws_of_drawCommand {game : Game} {settings : PlateSettings} {sighting : Sighting}
    {command : Command} (h : drawCommand game settings sighting = .ok command) :
    command.Draws := by
  unfold drawCommand at h
  cases hdata : sighting.data game settings with
  | error missing => simp [hdata, Except.map] at h
  | ok data =>
      rw [hdata] at h
      obtain rfl := Except.ok.inj h
      exact ⟨data, rfl, PlateData.sized_of_plateData hdata⟩

theorem draws_of_frameCommands {game : Game} {settings : PlateSettings} {screen : Area Float32}
    {commands : List Command} (h : frameCommands game settings screen = .ok commands) :
    ∀ command ∈ commands, command.Draws := by
  intro command hcommand
  obtain ⟨sighting, -, hsighting⟩ := (results_of_mapM h).2 command hcommand
  exact draws_of_drawCommand hsighting

/-- What settled plates draw depends on the commands only. -/
theorem picture_asks {plates plates' : Plates} (h : plates.Settled) (h' : plates'.Settled)
    {commands : List Command} (hcommands : ∀ command ∈ commands, command.Draws)
    {setting setting' : Setting} (hworks : setting.failShaping = false)
    (hworks' : setting'.failShaping = false) :
    (plates.asks setting commands).picture = (plates'.asks setting' commands).picture := by
  induction commands generalizing plates plates' with
  | nil => rfl
  | cons command commands ih =>
      obtain ⟨data, horder, hdata⟩ := hcommands command List.mem_cons_self
      have hfirst : ((plates.slots.get command.slot).asks setting command.order).picture =
          ((plates'.slots.get command.slot).asks setting' command.order).picture := by
        rw [horder]
        exact (h command.slot).picture_asks (h' command.slot) hdata hworks hworks'
      exact Record.picture_append_congr hfirst
        (ih (h.obeyed _ command) (h'.obeyed _ command)
          fun other hother => hcommands other (List.mem_cons_of_mem _ hother))

end Plates

/-! ## Sessions -/

namespace Session

/-- Whatever happened before: once shaping works, the next frame fails as a frame of new plates
does, or it draws as many plates and adds the same texts and sprites to the canvas in the same
order. -/
theorem frames_forget_the_past {steps : List Step} {session : Session}
    (hrun : ({} : Session).run steps = .ok session) (hworks : session.canvas.failShaping = false)
    (game : Game) (settings : PlateSettings) (fresh : Recording)
    (hscreen : fresh.screen = session.canvas.screen) (hfresh : fresh.failShaping = false) :
    (∃ missing, session.plates.draw game settings session.canvas = .error missing ∧
        ({} : Plates).draw game settings fresh = .error missing) ∨
      ∃ count plates canvas plates' canvas' texts sprites,
        session.plates.draw game settings session.canvas = .ok (count, plates, canvas) ∧
        ({} : Plates).draw game settings fresh = .ok (count, plates', canvas') ∧
        canvas.texts.toList = session.canvas.texts.toList ++ texts ∧
        canvas'.texts.toList = fresh.texts.toList ++ texts ∧
        canvas.sprites.toList = session.canvas.sprites.toList ++ sprites ∧
        canvas'.sprites.toList = fresh.sprites.toList ++ sprites := by
  obtain ⟨hsettled, hholds⟩ := settled_run hrun
  obtain ⟨others, howns⟩ := exists_owns fresh
  have hnew : ({ canvas := fresh } : Session).view.plates.Settled := by
    rw [view_default]
    exact Plates.settled_new
  have hdraw := Plates.draw_eq session.plates game settings session.canvas
  have hdraw' := Plates.draw_eq {} game settings fresh
  have hscreen : Canvas.screen fresh = Canvas.screen session.canvas := hscreen
  rw [hscreen] at hdraw'
  cases hcommands : Plates.frameCommands game settings (Canvas.screen session.canvas) with
  | error missing =>
      left
      rw [hcommands] at hdraw hdraw'
      exact ⟨missing, hdraw, hdraw'⟩
  | ok commands =>
      right
      rw [hcommands] at hdraw hdraw'
      have htold := carryOut_told hholds none commands
      have htold' := carryOut_told (holds_default howns) none commands
      -- Both ask for the same picture, though not for the same shapings.
      have hworks : session.view.setting.failShaping = false := hworks
      have hfresh : ({ canvas := fresh } : Session).view.setting.failShaping = false := hfresh
      have hpicture := Plates.picture_asks hsettled hnew
        (Plates.draws_of_frameCommands hcommands) hworks hfresh
      obtain ⟨htexts, hsprites⟩ := Prod.mk.inj hpicture
      refine ⟨commands.length, _, _, _, _, _, _, hdraw, hdraw',
        congrArg Record.texts htold.record, ?_, congrArg Record.sprites htold.record, ?_⟩
      · exact (congrArg Record.texts htold'.record).trans (congrArg (_ ++ ·) htexts.symm)
      · exact (congrArg Record.sprites htold'.record).trans (congrArg (_ ++ ·) hsprites.symm)

theorem frames_forget_the_past_of_troubled :
    ∃ session plates canvas plates' canvas' texts sprites,
      ({} : Session).run troubled = .ok session ∧
        session.plates.draw duel { showOwn := true } session.canvas = .ok (1, plates, canvas) ∧
        ({} : Plates).draw duel { showOwn := true } ({ screen := ⟨-50, -50, 50, 50⟩ } : Recording) =
          .ok (1, plates', canvas') ∧
        canvas.texts.toList = session.canvas.texts.toList ++ texts ∧
        canvas'.texts.toList = texts ∧
        canvas.sprites.toList = session.canvas.sprites.toList ++ sprites ∧
        canvas'.sprites.toList = sprites := by
  obtain ⟨session, hrun, hworks, hscreen, -⟩ := run_troubled
  have hcount : (({} : Plates).draw duel { showOwn := true }
      ({ screen := ⟨-50, -50, 50, 50⟩ } : Recording)).toOption.any (·.1 == 1) = true := by
    decide +kernel
  rcases frames_forget_the_past hrun hworks duel { showOwn := true }
    { screen := ⟨-50, -50, 50, 50⟩ } hscreen.symm rfl with
    ⟨missing, -, hmissing⟩ |
    ⟨count, plates, canvas, plates', canvas', texts, sprites, hdraw, hnew, htexts, htexts',
      hsprites, hsprites'⟩
  · simp [hmissing, Except.toOption] at hcount
  · obtain rfl : count = 1 := by simpa [hnew, Except.toOption] using hcount
    exact ⟨session, plates, canvas, plates', canvas', texts, sprites, hrun, hdraw, hnew, htexts,
      htexts', hsprites, hsprites'⟩

end Session
end Overhead
