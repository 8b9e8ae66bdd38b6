import Overhead.Frame.Session
import Overhead.Proofs.Frame.Commands

/-!
# What a step of a session does

Up to the numbers of handles a session is its plates and its setting. A step is told by these alone:
whether a slot is missing, how many plates were drawn, what was asked of the canvas and what comes
next. The texts of the plates stay apart from all others.
-/

namespace Overhead

open Recording

namespace Session

/-! ## Runs -/

/-- Takes steps in order, up to the first that fails. -/
def run (session : Session) : List Step → Except MissingSlot Session
  | [] => .ok session
  | step :: steps => do
      let (_, next) ← session.step step
      next.run steps

structure Observation where
  count : Option Nat
  report : Recording.Report

/-- Every step of a run, and what is seen of it. A run ends with the first step that fails. -/
def trace (session : Session) : List Step → List (Step × Except MissingSlot Observation)
  | [] => []
  | step :: steps =>
      match session.step step with
      | .error missing => [(step, .error missing)]
      | .ok (count, next) =>
          (step, .ok { count := count, report := session.canvas.since next.canvas }) ::
            next.trace steps

/-! ## Sessions up to the numbers of handles -/

structure View where
  plates : Plates := {}
  setting : Setting

def view (session : Session) : View :=
  { plates := session.plates.anonymous, setting := session.canvas.setting }

/-- How many plates a step draws, what it asks of the canvas, and what comes next. -/
structure Effect where
  count : Option Nat
  added : Record
  next : View

namespace View

def carryOut (view : View) (count : Option Nat) (commands : List Plates.Command) : Effect :=
  { count := count
    added := view.plates.asks view.setting commands
    next :=
      { view with plates := view.plates.carriedOut view.setting.failShaping commands } }

/-- The effect of a step. -/
def step (view : View) : Step → Except MissingSlot Effect
  | .frame game settings =>
      (Plates.frameCommands game settings view.setting.screen).map fun commands =>
        view.carryOut (some commands.length) commands
  | .reset => .ok (view.carryOut none Plates.resetCommands)
  | .preview settings profile position dummy =>
      .ok
        { count := none
          added := Preview.asks settings profile position dummy view.setting
          next := view }
  | .failShaping fails =>
      .ok
        { count := none
          added := .nothing
          next := { view with setting := { view.setting with failShaping := fails } } }
  | .setScreen screen =>
      .ok
        { count := none
          added := .nothing
          next := { view with setting := { view.setting with screen := screen } } }

end View

/-- The texts of the plates share a canvas with other texts. -/
def Holds (session : Session) (rest : List CachedText) : Prop :=
  Owns (session.plates.texts ++ rest) session.canvas

/-- From one session to the next, an effect came about and other texts were left alone. -/
structure Told (effect : Effect) (rest : List CachedText) (session next : Session) : Prop where
  record : next.canvas.record = session.canvas.record ++ effect.added
  view : next.view = effect.next
  holds : next.Holds rest

/-- Plates that were never drawn share any canvas. -/
theorem holds_default {canvas : Recording} {rest : List CachedText} (h : Owns rest canvas) :
    ({ canvas := canvas } : Session).Holds rest :=
  (Owns.append_iff Plates.handles_texts_new).mpr h

theorem owns_default : Owns [] ({} : Recording) := by
  refine ⟨List.nodup_nil, fun cached hcached => ?_, fun index hindex => ?_⟩
  · cases hcached
  · simp [find] at hindex

theorem view_default (canvas : Recording) :
    ({ canvas := canvas } : Session).view = { setting := canvas.setting } := by
  have hplates : ({} : Plates).anonymous = {} := by
    simp only [Plates.anonymous, Vector.map_replicate]
    rfl
  rw [view, hplates]

section

variable {session : Session} {rest : List CachedText}

theorem carryOut_told (h : session.Holds rest) (count : Option Nat)
    (commands : List Plates.Command) :
    let next := Plates.carryOut commands (session.plates, session.canvas)
    Told (session.view.carryOut count commands) rest session
      { plates := next.1, canvas := next.2 } := by
  intro next
  obtain ⟨hplates, hyields⟩ := Plates.carryOut_yields h commands
  refine ⟨hyields.record, ?_, hyields.owns⟩
  show View.mk next.1.anonymous next.2.setting = _
  rw [hplates, hyields.setting]
  rfl

/-- A step fails or has its effect, as the view tells. -/
theorem step_told (h : session.Holds rest) (step : Step) :
    match session.view.step step with
    | .error missing => session.step step = .error missing
    | .ok effect => ∃ next, session.step step = .ok (effect.count, next) ∧
        Told effect rest session next := by
  cases step with
  | frame game settings =>
      have hdraw := Plates.draw_eq session.plates game settings session.canvas
      have hscreen : session.view.setting.screen = Canvas.screen session.canvas := rfl
      simp only [View.step, hscreen]
      cases hcommands : Plates.frameCommands game settings (Canvas.screen session.canvas) with
      | error missing =>
          rw [hcommands] at hdraw
          simp [Session.step, hdraw, Except.map, bind, Except.bind]
      | ok commands =>
          rw [hcommands] at hdraw
          refine ⟨_, ?_, carryOut_told h (some commands.length) commands⟩
          simp [Session.step, hdraw, Except.map, bind, Except.bind, pure, Except.pure,
            View.carryOut]
  | reset =>
      have hreset := Plates.reset_eq session.plates session.canvas
      have htold := carryOut_told h none Plates.resetCommands
      -- What is reset, slot by slot, does not matter here.
      simp only [View.step]
      generalize Plates.resetCommands = commands at hreset htold ⊢
      exact ⟨_, by simp only [Session.step, hreset]; rfl, htold⟩
  | preview settings profile position dummy =>
      have hyields := Preview.draw_yields h settings profile position dummy
      refine ⟨_, rfl, hyields.record, ?_, hyields.owns⟩
      show View.mk session.plates.anonymous _ = _
      rw [hyields.setting]
      rfl
  | failShaping fails =>
      refine ⟨_, rfl, ?_, rfl, h.congr rfl⟩
      rw [Record.append_nothing]
      rfl
  | setScreen screen =>
      refine ⟨_, rfl, ?_, rfl, h.congr rfl⟩
      rw [Record.append_nothing]
      rfl

end

/-- What holds of a view at the start and survives every effect holds after every run. -/
theorem run_invariant (holds : View → Prop)
    (hstep : ∀ view step effect, holds view → view.step step = .ok effect → holds effect.next)
    {session last : Session} {rest : List CachedText} {steps : List Step}
    (hview : holds session.view) (h : session.Holds rest)
    (hrun : session.run steps = .ok last) : holds last.view ∧ last.Holds rest := by
  induction steps generalizing session with
  | nil =>
      cases hrun
      exact ⟨hview, h⟩
  | cons step steps ih =>
      have htold := step_told h step
      cases heffect : session.view.step step with
      | error missing =>
          rw [heffect] at htold
          simp [run, htold, bind, Except.bind] at hrun
      | ok effect =>
          rw [heffect] at htold
          obtain ⟨next, hnext, htold⟩ := htold
          have hview' : holds next.view := by
            rw [htold.view]
            exact hstep _ _ _ hview heffect
          simp only [run, hnext, bind, Except.bind] at hrun
          exact ih hview' htold.holds hrun

end Session
end Overhead
