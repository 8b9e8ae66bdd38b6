import Overhead.Proofs.Frame.Session

/-!
# Previews leave no trace

Whatever is seen of a step follows from the view of the session before it, and a preview does not
change the view. So the other steps of a run look the same when the previews are left out.
-/

namespace Overhead

open Recording

namespace Session

def Step.isPreview : Step → Bool
  | .preview _ _ _ _ => true
  | .frame _ _ | .reset | .failShaping _ | .setScreen _ => false

/-! ## What is seen of a run -/

namespace View

/-- What is seen of an effect, on a canvas that keeps so many texts for others. -/
def observe (others : Nat) (effect : Effect) : Observation :=
  { count := effect.count
    report :=
      { shapedOn := effect.added.shapedOn
        releases := effect.added.releases
        live := (handles effect.next.plates.texts).length + others
        flags := effect.added.flags
        screen := effect.next.setting.screen
        texts := effect.added.texts
        sprites := effect.added.sprites } }

/-- The run as the view tells it. -/
def trace (others : Nat) (view : View) : List Step → List (Step × Except MissingSlot Observation)
  | [] => []
  | step :: steps =>
      match view.step step with
      | .error missing => [(step, .error missing)]
      | .ok effect => (step, .ok (observe others effect)) :: trace others effect.next steps

/-- A preview draws something and leaves the view as it was. -/
theorem step_of_isPreview {step : Step} (h : step.isPreview) (view : View) :
    ∃ added, view.step step = .ok { count := none, added := added, next := view } := by
  cases step with
  | preview settings profile position dummy => exact ⟨_, rfl⟩
  | frame | reset | failShaping | setScreen => cases h

theorem trace_filter (others : Nat) (view : View) (steps : List Step) :
    (view.trace others steps).filter (!·.1.isPreview) =
      view.trace others (steps.filter (!·.isPreview)) := by
  induction steps generalizing view with
  | nil => rfl
  | cons step steps ih =>
      by_cases hpreview : step.isPreview
      · obtain ⟨added, heffect⟩ := step_of_isPreview hpreview view
        simp [trace, heffect, hpreview, ih]
      · cases heffect : view.step step with
        | error missing => simp [trace, heffect, hpreview]
        | ok effect => simp [trace, heffect, hpreview, ih]

end View

theorem Told.observe_eq {effect : Effect} {rest : List CachedText} {session next : Session}
    (h : Told effect rest session next) :
    { count := effect.count, report := session.canvas.since next.canvas } =
      View.observe (handles rest).length effect := by
  have hplates : effect.next.plates = next.plates.anonymous :=
    congrArg View.plates h.view.symm
  have hlive : next.canvas.live =
      (handles effect.next.plates.texts).length + (handles rest).length := by
    rw [h.holds.live_eq, handles_append, List.length_append, hplates, Plates.texts_anonymous,
      CachedText.length_handles_map_anonymous]
  have hscreen : next.canvas.screen = effect.next.setting.screen := by
    rw [← h.view]
    rfl
  rw [since_eq h.record, hlive, hscreen]
  rfl

theorem trace_eq {session : Session} {rest : List CachedText} (h : session.Holds rest)
    (steps : List Step) :
    session.trace steps = session.view.trace (handles rest).length steps := by
  induction steps generalizing session with
  | nil => rfl
  | cons step steps ih =>
      have htold := step_told h step
      cases heffect : session.view.step step with
      | error missing =>
          rw [heffect] at htold
          simp [trace, View.trace, heffect, htold]
      | ok effect =>
          rw [heffect] at htold
          obtain ⟨next, hnext, htold⟩ := htold
          simp only [trace, View.trace, heffect, hnext]
          rw [htold.observe_eq, ih htold.holds, htold.view]

/-- Whether or not previews are drawn in between, the same is seen of every other step. -/
theorem previews_leave_no_trace (canvas : Recording) (steps : List Step) :
    (({ canvas := canvas } : Session).trace steps).filter (!·.1.isPreview) =
      ({ canvas := canvas } : Session).trace (steps.filter (!·.isPreview)) := by
  obtain ⟨others, howns⟩ := exists_owns canvas
  have hholds : ({ canvas := canvas } : Session).Holds others := holds_default howns
  rw [trace_eq hholds, trace_eq hholds, View.trace_filter]

end Session
end Overhead
