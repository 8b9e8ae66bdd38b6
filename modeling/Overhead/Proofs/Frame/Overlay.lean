import Mathlib.Data.List.Induction
import Overhead.Frame.Overlay
import Overhead.Paint.Painting
import Overhead.Proofs.Canvas.Dated
import Overhead.Proofs.Frame.Settled

/-!
# How old texts may be

The key that tells whether a text has to be shaped again has no place for the scale or the size of
the window. That no text outlives a change of these rests on the overlay, which gives all texts back
before it draws. To tell when texts were shaped, runs are repeated with dated handles.
-/

namespace Overhead

open Recording

namespace Overlay

variable {σ : Type} [Canvas σ]

theorem refresh_of_outdated {overlay : Overlay} {events : FrameEvents}
    (h : overlay.isOutdated events = true) (canvas : σ) :
    overlay.refresh events canvas =
      ({ plates := (overlay.plates.reset canvas).1, lastScale := some events.scale },
        (overlay.plates.reset canvas).2) := by
  rw [refresh, if_pos h]

theorem refresh_of_fitting {overlay : Overlay} {events : FrameEvents}
    (h : ¬ overlay.isOutdated events = true) (canvas : σ) :
    overlay.refresh events canvas =
      ({ overlay with lastScale := some events.scale }, canvas) := by
  rw [refresh, if_neg h]

/-- After the texts were looked through, a frame draws and nothing else. -/
theorem frame_eq (overlay : Overlay) (events : FrameEvents) (game : Game)
    (settings : PlateSettings) (canvas : σ) :
    overlay.frame events game settings canvas =
      ((overlay.refresh events canvas).1.plates.draw game settings
        (overlay.refresh events canvas).2).map
        fun (count, plates, canvas) =>
          (count, { plates := plates, lastScale := some events.scale }, canvas) := by
  have hscale : (overlay.refresh events canvas).1.lastScale = some events.scale := rfl
  unfold frame
  rw [← hscale]
  obtain ⟨overlay, canvas⟩ := overlay.refresh events canvas
  cases hdraw : overlay.plates.draw game settings canvas <;>
    simp [hdraw, bind, Except.bind, Except.map, pure, Except.pure]

end Overlay

/-- What the overlay finds in a frame. -/
structure Scene where
  events : FrameEvents
  game : Game
  settings : PlateSettings := {}
  camera : Camera Float32 := Camera.initial
  viewport : Area Float32
  sprites : SpriteTable
  typeface : Typeface := Typeface.even

namespace Scene

def painting (scene : Scene) (texts : TextStore) : Painting :=
  { Painting.start scene.viewport scene.events.scale scene.sprites texts
      (scene.camera.screen scene.viewport.aspect) with
    typeface := scene.typeface }

/-- Texts from before such a frame do not fit any more: the window was resized, somebody asked for
new texts, or the scale is not that of the frame before. -/
def Changes (scenes : List Scene) (day : Nat) : Prop :=
  ∃ scene, scenes[day]? = some scene ∧
    (0 < scene.events.resized ∨ 0 < scene.events.requested ∨
      ∃ yesterday before, day = yesterday + 1 ∧ scenes[yesterday]? = some before ∧
        before.events.scale != scene.events.scale)

variable {scenes : List Scene} {scene : Scene} {day : Nat}

theorem Changes.lt_length (h : Changes scenes day) : day < scenes.length := by
  obtain ⟨scene, hscene, -⟩ := h
  exact (List.getElem?_eq_some_iff.mp hscene).1

theorem changes_append (hday : day < scenes.length) :
    Changes (scenes ++ [scene]) day ↔ Changes scenes day := by
  have hbefore : ∀ earlier ≤ day, (scenes ++ [scene])[earlier]? = scenes[earlier]? := by
    intro earlier hearlier
    exact List.getElem?_append_left (by omega)
  unfold Changes
  rw [hbefore day (Nat.le_refl day)]
  refine exists_congr fun found => and_congr_right fun _ => or_congr_right (or_congr_right ?_)
  refine exists_congr fun yesterday => exists_congr fun before => ?_
  refine and_congr_right fun hyesterday => ?_
  rw [hbefore yesterday (by omega)]

/-- The overlay need not remember more than the scale of the last frame. -/
theorem changes_length {overlay : Overlay}
    (hscale : overlay.lastScale = scenes.getLast?.map fun scene => scene.events.scale) :
    Changes (scenes ++ [scene]) scenes.length ↔ overlay.isOutdated scene.events = true := by
  have hlast : (scenes ++ [scene])[scenes.length]? = some scene := by simp
  have hbefore : (∃ yesterday before, scenes.length = yesterday + 1 ∧
      (scenes ++ [scene])[yesterday]? = some before ∧ before.events.scale != scene.events.scale) ↔
      overlay.lastScale.any (· != scene.events.scale) = true := by
    rw [hscale, List.getLast?_eq_getElem?]
    constructor
    · rintro ⟨yesterday, before, hlength, hfound, hother⟩
      rw [List.getElem?_append_left (by omega)] at hfound
      have hyesterday : scenes.length - 1 = yesterday := by omega
      rw [hyesterday, hfound]
      exact hother
    · intro hany
      cases hfound : scenes[scenes.length - 1]? with
      | none => simp [hfound] at hany
      | some before =>
          have hlt := (List.getElem?_eq_some_iff.mp hfound).1
          refine ⟨scenes.length - 1, before, by omega, ?_, ?_⟩
          · rw [List.getElem?_append_left hlt, hfound]
          · simpa [hfound] using hany
  unfold Changes
  rw [hlast]
  simp only [Option.some.injEq, exists_eq_left', hbefore]
  simp [Overlay.isOutdated, or_assoc]

end Scene

/-- What is kept from frame to frame. -/
structure Kept where
  overlay : Overlay := {}
  texts : TextStore := {}

namespace Kept

/-- A frame with the plates and the texts of the last one. -/
def frame (kept : Kept) (scene : Scene) : Except MissingSlot Kept :=
  (kept.overlay.frame scene.events scene.game scene.settings (scene.painting kept.texts)).map
    fun (_, overlay, painting) => { overlay := overlay, texts := painting.texts }

def run (scenes : List Scene) : Except MissingSlot Kept :=
  scenes.foldlM frame {}

def datedPainting (kept : Kept) (scene : Scene) (today : Nat) : Dated today Painting :=
  { canvas := scene.painting kept.texts }

/-- The same frame, in which handles take the date of the day their text is shaped. -/
def datedFrame (kept : Kept) : Scene × Nat → Except MissingSlot Kept
  | (scene, today) =>
      (kept.overlay.frame scene.events scene.game scene.settings
        (kept.datedPainting scene today)).map
        fun (_, overlay, dated) => { overlay := overlay, texts := dated.canvas.texts }

/-- A run in which the days are counted from zero. -/
def datedRun (scenes : List Scene) : Except MissingSlot Kept :=
  scenes.zipIdx.foldlM datedFrame {}

def forgetDates (kept : Kept) : Kept :=
  { kept with overlay := kept.overlay.renumber Dated.index }

/-! ## Dated runs are runs -/

theorem forgetDates_new : forgetDates {} = {} := by
  have hplates : ({} : Plates).renumber Dated.index = {} := by
    refine Plates.renumber_eq_self fun number hnumber => ?_
    rw [Plates.handles_texts_new] at hnumber
    cases hnumber
  rw [forgetDates, Overlay.renumber, hplates]

theorem frame_forgetDates (kept : Kept) (scene : Scene) (today : Nat) :
    kept.forgetDates.frame scene = (kept.datedFrame (scene, today)).map forgetDates := by
  have hframe : kept.forgetDates.overlay.frame scene.events scene.game scene.settings
      (scene.painting kept.texts) =
        (kept.overlay.frame scene.events scene.game scene.settings
          (kept.datedPainting scene today)).map
          (Prod.map id (Prod.map (Overlay.renumber Dated.index) Dated.canvas)) :=
    Dated.forget.overlay_frame kept.overlay scene.events scene.game scene.settings
      (kept.datedPainting scene today)
  have htexts : kept.forgetDates.texts = kept.texts := rfl
  rw [frame, htexts, hframe, datedFrame]
  cases kept.overlay.frame scene.events scene.game scene.settings
    (kept.datedPainting scene today) <;> rfl

theorem run_eq_map_datedRun (scenes : List Scene) :
    run scenes = (datedRun scenes).map forgetDates := by
  have hfrom : ∀ (scenes : List Scene) (today : Nat) (kept : Kept),
      scenes.foldlM frame kept.forgetDates =
        ((scenes.zipIdx today).foldlM datedFrame kept).map forgetDates := by
    intro scenes
    induction scenes with
    | nil => exact fun today kept => rfl
    | cons scene scenes ih =>
        intro today kept
        rw [List.zipIdx_cons, List.foldlM_cons, List.foldlM_cons, frame_forgetDates]
        cases kept.datedFrame (scene, today) with
        | error missing => rfl
        | ok next => exact ih (today + 1) next
  have hrun := hfrom scenes 0 {}
  rwa [forgetDates_new] at hrun

/-! ## One frame more -/

theorem datedRun_append_singleton (scenes : List Scene) (scene : Scene) :
    datedRun (scenes ++ [scene]) =
      (datedRun scenes).bind fun kept => kept.datedFrame (scene, scenes.length) := by
  have hdays : [scene].zipIdx (0 + scenes.length) = [(scene, scenes.length)] := by simp
  rw [datedRun, datedRun, List.zipIdx_append, List.foldlM_append, hdays]
  simp only [List.foldlM_cons, List.foldlM_nil, bind_pure]
  rfl

section

variable {scenes : List Scene} {scene : Scene} {kept next dated last : Kept} {today : Nat}

theorem datedFrame_ok (h : kept.datedFrame (scene, today) = .ok next) :
    let refreshed := kept.overlay.refresh scene.events (kept.datedPainting scene today)
    next.overlay.lastScale = some scene.events.scale ∧
      ∃ count canvas, refreshed.1.plates.draw scene.game scene.settings refreshed.2 =
        .ok (count, next.overlay.plates, canvas) := by
  intro refreshed
  rw [datedFrame, Overlay.frame_eq] at h
  cases hdraw : refreshed.1.plates.draw scene.game scene.settings refreshed.2 with
  | error missing =>
      rw [hdraw] at h
      cases h
  | ok drawn =>
      rw [hdraw] at h
      obtain rfl := Except.ok.inj h
      exact ⟨rfl, drawn.1, drawn.2.2, rfl⟩

theorem datedRun_append_ok (h : datedRun (scenes ++ [scene]) = .ok last) :
    ∃ kept, datedRun scenes = .ok kept ∧ kept.datedFrame (scene, scenes.length) = .ok last := by
  rw [datedRun_append_singleton] at h
  cases hkept : datedRun scenes with
  | error missing =>
      rw [hkept] at h
      cases h
  | ok kept =>
      rw [hkept] at h
      exact ⟨kept, rfl, h⟩

theorem lastScale_datedRun (h : datedRun scenes = .ok dated) :
    dated.overlay.lastScale = scenes.getLast?.map fun scene => scene.events.scale := by
  induction scenes using List.reverseRecOn with
  | nil =>
      obtain rfl := Except.ok.inj h
      rfl
  | append_singleton scenes scene _ =>
      obtain ⟨kept, -, hframe⟩ := datedRun_append_ok h
      rw [(datedFrame_ok hframe).1, List.getLast?_append, List.getLast?_singleton]
      rfl

theorem lastScale_run (h : run scenes = .ok last) :
    last.overlay.lastScale = scenes.getLast?.map fun scene => scene.events.scale := by
  rw [run_eq_map_datedRun] at h
  cases hdated : datedRun scenes with
  | error missing =>
      rw [hdated] at h
      cases h
  | ok dated =>
      rw [hdated] at h
      have hlast : dated.forgetDates = last := Except.ok.inj h
      have hscale : dated.forgetDates.overlay.lastScale = dated.overlay.lastScale := rfl
      rw [← hlast, hscale, lastScale_datedRun hdated]

/-- The days whose texts still fit. -/
def Recent (scenes : List Scene) (date : Nat) : Prop :=
  date < scenes.length ∧ ∀ day, Scene.Changes scenes day → day ≤ date

theorem recent_today (scenes : List Scene) (scene : Scene) :
    Recent (scenes ++ [scene]) scenes.length := by
  refine ⟨by simp, fun day hday => ?_⟩
  have hlt := hday.lt_length
  rw [List.length_append, List.length_singleton] at hlt
  omega

theorem Recent.append {date : Nat} (h : Recent scenes date)
    (hsame : ¬ Scene.Changes (scenes ++ [scene]) scenes.length) :
    Recent (scenes ++ [scene]) date := by
  obtain ⟨hdate, hsince⟩ := h
  refine ⟨by rw [List.length_append]; omega, fun day hday => ?_⟩
  have hlt := hday.lt_length
  rw [List.length_append, List.length_singleton] at hlt
  by_cases htoday : day = scenes.length
  · rw [htoday] at hday
    exact absurd hday hsame
  · have hearlier : day < scenes.length := by omega
    exact hsince day ((Scene.changes_append hearlier).mp hday)

/-- The induction over a run: a frame that finds a change starts with no texts at all, and any other
frame starts with texts that fit as well as they did. -/
theorem hasDates_datedRun (h : datedRun scenes = .ok dated) :
    Dated.HasDates (Recent scenes) dated.overlay.plates := by
  induction scenes using List.reverseRecOn generalizing dated with
  | nil =>
      obtain rfl := Except.ok.inj h
      intro number hnumber
      rw [Plates.handles_texts_new] at hnumber
      cases hnumber
  | append_singleton scenes scene ih =>
      obtain ⟨kept, hkept, hframe⟩ := datedRun_append_ok h
      obtain ⟨-, count, canvas, hdraw⟩ := datedFrame_ok hframe
      have hchanges : Scene.Changes (scenes ++ [scene]) scenes.length ↔
          kept.overlay.isOutdated scene.events = true :=
        Scene.changes_length (lastScale_datedRun hkept)
      refine Dated.HasDates.draw ?_ (recent_today scenes scene) hdraw
      by_cases houtdated : kept.overlay.isOutdated scene.events = true
      · rw [Overlay.refresh_of_outdated houtdated]
        have hempty : Dated.HasDates (Recent (scenes ++ [scene]))
            (kept.overlay.plates.reset (kept.datedPainting scene scenes.length)).1 :=
          Dated.hasDates_reset _ _ _
        simpa only using hempty
      · rw [Overlay.refresh_of_fitting houtdated]
        have hsame : ¬ Scene.Changes (scenes ++ [scene]) scenes.length :=
          fun hchange => houtdated (hchanges.mp hchange)
        exact (ih hkept).mono fun date hdate => hdate.append hsame

/-- After every run, whatever its frames drew or left out, the texts that plates keep were shaped in
or after the last frame with a change. A frame without a change resets nothing: it draws with the
plates as they are. -/
theorem texts_are_as_new_as_the_last_change (hrun : run scenes = .ok last) :
    (∃ dated, datedRun scenes = .ok dated ∧ dated.forgetDates = last ∧
      ∀ number ∈ handles dated.overlay.plates.texts,
        Dated.date number < scenes.length ∧
          ∀ day, Scene.Changes scenes day → day ≤ Dated.date number) ∧
    ∀ scene : Scene, ¬ Scene.Changes (scenes ++ [scene]) scenes.length →
      last.overlay.frame scene.events scene.game scene.settings (scene.painting last.texts) =
        (last.overlay.plates.draw scene.game scene.settings (scene.painting last.texts)).map
          fun (count, plates, painting) =>
            (count, { plates := plates, lastScale := some scene.events.scale }, painting) := by
  constructor
  · rw [run_eq_map_datedRun] at hrun
    cases hdated : datedRun scenes with
    | error missing =>
        rw [hdated] at hrun
        cases hrun
    | ok dated =>
        rw [hdated] at hrun
        exact ⟨dated, rfl, Except.ok.inj hrun, hasDates_datedRun hdated⟩
  · intro scene hsame
    have hfitting : ¬ last.overlay.isOutdated scene.events = true :=
      fun houtdated => hsame ((Scene.changes_length (lastScale_run hrun)).mpr houtdated)
    rw [Overlay.frame_eq, Overlay.refresh_of_fitting hfitting]

end

/-- A frame of a game with one player, or with nobody. -/
def shown (scale : Float32) (game : Game) : Scene :=
  { events := { scale := scale }
    game := game
    settings := { showOwn := true, showClan := true }
    viewport := ⟨0, 0, 800, 600⟩
    sprites := SpriteTable.empty }

/-- The window moves to a display with another scale before the game is left. -/
def moved : List Scene :=
  [shown 1 Session.duel, shown 2 Session.duel, shown 2 {}]

theorem texts_of_moved : ∃ last, run moved = .ok last ∧
    (handles last.overlay.plates.texts).length = 2 ∧
    ∃ dated, datedRun moved = .ok dated ∧ dated.forgetDates = last ∧
      ∀ number ∈ handles dated.overlay.plates.texts, 1 ≤ Dated.date number := by
  have hchecked : (run moved).toOption.any (fun last =>
      (handles last.overlay.plates.texts).length == 2) = true := by
    decide +kernel
  cases hrun : run moved with
  | error missing => simp [hrun, Except.toOption] at hchecked
  | ok last =>
      have hlength : (handles last.overlay.plates.texts).length = 2 := by
        simpa [hrun, Except.toOption] using hchecked
      obtain ⟨dated, hdated, hforget, hdates⟩ := (texts_are_as_new_as_the_last_change hrun).1
      have hchange : Scene.Changes moved 1 := by
        refine ⟨shown 2 Session.duel, rfl, Or.inr (Or.inr ⟨0, shown 1 Session.duel, rfl, rfl, ?_⟩)⟩
        decide +kernel
      exact ⟨last, rfl, hlength, dated, hdated, hforget,
        fun number hnumber => (hdates number hnumber).2 1 hchange⟩

end Kept
end Overhead
