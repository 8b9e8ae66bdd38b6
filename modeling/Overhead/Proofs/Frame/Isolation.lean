import Overhead.Proofs.Frame.Drawing
import Overhead.Proofs.Frame.History
import Overhead.Proofs.Game.Isolation

/-!
# Slots that do not influence each other

All plates share one canvas, with its screen, its flags and its texts, and whoever is drawn shifts
the handles of all that follow. None of this can be seen: in two games that differ in one slot,
through which nobody looks, the plates of all other slots look the same and are drawn in the same
order.
-/

namespace Overhead

open Recording

/-! ## Sightings of other slots -/

namespace Sighting

variable {game game' : Game} {settings : PlateSettings} {screen : Area Float32}
  {i slot : Fin slotCount}

theorem slot_of_mem_ofSlot {sighting : Sighting}
    (h : sighting ∈ ofSlot game settings (reach screen) slot) : sighting.slot = slot := by
  rw [← Sight.map_sighting_ofSlot] at h
  obtain ⟨sight, hsight, rfl⟩ := List.mem_map.mp h
  exact (Sight.mem_ofSlot.mp hsight).1

theorem filter_ofSlot_self :
    (ofSlot game settings (reach screen) i).filter (·.slot != i) = [] := by
  refine List.filter_eq_nil_iff.mpr fun sighting hsighting => ?_
  simp [slot_of_mem_ofSlot hsighting]

/-- What is to be drawn for other slots, and in which order, does not depend on a slot. -/
theorem filter_all_eq (h : game.SameBut i game') (settings : PlateSettings)
    (screen : Area Float32) :
    (all game' settings screen).filter (·.slot != i) =
      (all game settings screen).filter (·.slot != i) := by
  have hrunning : game'.isRunning = game.isRunning := h.read_eq Game.isRunning fun _ => rfl
  unfold all
  rw [hrunning]
  split
  · rfl
  · rw [List.filter_flatMap, List.filter_flatMap]
    refine List.flatMap_congr fun slot _ => ?_
    by_cases hslot : slot = i
    · rw [hslot, filter_ofSlot_self, filter_ofSlot_self]
    · simp only [ofSlot, h.slots slot hslot]

end Sighting

theorem Place.forced_injective : Function.Injective forced := by
  intro place place' h
  cases place with
  | body =>
      cases place' with
      | body => rfl
      | player => cases h
  | player =>
      cases place' with
      | body => cases h
      | player => rfl

theorem Sight.sighting_injective : Function.Injective sighting := by
  rintro ⟨slot, place, position⟩ ⟨slot', place', position'⟩ h
  obtain ⟨rfl, rfl, -, hforced⟩ := Sighting.mk.inj h
  obtain rfl : place = place' := Place.forced_injective hforced
  rfl

/-! ## What renderings look like -/

/-- What a plate looks like that shows this data and nothing else before. -/
def PlateData.firstDrawing (data : PlateData) : Record :=
  (({} : Plate).updated data false).drawing

namespace Rendering

/-- What can be seen of a rendering: where the plate is, what it shows, and what is drawn of it. -/
def seen (rendering : Rendering) : Sight × PlateData × List DrawnText × List DrawnSprite :=
  (rendering.sight, rendering.data, rendering.plate.drawing.texts, rendering.plate.drawing.sprites)

def elsewhere (i : Fin slotCount) (shown : List Rendering) : List Rendering :=
  shown.filter (·.sight.slot != i)

theorem mem_elsewhere {i : Fin slotCount} {shown : List Rendering} {rendering : Rendering} :
    rendering ∈ elsewhere i shown ↔ rendering ∈ shown ∧ rendering.sight.slot ≠ i := by
  simp [elsewhere]

end Rendering

namespace Plates

section

variable {plates : Plates} {rest : List CachedText} {canvas : Recording}

theorem drawing_render (hsettled : plates.anonymous.Settled)
    (howns : Owns (plates.texts ++ rest) canvas) (hworks : canvas.failShaping = false)
    (slot : Fin slotCount) {data : PlateData} (hdata : data.Sized) :
    ((plates.render slot data canvas).1.slots.get slot).drawing = data.firstDrawing := by
  rw [← Plate.drawing_anonymous, anonymous_get_render howns, hworks]
  exact (hsettled slot).drawing_updated hdata

/-- While shaping works, all plates of a frame look as if they were drawn for the first time. -/
theorem Renders.drawing_eq {state last : Plates × Recording} {shown : List Rendering}
    (h : Renders state shown last) (hsettled : state.1.anonymous.Settled)
    (howns : Owns (state.1.texts ++ rest) state.2) (hworks : state.2.failShaping = false)
    (hdata : ∀ rendering ∈ shown, rendering.data.Sized) :
    ∀ rendering ∈ shown, rendering.plate.drawing = rendering.data.firstDrawing := by
  induction h with
  | nil state => simp
  | @cons slots canvas next last rendering _ hplate _ ih =>
      obtain ⟨hfirst, hlater⟩ := List.forall_mem_cons.mp hdata
      obtain ⟨hnext, hkept, -⟩ :=
        render_adds hsettled howns rendering.sight.slot rendering.data
      have hstill : ((⟨slots⟩ : Plates).render rendering.sight.slot rendering.data
          canvas).2.failShaping = canvas.failShaping :=
        failShaping_obey howns { slot := rendering.sight.slot, order := .render rendering.data }
      have hdrawing := drawing_render hsettled howns hworks rendering.sight.slot hfirst
      rw [get_render, if_pos rfl, hplate] at hdrawing
      rw [render_eq hplate] at hnext hkept hstill
      exact List.forall_mem_cons.mpr ⟨hdrawing, ih hnext hkept (hstill.trans hworks) hlater⟩

end

/-! ## Frames of two games -/

/-- Items that are found under the same keys look the same if the keys tell what they look like. -/
theorem map_eq_map_of_keys {α β γ : Type} {key : α → β} {view : α → γ} {items items' : List α}
    (hkeys : items.map key = items'.map key)
    (hview : ∀ item ∈ items, ∀ item' ∈ items', key item = key item' → view item = view item') :
    items.map view = items'.map view := by
  induction items generalizing items' with
  | nil =>
      obtain rfl := List.map_eq_nil_iff.mp hkeys.symm
      rfl
  | cons item items ih =>
      obtain ⟨item', items', rfl, hkey, hkeys⟩ := List.map_eq_cons_iff.mp hkeys.symm
      have hfirst := hview item List.mem_cons_self item' List.mem_cons_self hkey.symm
      have hlater := ih hkeys.symm fun later hlater later' hlater' =>
        hview later (List.mem_cons_of_mem _ hlater) later' (List.mem_cons_of_mem _ hlater')
      rw [List.map_cons, List.map_cons, hfirst, hlater]

/-- The renderings of a frame: one for each plate that is to be drawn, in this order and with the
data that the game has for it. What they look like is what the frame adds to the canvas. -/
structure FrameRenders (game : Game) (settings : PlateSettings) (state : Plates × Recording)
    (shown : List Rendering) (last : Plates × Recording) : Prop where
  sightings : shown.map (·.sight.sighting) = Sighting.all game settings state.2.screen
  data : ∀ rendering ∈ shown, rendering.sight.data game settings = .ok rendering.data
  renders : Renders state shown last
  adds : Adds (shown.map (·.plate)) state.2 last.2

section

variable {game game' : Game} {settings : PlateSettings} {i : Fin slotCount}
  {state last last' : Plates × Recording} {shown shown' : List Rendering}
  {rest : List CachedText}

theorem exists_frameRenders (hsettled : state.1.anonymous.Settled)
    (howns : Owns (state.1.texts ++ rest) state.2) {count : Nat}
    (h : state.1.draw game settings state.2 = .ok (count, last)) :
    ∃ shown, FrameRenders game settings state shown last := by
  by_cases hon : game.isRunning = true ∧ settings.isDisabled = false
  · obtain ⟨hgame, hsettings⟩ := hon
    obtain ⟨commands, hcommands, hdrawn⟩ := draw_eq_ok.mp h
    obtain ⟨-, rfl⟩ := Prod.mk.inj hdrawn
    have hpairs := (frameCommands_eq_ok hgame hsettings).mp hcommands
    obtain ⟨shown, hsights, hdata, hrenders⟩ := exists_renders hpairs state
    have hsights : shown.map (·.sight) = Sight.all game settings state.2.screen := hsights
    refine ⟨shown, ?_, hdata, hrenders, (hrenders.adds hsettled howns).1⟩
    rw [← Sight.map_sighting_all hgame hsettings, ← hsights, List.map_map]
    rfl
  · have hoff : game.isRunning = false ∨ settings.isDisabled = true := by
      by_cases hgame : game.isRunning = true
      · exact Or.inr (Bool.eq_true_of_not_eq_false fun hsettings => hon ⟨hgame, hsettings⟩)
      · exact Or.inl (Bool.eq_false_of_not_eq_true hgame)
    rw [draw_of_off hoff] at h
    obtain ⟨-, rfl⟩ := Prod.mk.inj (Except.ok.inj h)
    refine ⟨[], ?_, by simp, .nil state, by simp, by simp, rfl⟩
    rcases hoff with hgame | hsettings
    · simp [Sighting.all, hgame]
    · simp [Sighting.all, hsettings]

theorem FrameRenders.drawing_eq (h : FrameRenders game settings state shown last)
    (hsettled : state.1.anonymous.Settled) (howns : Owns (state.1.texts ++ rest) state.2)
    (hworks : state.2.failShaping = false) :
    ∀ rendering ∈ shown, rendering.plate.drawing = rendering.data.firstDrawing :=
  h.renders.drawing_eq hsettled howns hworks fun rendering hrendering =>
    PlateData.sized_of_plateData (h.data rendering hrendering)

theorem FrameRenders.sightings_elsewhere (h : FrameRenders game settings state shown last)
    (i : Fin slotCount) :
    (Rendering.elsewhere i shown).map (·.sight.sighting) =
      (Sighting.all game settings state.2.screen).filter (·.slot != i) := by
  rw [← h.sightings, List.filter_map]
  rfl

/-- In two games that differ in one slot, what is seen of all other slots is the same. -/
theorem FrameRenders.seen_elsewhere_eq (hsame : game.SameBut i game')
    (hview : game.ViewedWithout i) (hsettled : state.1.anonymous.Settled)
    (howns : Owns (state.1.texts ++ rest) state.2) (hworks : state.2.failShaping = false)
    (h : FrameRenders game settings state shown last)
    (h' : FrameRenders game' settings state shown' last') :
    (Rendering.elsewhere i shown).map Rendering.seen =
      (Rendering.elsewhere i shown').map Rendering.seen := by
  have hkeys : (Rendering.elsewhere i shown).map (·.sight.sighting) =
      (Rendering.elsewhere i shown').map (·.sight.sighting) := by
    rw [h.sightings_elsewhere, h'.sightings_elsewhere, Sighting.filter_all_eq hsame]
  refine map_eq_map_of_keys hkeys fun rendering hrendering rendering' hrendering' hkey => ?_
  obtain ⟨hshown, hslot⟩ := Rendering.mem_elsewhere.mp hrendering
  obtain ⟨hshown', -⟩ := Rendering.mem_elsewhere.mp hrendering'
  have hsight : rendering.sight = rendering'.sight := Sight.sighting_injective hkey
  have hdata : rendering.data = rendering'.data := by
    have hread := h'.data rendering' hshown'
    rw [← hsight, Sight.data, hsame.plateData_eq hview (Fin.val_ne_of_ne hslot)] at hread
    exact Except.ok.inj ((h.data rendering hshown).symm.trans hread)
  rw [Rendering.seen, Rendering.seen, h.drawing_eq hsettled howns hworks rendering hshown,
    h'.drawing_eq hsettled howns hworks rendering' hshown', hsight, hdata]

end

end Plates

namespace Session

/-- Two games that differ in a slot through which nobody looks show the same data for all other
slots, or fail for the same ids. However a session came about, while shaping works and both games
can be drawn, what is drawn for all other slots is the same in both frames, in the same order. -/
theorem slots_do_not_influence_each_other {i : Fin slotCount} {game game' : Game}
    (hsame : game.SameBut i game') (hview : game.ViewedWithout i) (settings : PlateSettings) :
    (∀ slot : Fin slotCount, slot ≠ i → ∀ position alpha force,
      game'.plateData settings slot position alpha force =
        game.plateData settings slot position alpha force) ∧
    ∀ start steps session, ({ canvas := start } : Session).run steps = .ok session →
      session.canvas.failShaping = false → ∀ count count' last last',
      session.plates.draw game settings session.canvas = .ok (count, last) →
      session.plates.draw game' settings session.canvas = .ok (count', last') →
      let state := (session.plates, session.canvas)
      (∃ shown, Plates.FrameRenders game settings state shown last) ∧
      (∃ shown', Plates.FrameRenders game' settings state shown' last') ∧
      ∀ shown shown', Plates.FrameRenders game settings state shown last →
        Plates.FrameRenders game' settings state shown' last' →
        (Rendering.elsewhere i shown).map Rendering.seen =
          (Rendering.elsewhere i shown').map Rendering.seen := by
  refine ⟨fun slot hslot position alpha force => ?_, ?_⟩
  · exact hsame.plateData_eq hview (Fin.val_ne_of_ne hslot) settings position alpha force
  · intro start steps session hrun hworks count count' last last' hframe hframe' state
    obtain ⟨rest, howns⟩ := exists_owns start
    obtain ⟨hsettled, hholds⟩ := settled_run_on howns hrun
    have hsettled : state.1.anonymous.Settled := hsettled
    exact ⟨Plates.exists_frameRenders hsettled hholds hframe,
      Plates.exists_frameRenders hsettled hholds hframe',
      fun shown shown' hshown hshown' =>
        hshown.seen_elsewhere_eq hsame hview hsettled hholds hworks hshown'⟩

/-- A slot that is drawn before the one of the only player in a duel. -/
def visitorSlot : Fin slotCount :=
  ⟨2, by decide⟩

/-- The duel with a visitor, who is drawn first. -/
def visited : Game :=
  { duel with
    slots := duel.slots.set visitorSlot
      { info := some {}, client := { name := "bob" }, character := { active := true } }
      visitorSlot.isLt }

theorem slots_do_not_influence_each_other_of_visited :
    ∃ session last last' shown shown', ({} : Session).run troubled = .ok session ∧
      session.plates.draw duel { showOwn := true } session.canvas = .ok (1, last) ∧
      session.plates.draw visited { showOwn := true } session.canvas = .ok (2, last') ∧
      Plates.FrameRenders duel { showOwn := true } (session.plates, session.canvas) shown last ∧
      Plates.FrameRenders visited { showOwn := true } (session.plates, session.canvas) shown'
        last' ∧
      (Rendering.elsewhere visitorSlot shown).map Rendering.seen =
        (Rendering.elsewhere visitorSlot shown').map Rendering.seen := by
  obtain ⟨session, hrun, hworks, hscreen, -⟩ := run_troubled
  have hsame : duel.SameBut visitorSlot visited := by
    refine ⟨rfl, fun slot hslot => ?_⟩
    exact (get_set duel.slots visitorSlot slot _).trans (if_neg hslot.symm)
  have hview : duel.ViewedWithout visitorSlot := ⟨by decide, by decide⟩
  have hdraw (game : Game) (count : Nat)
      (hcount : (Plates.frameCommands game { showOwn := true } ⟨-50, -50, 50, 50⟩).toOption.any
        (·.length == count) = true) :
      ∃ last, session.plates.draw game { showOwn := true } session.canvas = .ok (count, last) := by
    have hframe := Plates.draw_eq session.plates game { showOwn := true } session.canvas
    have hstart : Canvas.screen session.canvas = ⟨-50, -50, 50, 50⟩ := hscreen
    rw [hstart] at hframe
    cases hcommands : Plates.frameCommands game { showOwn := true } ⟨-50, -50, 50, 50⟩ with
    | error missing => simp [hcommands, Except.toOption] at hcount
    | ok commands =>
        obtain rfl : commands.length = count := by simpa [hcommands, Except.toOption] using hcount
        rw [hcommands] at hframe
        exact ⟨_, hframe⟩
  obtain ⟨last, hframe⟩ := hdraw duel 1 (by decide +kernel)
  obtain ⟨last', hframe'⟩ := hdraw visited 2 (by decide +kernel)
  obtain ⟨⟨shown, hshown⟩, ⟨shown', hshown'⟩, hseen⟩ :=
    (slots_do_not_influence_each_other hsame hview { showOwn := true }).2 _ _ _ hrun hworks _ _ _ _
      hframe hframe'
  exact ⟨session, last, last', shown, shown', hrun, hframe, hframe', hshown, hshown',
    hseen shown shown' hshown hshown'⟩

end Session
end Overhead
