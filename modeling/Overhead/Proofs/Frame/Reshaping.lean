import Overhead.Proofs.Frame.History
import Overhead.Proofs.Frame.Sights
import Overhead.Proofs.Plate.Content
import Overhead.Proofs.Plate.Fresh

/-!
# What a frame shapes

Whether a player's plate is drawn at the player or at its body, it is asked for the same texts in the
same sizes. So within a frame, and from one frame to the next, only the first plate of a slot may
shape texts, and each of its parts at most one.
-/

namespace Overhead

open Recording

/-! ## The texts of a slot -/

namespace Game

/-- What the plate of a slot is asked to show, wherever it is drawn. -/
def slotData (game : Game) (settings : PlateSettings) (slot : Fin slotCount) : PlateData :=
  let player := game.slots.get slot
  game.hookPart settings slot player (game.namePart settings slot player Point.zero 1)

theorem alike_of_plateData {game : Game} {settings : PlateSettings} {slot : Fin slotCount}
    {position : Point} {alpha : Float32} {force : Bool} {data : PlateData}
    (h : game.plateData settings slot position alpha force = .ok data) :
    data.Alike (game.slotData settings slot) := by
  obtain ⟨opacity, -, rfl⟩ := exists_opacity_of_plateData h
  unfold arrowPart
  split
  · exact PlateData.alike_restyled (game.slotData settings slot) _ _ _ _ _ _ _
  · exact PlateData.alike_restyled (game.slotData settings slot) _ _ _ _ _ _ _

theorem spells_slotData {game : Game} (settings : PlateSettings) {slot : Fin slotCount}
    (hname : (game.slots.get slot).client.name ≠ "")
    (hclan : (game.slots.get slot).client.clan ≠ "") :
    (game.slotData settings slot).Spells := by
  have hsized : (game.slotData settings slot).Sized := by
    obtain ⟨hname, hclientId, hclan, hhook⟩ := PlateData.sized_settings settings
    exact ⟨hname, hclientId, hclan, hhook⟩
  intro content want hwant
  refine ⟨?_, hsized.wanted hwant⟩
  rw [← Bool.not_eq_true, String.isEmpty_iff]
  cases content with
  | arrow | friendMark | hookIcon | lineBreak => cases hwant
  | clientId ownLine cached =>
      simp only [PartContent.wanted?, Option.ite_none_right_eq_some, Option.some.injEq] at hwant
      obtain ⟨-, rfl⟩ := hwant
      have hslot : slot.val < slotCount := slot.isLt
      exact Part.clientIdText_ne_empty (Nat.lt_trans hslot (by decide)) ownLine
  | name cached =>
      simp only [PartContent.wanted?, Option.ite_none_right_eq_some, Option.some.injEq] at hwant
      obtain ⟨-, rfl⟩ := hwant
      exact hname
  | clan cached =>
      simp only [PartContent.wanted?, Option.ite_none_right_eq_some, Option.some.injEq] at hwant
      obtain ⟨-, rfl⟩ := hwant
      exact hclan
  | hookId cached =>
      simp only [PartContent.wanted?, Option.ite_none_right_eq_some, Option.some.injEq] at hwant
      obtain ⟨-, rfl⟩ := hwant
      exact Part.hookIdText_ne_empty _

end Game

/-- Only players with an info are drawn. -/
theorem Sighting.info_of_mem_all {game : Game} {settings : PlateSettings} {screen : Area Float32}
    {sighting : Sighting} (h : sighting ∈ Sighting.all game settings screen) :
    (game.slots.get sighting.slot).info.isSome := by
  cases hgame : game.isRunning with
  | false => simp [Sighting.all, hgame] at h
  | true =>
      cases hsettings : settings.isDisabled with
      | true => simp [Sighting.all, hsettings] at h
      | false =>
          rw [← Sight.map_sighting_all hgame hsettings] at h
          obtain ⟨sight, hsight, rfl⟩ := List.mem_map.mp h
          exact (Sight.mem_all.mp hsight).1

namespace Plates

/-! ## Commands that repeat themselves -/

/-- The command asks the plate of its slot for given texts, which can be shaped. -/
def Command.AsksFor (command : Command) (wanted : Fin slotCount → PlateData) : Prop :=
  ∃ data, command.order = .render data ∧ data.Alike (wanted command.slot) ∧
    (wanted command.slot).Spells

theorem asksFor_of_frameCommands {game : Game} {settings : PlateSettings} {screen : Area Float32}
    {commands : List Command} (h : frameCommands game settings screen = .ok commands)
    (hspelled : ∀ slot : Fin slotCount, (game.slots.get slot).info.isSome →
      (game.slots.get slot).client.name ≠ "" ∧ (game.slots.get slot).client.clan ≠ "") :
    ∀ command ∈ commands, command.AsksFor (game.slotData settings) := by
  intro command hcommand
  obtain ⟨sighting, hsighting, hdraws⟩ := (results_of_mapM h).2 command hcommand
  have hinfo := Sighting.info_of_mem_all hsighting
  unfold drawCommand at hdraws
  cases hdata : sighting.data game settings with
  | error missing => simp [hdata, Except.map] at hdraws
  | ok data =>
      rw [hdata] at hdraws
      obtain rfl := Except.ok.inj hdraws
      obtain ⟨hname, hclan⟩ := hspelled sighting.slot hinfo
      exact ⟨data, rfl, Game.alike_of_plateData hdata, Game.spells_slotData settings hname hclan⟩

/-- The plate of a slot has the texts that are wanted. -/
def FreshAt (plates : Plates) (wanted : Fin slotCount → PlateData) (slot : Fin slotCount) : Prop :=
  (plates.slots.get slot).Fresh (wanted slot)

section

variable {σ : Type} [Canvas σ]

theorem get_obey (state : Plates × σ) (command : Command) (slot : Fin slotCount) :
    (obey state command).1.slots.get slot =
      if command.slot = slot then
        ((state.1.slots.get slot).obey command.order state.2).1
      else state.1.slots.get slot := by
  simp only [obey, get_set]
  split
  · next hslot => rw [hslot]
  · rfl

/-- The slots and places of the parts that shape a text while commands are carried out, named once
for every call. -/
def shapedBy : List Command → Plates × σ → List (Fin slotCount × Nat)
  | [], _ => []
  | command :: commands, state =>
      ((state.1.slots.get command.slot).shaped command.order state.2).map (command.slot, ·) ++
        shapedBy commands (obey state command)

end

section

variable {plates : Plates} {rest : List CachedText} {canvas : Recording}
  {wanted : Fin slotCount → PlateData} {command : Command}

/-- A command leaves the plate of its slot with the texts that it asked for. -/
theorem freshAt_obey (h : Owns (plates.texts ++ rest) canvas) (hworks : canvas.failShaping = false)
    (hasks : command.AsksFor wanted) :
    (obey (plates, canvas) command).1.FreshAt wanted command.slot := by
  obtain ⟨data, horder, halike, hspells⟩ := hasks
  obtain ⟨hplates, -⟩ := obey_yields h command
  have hplate := congrArg (fun plates => plates.slots.get command.slot) hplates
  simp only [get_anonymous, get_obeyed, if_pos, horder, hworks] at hplate
  apply Plate.Fresh.congr _ halike
  rw [← Plate.fresh_anonymous, hplate]
  exact Plate.fresh_updated _ (hspells.congr halike)

theorem freshAt_obey_of_freshAt (h : Owns (plates.texts ++ rest) canvas)
    (hworks : canvas.failShaping = false) (hasks : command.AsksFor wanted) {slot : Fin slotCount}
    (hfresh : plates.FreshAt wanted slot) :
    (obey (plates, canvas) command).1.FreshAt wanted slot := by
  by_cases hslot : command.slot = slot
  · subst hslot
    exact freshAt_obey h hworks hasks
  · unfold FreshAt
    rw [get_obey, if_neg hslot]
    exact hfresh

/-- Afterwards every plate has its texts that had them before or was given a command. -/
theorem freshAt_carryOut (h : Owns (plates.texts ++ rest) canvas)
    (hworks : canvas.failShaping = false) {commands : List Command}
    (hasks : ∀ command ∈ commands, command.AsksFor wanted) {slot : Fin slotCount}
    (hslot : plates.FreshAt wanted slot ∨ ∃ command ∈ commands, command.slot = slot) :
    (carryOut commands (plates, canvas)).1.FreshAt wanted slot := by
  induction commands generalizing plates canvas with
  | nil =>
      rcases hslot with hfresh | ⟨command, hcommand, -⟩
      · exact hfresh
      · cases hcommand
  | cons command commands ih =>
      obtain ⟨hfirst, hrest⟩ := List.forall_mem_cons.mp hasks
      apply ih (obey_yields h command).2.owns ((failShaping_obey h command).trans hworks)
      · exact hrest
      · rcases hslot with hfresh | ⟨later, hlater, hslot⟩
        · exact .inl (freshAt_obey_of_freshAt h hworks hfirst hfresh)
        · rcases List.mem_cons.mp hlater with rfl | hlater
          · left
            rw [← hslot]
            exact freshAt_obey h hworks hfirst
          · exact .inr ⟨later, hlater, hslot⟩

/-! ## At most one shaping for every part -/

theorem shaped_of_asksFor (plate : Plate) (canvas : Recording) (hasks : command.AsksFor wanted) :
    ∃ data, data.Alike (wanted command.slot) ∧
      plate.shaped command.order canvas = Plate.reshaped data plate.partsOrTemplate 0 := by
  obtain ⟨data, horder, halike, -⟩ := hasks
  refine ⟨data, halike, ?_⟩
  rw [horder]
  exact Plate.shapedFrom_eq data _ _ _

theorem shaped_of_fresh {plate : Plate} (hasks : command.AsksFor wanted)
    (hfresh : plate.Fresh (wanted command.slot)) : plate.shaped command.order canvas = [] := by
  obtain ⟨data, halike, hshaped⟩ := shaped_of_asksFor plate canvas hasks
  rw [hshaped]
  exact (hfresh.congr halike.symm).reshaped_eq_nil

/-- A plate that has its texts shapes none. -/
theorem not_mem_shapedBy (h : Owns (plates.texts ++ rest) canvas)
    (hworks : canvas.failShaping = false) {commands : List Command}
    (hasks : ∀ command ∈ commands, command.AsksFor wanted) {slot : Fin slotCount}
    (hfresh : plates.FreshAt wanted slot) (place : Nat) :
    (slot, place) ∉ shapedBy commands (plates, canvas) := by
  induction commands generalizing plates canvas with
  | nil => exact List.not_mem_nil
  | cons command commands ih =>
      obtain ⟨hfirst, hrest⟩ := List.forall_mem_cons.mp hasks
      have hlater := ih (obey_yields h command).2.owns ((failShaping_obey h command).trans hworks)
        hrest (freshAt_obey_of_freshAt h hworks hfirst hfresh)
      intro hmem
      rcases List.mem_append.mp hmem with hnow | hthen
      · obtain ⟨place', hplace', heq⟩ := List.mem_map.mp hnow
        obtain ⟨rfl, -⟩ := Prod.mk.inj heq
        have hnone : (plates.slots.get command.slot).shaped command.order canvas = [] :=
          shaped_of_fresh hfirst hfresh
        rw [hnone] at hplace'
        cases hplace'
      · exact hlater hthen

theorem nodup_shapedBy (h : Owns (plates.texts ++ rest) canvas)
    (hworks : canvas.failShaping = false) {commands : List Command}
    (hasks : ∀ command ∈ commands, command.AsksFor wanted) :
    (shapedBy commands (plates, canvas)).Nodup := by
  induction commands generalizing plates canvas with
  | nil => exact List.nodup_nil
  | cons command commands ih =>
      obtain ⟨hfirst, hrest⟩ := List.forall_mem_cons.mp hasks
      have howns := (obey_yields h command).2.owns
      have hworks' := (failShaping_obey h command).trans hworks
      obtain ⟨data, -, hshaped⟩ :=
        shaped_of_asksFor (plates.slots.get command.slot) canvas hfirst
      rw [shapedBy, List.nodup_append]
      refine ⟨?_, ih howns hworks' hrest, ?_⟩
      · rw [hshaped]
        exact (Plate.nodup_reshaped _ _ _).map fun a b heq => (Prod.mk.inj heq).2
      · -- From now on the plate of this slot has its texts.
        rintro ⟨slot, place⟩ hnow ⟨slot', place'⟩ hlater heq
        obtain ⟨own, -, hown⟩ := List.mem_map.mp hnow
        obtain ⟨rfl, -⟩ := Prod.mk.inj hown
        obtain ⟨rfl, -⟩ := Prod.mk.inj heq
        exact not_mem_shapedBy howns hworks' hrest (freshAt_obey h hworks hfirst) place' hlater

end

/-! ## Counted calls -/

section

variable {σ : Type} [Canvas σ] {wanted : Fin slotCount → PlateData}

theorem shapings_carryOut (plates : Plates) (counted : Counted σ) {commands : List Command}
    (hasks : ∀ command ∈ commands, command.AsksFor wanted) :
    (carryOut commands (plates, counted)).2.shapings =
      counted.shapings + (shapedBy commands (plates, counted.canvas)).length := by
  induction commands generalizing plates counted with
  | nil => rfl
  | cons command commands ih =>
      obtain ⟨⟨data, horder, -, -⟩, hlater⟩ := List.forall_mem_cons.mp hasks
      have hrest := ih (obey (plates, counted) command).1 (obey (plates, counted) command).2 hlater
      have hfirst : (obey (plates, counted) command).2.shapings = counted.shapings +
          ((plates.slots.get command.slot).shaped command.order counted.canvas).length := by
        rw [horder, ← Plate.shapings_render]
        show (((plates.slots.get command.slot).obey command.order counted).2).shapings = _
        rw [horder]
        rfl
      rw [shapedBy, List.length_append, List.length_map, Counted.obey_forget, ← Nat.add_assoc,
        ← hfirst]
      exact hrest

/-- Plates that have their texts are drawn without a call. -/
theorem uncounted_carryOut {plates : Plates} {commands : List Command}
    (hasks : ∀ command ∈ commands, command.AsksFor wanted)
    (hfresh : ∀ command ∈ commands, plates.FreshAt wanted command.slot) (counted : Counted σ) :
    Counted.Uncounted counted (carryOut commands (plates, counted)).2 := by
  induction commands generalizing plates counted with
  | nil => exact ⟨rfl, rfl⟩
  | cons command commands ih =>
      obtain ⟨⟨data, horder, halike, -⟩, hrest⟩ := List.forall_mem_cons.mp hasks
      obtain ⟨hplate, hfresh⟩ := List.forall_mem_cons.mp hfresh
      obtain ⟨hkept, huncounted⟩ := (hplate.congr halike.symm).render counted
      have hobeyed : (plates.slots.get command.slot).obey command.order counted =
          (plates.slots.get command.slot).render data counted := by
        rw [horder]
        rfl
      have hfirst : Counted.Uncounted counted (obey (plates, counted) command).2 := by
        show Counted.Uncounted counted
          ((plates.slots.get command.slot).obey command.order counted).2
        rw [hobeyed]
        exact huncounted
      have hfresh' : ∀ later ∈ commands,
          (obey (plates, counted) command).1.FreshAt wanted later.slot := by
        intro later hlater
        unfold FreshAt
        rw [get_obey]
        split
        · next hslot =>
            rw [← hslot, hobeyed]
            exact hkept.congr halike
        · exact hfresh later hlater
      exact hfirst.trans (ih hrest hfresh' _)

end

end Plates

/-! ## Frames -/

/-- A frame on a counting canvas is the same frame, with counts. -/
theorem Plates.draw_counted {plates later : Plates} {game : Game} {settings : PlateSettings}
    {canvas canvas' : Recording} {commands : List Plates.Command}
    (hcommands : frameCommands game settings (Canvas.screen canvas) = .ok commands)
    (hlater : carryOut commands (plates, canvas) = (later, canvas')) :
    ∃ counted : Counted Recording,
      counted = (carryOut commands (plates, ({ canvas := canvas } : Counted Recording))).2 ∧
      counted.canvas = canvas' ∧
      plates.draw game settings ({ canvas := canvas } : Counted Recording) =
        .ok (commands.length, later, counted) := by
  let start : Counted Recording := { canvas := canvas }
  have hforget := Counted.carryOut_forget plates start commands
  have hboth : (later, canvas') = Prod.map id Counted.canvas (carryOut commands (plates, start)) :=
    hlater.symm.trans hforget
  obtain ⟨hplates, hcanvas⟩ := Prod.mk.inj hboth
  refine ⟨(carryOut commands (plates, start)).2, rfl, hcanvas.symm, ?_⟩
  refine draw_eq_ok.mpr ⟨commands, hcommands, ?_⟩
  rw [hplates]
  rfl

namespace Session

section

variable {session next : Session} {commands : List Plates.Command} {game : Game}
  {settings : PlateSettings} {wanted : Fin slotCount → PlateData}

/-- A frame on counting canvas shapes what its commands need. -/
theorem draw_counted_shapings (hasks : ∀ command ∈ commands, command.AsksFor wanted)
    (hcommands : Plates.frameCommands game settings session.canvas.screen = .ok commands)
    (hnext : Plates.carryOut commands (session.plates, session.canvas) =
      (next.plates, next.canvas)) :
    ∃ releases,
      session.plates.draw game settings ({ canvas := session.canvas } : Counted Recording) =
        .ok (commands.length, next.plates,
          { canvas := next.canvas
            shapings := (Plates.shapedBy commands (session.plates, session.canvas)).length
            releases := releases }) := by
  obtain ⟨counted, hcounted, hcanvas, hdraw⟩ := Plates.draw_counted hcommands hnext
  have hshapings := Plates.shapings_carryOut session.plates
    ({ canvas := session.canvas } : Counted Recording) hasks
  rw [← hcounted, Nat.zero_add] at hshapings
  exact ⟨counted.releases, by rw [hdraw, ← hcanvas, ← hshapings]⟩

/-- A frame with plates that have their texts is drawn without a call. -/
theorem draw_uncounted (hasks : ∀ command ∈ commands, command.AsksFor wanted)
    (hfresh : ∀ command ∈ commands, session.plates.FreshAt wanted command.slot)
    (hcommands : Plates.frameCommands game settings session.canvas.screen = .ok commands)
    (hnext : Plates.carryOut commands (session.plates, session.canvas) =
      (next.plates, next.canvas)) :
    session.plates.draw game settings ({ canvas := session.canvas } : Counted Recording) =
      .ok (commands.length, next.plates,
        { canvas := next.canvas, shapings := 0, releases := 0 }) := by
  obtain ⟨counted, hcounted, hcanvas, hdraw⟩ := Plates.draw_counted hcommands hnext
  obtain ⟨hshapings, hreleases⟩ := Plates.uncounted_carryOut hasks hfresh
    ({ canvas := session.canvas } : Counted Recording)
  rw [← hcounted] at hshapings hreleases
  obtain ⟨drawn, shapings, releases⟩ := counted
  obtain rfl : shapings = 0 := hshapings
  obtain rfl : releases = 0 := hreleases
  obtain rfl : drawn = next.canvas := hcanvas
  exact hdraw

/-- The same commands once more draw the same picture. -/
theorem pictures_of_again {later : Session} (hsettled : session.view.plates.Settled)
    (hholds : session.Holds []) (hworks : session.canvas.failShaping = false)
    (hdraws : ∀ command ∈ commands, command.Draws)
    (hnext : Plates.carryOut commands (session.plates, session.canvas) =
      (next.plates, next.canvas))
    (hlater : Plates.carryOut commands (next.plates, next.canvas) = (later.plates, later.canvas)) :
    next.canvas.setting = session.canvas.setting ∧
    ∃ texts sprites,
      next.canvas.texts.toList = session.canvas.texts.toList ++ texts ∧
      later.canvas.texts.toList = next.canvas.texts.toList ++ texts ∧
      next.canvas.sprites.toList = session.canvas.sprites.toList ++ sprites ∧
      later.canvas.sprites.toList = next.canvas.sprites.toList ++ sprites := by
  have htold := carryOut_told hholds none commands
  rw [hnext] at htold
  have htold' := carryOut_told htold.holds none commands
  dsimp only at htold'
  rw [hlater] at htold'
  have hview : next.view = (session.view.carryOut none commands).next := htold.view
  have hsetting : next.canvas.setting = session.canvas.setting := congrArg View.setting hview
  have hsettled' : next.view.plates.Settled := by
    rw [hview]
    exact hsettled.carriedOut _ _
  have hview_works : session.view.setting.failShaping = false := hworks
  have hview_works' : next.view.setting.failShaping = false :=
    (congrArg Setting.failShaping hsetting).trans hworks
  have hpicture := Plates.picture_asks hsettled hsettled' hdraws hview_works hview_works'
  obtain ⟨htexts, hsprites⟩ := Prod.mk.inj hpicture
  refine ⟨hsetting, _, _, congrArg Record.texts htold.record, ?_,
    congrArg Record.sprites htold.record, ?_⟩
  · exact (congrArg Record.texts htold'.record).trans (congrArg (_ ++ ·) htexts.symm)
  · exact (congrArg Record.sprites htold'.record).trans (congrArg (_ ++ ·) hsprites.symm)

end

/-- However a session came about, while shaping works a frame with names and clans shapes every part
of every plate at most once, also of a plate that is drawn twice. The same frame once more shapes
nothing and gives nothing back, and adds the same texts and sprites to the canvas again. -/
theorem frames_shape_every_part_once {steps : List Step} {session : Session}
    (hrun : ({} : Session).run steps = .ok session) (hworks : session.canvas.failShaping = false)
    {game : Game} {settings : PlateSettings}
    (hspelled : ∀ slot : Fin slotCount, (game.slots.get slot).info.isSome →
      (game.slots.get slot).client.name ≠ "" ∧ (game.slots.get slot).client.clan ≠ "")
    {count : Nat} {plates : Plates} {canvas : Recording}
    (hdraw : session.plates.draw game settings session.canvas = .ok (count, plates, canvas)) :
    (∃ commands releases,
      Plates.frameCommands game settings session.canvas.screen = .ok commands ∧
      let shaped := Plates.shapedBy commands (session.plates, session.canvas)
      shaped.Nodup ∧
      session.plates.draw game settings ({ canvas := session.canvas } : Counted Recording) =
        .ok (count, plates,
          { canvas := canvas, shapings := shaped.length, releases := releases })) ∧
    ∃ plates' canvas' texts sprites,
      plates.draw game settings canvas = .ok (count, plates', canvas') ∧
      plates.draw game settings ({ canvas := canvas } : Counted Recording) =
        .ok (count, plates', { canvas := canvas', shapings := 0, releases := 0 }) ∧
      canvas.texts.toList = session.canvas.texts.toList ++ texts ∧
      canvas'.texts.toList = canvas.texts.toList ++ texts ∧
      canvas.sprites.toList = session.canvas.sprites.toList ++ sprites ∧
      canvas'.sprites.toList = canvas.sprites.toList ++ sprites := by
  obtain ⟨hsettled, hholds⟩ := settled_run hrun
  obtain ⟨commands, hcommands, hdrawn⟩ := Plates.draw_eq_ok.mp hdraw
  obtain ⟨rfl, hcarried⟩ := Prod.mk.inj hdrawn
  have hasks := Plates.asksFor_of_frameCommands hcommands hspelled
  have hdraws := Plates.draws_of_frameCommands hcommands
  let next : Session := { plates := plates, canvas := canvas }
  have hnext : Plates.carryOut commands (session.plates, session.canvas) =
      (next.plates, next.canvas) := hcarried.symm
  obtain ⟨plates', canvas', hagain⟩ :
      ∃ plates' canvas', Plates.carryOut commands (plates, canvas) = (plates', canvas') :=
    ⟨_, _, rfl⟩
  let later : Session := { plates := plates', canvas := canvas' }
  have hlater : Plates.carryOut commands (next.plates, next.canvas) =
      (later.plates, later.canvas) := hagain
  obtain ⟨hsetting, texts, sprites, hpictures⟩ :=
    pictures_of_again hsettled hholds hworks hdraws hnext hlater
  constructor
  · obtain ⟨releases, hcounted⟩ := draw_counted_shapings hasks hcommands hnext
    exact ⟨commands, releases, hcommands, Plates.nodup_shapedBy hholds hworks hasks, hcounted⟩
  · have hfresh : ∀ command ∈ commands,
        next.plates.FreshAt (game.slotData settings) command.slot := by
      intro command hcommand
      have hafter := Plates.freshAt_carryOut hholds hworks hasks (.inr ⟨command, hcommand, rfl⟩)
      rw [hnext] at hafter
      exact hafter
    have hcommands' : Plates.frameCommands game settings next.canvas.screen = .ok commands := by
      have hscreen : next.canvas.screen = session.canvas.screen := congrArg Setting.screen hsetting
      rw [hscreen]
      exact hcommands
    refine ⟨plates', canvas', texts, sprites, ?_, ?_, hpictures⟩
    · exact Plates.draw_eq_ok.mpr ⟨commands, hcommands', by rw [hagain]⟩
    · exact draw_uncounted hasks hfresh hcommands' hlater

/-- One player that looks around, with its body and itself on the screen. -/
def wanderer : Game :=
  { duel with
    slots := duel.slots.set 3
      { info := some {}
        client :=
          { name := "ada", clan := "duo", position := ⟨10, 0⟩, spectatorBody := some ⟨-10, 0⟩ }
        character := { active := true } }
      three_lt_slotCount }

/-- The id is new and the name has another size. Both plates show them, and the clan as it was. -/
theorem frames_shape_every_part_once_of_wanderer :
    let settings : PlateSettings := { showOwn := true, showClan := true, showIds := true }
    ∃ session plates canvas releases plates' canvas' texts,
      ({} : Session).run troubled = .ok session ∧
        session.plates.draw wanderer settings ({ canvas := session.canvas } : Counted Recording) =
          .ok (2, plates, { canvas := canvas, shapings := 2, releases := releases }) ∧
        plates.draw wanderer settings ({ canvas := canvas } : Counted Recording) =
          .ok (2, plates', { canvas := canvas', shapings := 0, releases := 0 }) ∧
        canvas.texts.toList = session.canvas.texts.toList ++ texts ∧
        canvas'.texts.toList = canvas.texts.toList ++ texts := by
  intro settings
  obtain ⟨session, hrun, hworks, -, -⟩ := run_troubled
  have hspelled : ∀ slot : Fin slotCount, (wanderer.slots.get slot).info.isSome →
      (wanderer.slots.get slot).client.name ≠ "" ∧ (wanderer.slots.get slot).client.clan ≠ "" := by
    decide +kernel
  have hchecked : (({} : Session).run troubled).toOption.any (fun session =>
      (session.plates.draw wanderer settings session.canvas).toOption.any (·.1 == 2) &&
        (session.plates.draw wanderer settings
          ({ canvas := session.canvas } : Counted Recording)).toOption.any
            (·.2.2.shapings == 2)) = true := by
    decide +kernel
  simp only [hrun, Except.toOption, Option.any_some, Bool.and_eq_true] at hchecked
  obtain ⟨hcount, hshapings⟩ := hchecked
  cases hdraw : session.plates.draw wanderer settings session.canvas with
  | error missing => simp [hdraw] at hcount
  | ok drawn =>
      obtain ⟨count, plates, canvas⟩ := drawn
      obtain rfl : count = 2 := by simpa [hdraw] using hcount
      obtain ⟨⟨commands, releases, -, -, hcounted⟩, plates', canvas', texts, -, -, hagain, htexts,
        htexts', -⟩ := frames_shape_every_part_once hrun hworks hspelled hdraw
      rw [hcounted] at hshapings
      have hlength : (Plates.shapedBy commands (session.plates, session.canvas)).length = 2 := by
        simpa using hshapings
      rw [hlength] at hcounted
      exact ⟨session, plates, canvas, releases, plates', canvas', texts, hrun, hcounted, hagain,
        htexts, htexts'⟩

end Session
end Overhead
