import Overhead.Proofs.Frame.Commands
import Overhead.Proofs.Frame.Sights
import Overhead.Proofs.Game.Missing

/-!
# Frames that fail

A frame fails when some player that is near the screen has to be told from the viewpoint, and the
viewpoint is a player without a slot. Which player that is makes no difference: all of them fail for
the same id.
-/

namespace Overhead

theorem Sight.data_eq_error {game : Game} {settings : PlateSettings} {sight : Sight}
    {missing : MissingSlot} :
    sight.data game settings = .error missing ↔
      sight.place = .player ∧ game.Misses (game.slots.get sight.slot).client missing.id := by
  unfold Sight.data
  cases sight.place with
  | body =>
      obtain ⟨data, hdata⟩ := game.plateData_forced settings sight.slot sight.position
        Place.body.alpha
      rw [Place.forced, hdata]
      simp
  | player =>
      rw [Place.forced, Game.plateData_eq_error]
      simp

namespace Plates

section

variable {game : Game} {settings : PlateSettings} {screen : Area Float32} {missing : MissingSlot}

theorem drawCommand_eq_error {sight : Sight} :
    drawCommand game settings sight.sighting = .error missing ↔
      sight.data game settings = .error missing := by
  have hdata : sight.sighting.data game settings = sight.data game settings := rfl
  rw [drawCommand, hdata]
  cases sight.data game settings <;> simp [Except.map]

theorem frameCommands_eq_error (hgame : game.isRunning = true)
    (hsettings : settings.isDisabled = false) :
    frameCommands game settings screen = .error missing ↔
      ∃ sight : Sight, sight.Due game settings screen ∧
        sight.data game settings = .error missing := by
  rw [frameCommands, ← Sight.map_sighting_all hgame hsettings]
  constructor
  · intro h
    obtain ⟨sighting, hmem, hfails⟩ := exists_of_mapM_eq_error h
    obtain ⟨sight, hsight, rfl⟩ := List.mem_map.mp hmem
    exact ⟨sight, Sight.mem_all.mp hsight, drawCommand_eq_error.mp hfails⟩
  · rintro ⟨sight, hdue, hfails⟩
    have hmem := List.mem_map_of_mem (f := Sight.sighting) (Sight.mem_all.mpr hdue)
    cases hcommands : ((Sight.all game settings screen).map Sight.sighting).mapM
        (drawCommand game settings) with
    | ok commands =>
        obtain ⟨command, hcommand⟩ := exists_mapM_eq_ok.mp ⟨commands, hcommands⟩ _ hmem
        rw [drawCommand_eq_error.mpr hfails] at hcommand
        cases hcommand
    | error first =>
        -- The first plate that fails and the given one miss the same id.
        obtain ⟨sighting, hother, hfirst⟩ := exists_of_mapM_eq_error hcommands
        obtain ⟨other, -, rfl⟩ := List.mem_map.mp hother
        obtain ⟨-, hmisses⟩ := Sight.data_eq_error.mp hfails
        obtain ⟨-, hmisses'⟩ := Sight.data_eq_error.mp (drawCommand_eq_error.mp hfirst)
        have hsame : first = missing := congrArg MissingSlot.mk (hmisses'.unique hmisses)
        rw [hsame]

end

section

variable {σ : Type} [Canvas σ]

theorem draw_eq_error {plates : Plates} {game : Game} {settings : PlateSettings} {canvas : σ}
    {missing : MissingSlot} :
    plates.draw game settings canvas = .error missing ↔
      game.isRunning = true ∧ settings.isDisabled = false ∧
        ∃ slot : Fin slotCount,
          (game.slots.get slot).info.isSome ∧ (game.slots.get slot).character.active ∧
          ((Canvas.screen canvas).expand 400 0 400 800).contains
            (game.slots.get slot).client.position ∧
          game.Misses (game.slots.get slot).client missing.id := by
  have hdraw : plates.draw game settings canvas = .error missing ↔
      frameCommands game settings (Canvas.screen canvas) = .error missing := by
    rw [draw_eq]
    cases frameCommands game settings (Canvas.screen canvas) <;> simp [Except.map]
  rw [hdraw]
  by_cases hgame : game.isRunning = true
  · cases hsettings : settings.isDisabled with
    | true => simp [frameCommands, Sighting.all, hsettings, pure, Except.pure]
    | false =>
        rw [frameCommands_eq_error hgame hsettings]
        constructor
        · rintro ⟨sight, ⟨hinfo, hnear, hplace⟩, hfails⟩
          obtain ⟨hplayer, hmisses⟩ := Sight.data_eq_error.mp hfails
          rw [hplayer] at hplace
          obtain ⟨hactive, hposition⟩ := hplace
          rw [← hposition] at hnear
          exact ⟨hgame, rfl, sight.slot, hinfo, hactive, hnear, hmisses⟩
        · rintro ⟨-, -, slot, hinfo, hactive, hnear, hmisses⟩
          let sight : Sight :=
            { slot := slot, place := .player, position := (game.slots.get slot).client.position }
          exact ⟨sight, ⟨hinfo, hnear, hactive, rfl⟩, Sight.data_eq_error.mpr ⟨rfl, hmisses⟩⟩
  · simp [frameCommands, Sighting.all, hgame, pure, Except.pure]

/-- Whatever the ids of a game are, a frame fails exactly if it is not switched off and there is an
active player near the screen, while the local player has an id without a slot, or the watched one
has and the player near the screen is not in the super team. The error names this id. Plates at
bodies never fail, and neither the ids of the seats, nor which seat is active, nor the player that
hooks are compared with have a part in it. -/
theorem frames_fail_for_a_viewpoint_without_slot (plates : Plates) (game : Game)
    (settings : PlateSettings) (canvas : σ) :
    ((∃ missing, plates.draw game settings canvas = .error missing) ↔
      game.state ≠ .offline ∧ settings.isDisabled = false ∧
        ∃ slot : Fin slotCount, ∃ own,
          (game.slots.get slot).info.isSome ∧ (game.slots.get slot).character.active ∧
          ((Canvas.screen canvas).expand 400 0 400 800).contains
            (game.slots.get slot).client.position ∧
          game.localId = some own ∧
          (slotCount ≤ own ∨
            game.spectating.active ∧
              ∃ watched, game.spectating.id = some watched ∧ slotCount ≤ watched ∧
                (game.slots.get slot).client.team ≠ Client.superTeam)) ∧
    (∀ missing, plates.draw game settings canvas = .error missing →
      slotCount ≤ missing.id ∧
        (game.localId = some missing.id ∨ game.spectating.id = some missing.id)) ∧
    (∀ (slot : Fin slotCount) (position : Point) (alpha : Float32),
      ∃ data, game.plateData settings slot position alpha true = .ok data) ∧
    ∀ localIds activeDummy multiView missing,
      plates.draw
          { game with localIds := localIds, activeDummy := activeDummy, multiView := multiView }
          settings canvas = .error missing ↔
        plates.draw game settings canvas = .error missing := by
  have hrunning : game.isRunning = true ↔ game.state ≠ .offline := by
    cases hstate : game.state <;> simp [Game.isRunning, hstate]
  refine ⟨⟨?_, ?_⟩, ?_, ?_, ?_⟩
  · rintro ⟨missing, hfails⟩
    obtain ⟨hgame, hsettings, slot, hinfo, hactive, hnear, own, hlocal, hcase⟩ :=
      draw_eq_error.mp hfails
    refine ⟨hrunning.mp hgame, hsettings, slot, own, hinfo, hactive, hnear, hlocal, ?_⟩
    rcases hcase with ⟨hown, -⟩ | ⟨-, hmissing, hwatched, hsuper⟩
    · exact Or.inl hown
    · obtain ⟨hspectates, hid⟩ := Game.watchedId_eq_some.mp hwatched
      exact Or.inr ⟨hspectates, missing.id, hid, hmissing, by simpa [Client.isSuper] using hsuper⟩
  · rintro ⟨hstate, hsettings, slot, own, hinfo, hactive, hnear, hlocal, hcase⟩
    have hmisses : ∃ id, game.Misses (game.slots.get slot).client id := by
      by_cases hown : slotCount ≤ own
      · exact ⟨own, own, hlocal, Or.inl ⟨hown, rfl⟩⟩
      · obtain ⟨hspectates, watched, hid, hmissing, hteam⟩ := hcase.resolve_left hown
        have hwatched := Game.watchedId_eq_some.mpr ⟨hspectates, hid⟩
        have hsuper : (game.slots.get slot).client.isSuper = false := by
          simpa [Client.isSuper] using hteam
        exact ⟨watched, own, hlocal, Or.inr ⟨by omega, hmissing, hwatched, hsuper⟩⟩
    obtain ⟨id, hid⟩ := hmisses
    exact ⟨{ id := id },
      draw_eq_error.mpr ⟨hrunning.mpr hstate, hsettings, slot, hinfo, hactive, hnear, hid⟩⟩
  · intro missing hfails
    obtain ⟨-, -, slot, -, -, -, hmisses⟩ := draw_eq_error.mp hfails
    refine ⟨hmisses.not_lt, ?_⟩
    obtain ⟨own, hlocal, ⟨-, hown⟩ | ⟨-, -, hwatched, -⟩⟩ := hmisses
    · exact Or.inl (hown ▸ hlocal)
    · exact Or.inr (Game.watchedId_eq_some.mp hwatched).2
  · exact fun slot position alpha => game.plateData_forced settings slot position alpha
  · intro localIds activeDummy multiView missing
    rw [draw_eq_error, draw_eq_error]
    exact Iff.rfl

end

end Plates
end Overhead
