import Overhead.Rainbow

/-!
# The effect is always current

A frame gives every player anew the color that it should have, and this color is the one that the
state remembers. So whatever happens to the game or the settings, no color outlives the frame that
it was meant for.
-/

namespace Overhead

namespace RainbowSettings

variable {settings : RainbowSettings}

theorem mode_ne_off (h : settings.isEnabled = true) : settings.mode ≠ .off := by
  unfold isEnabled at h
  exact bne_iff_ne.mp (Bool.and_eq_true_iff.mp h).1

end RainbowSettings

namespace Game

theorem get_applyEffect (game : Game) (settings : RainbowSettings) (color : Option Color)
    (slot : Fin slotCount) :
    let player := game.slots.get slot
    (game.applyEffect settings color).slots.get slot =
      { player with
        client := { player.client with
          effectColor := game.effectOn settings color slot player } } :=
  Vector.getElem_mapIdx slot.isLt

/-- Where there is a color just while the effect is on, it need not be asked for whether it is. -/
theorem effectOn_eq (game : Game) {settings : RainbowSettings} {color : Option Color}
    (h : color.isSome = settings.isEnabled) (id : Nat) (player : Slot) :
    game.effectOn settings color id player =
      if settings.isEnabled = true ∧ player.character.active = true ∧
          settings.appliesTo (game.localId == some id) = true then color
      else none := by
  cases color with
  | none => simp [effectOn]
  | some shade =>
      have henabled : settings.isEnabled = true := h.symm
      simp [effectOn, henabled]

end Game

namespace Rainbow

theorem isSome_shade? (rainbow : Rainbow) (mode : RainbowMode) :
    (rainbow.shade? mode).isSome = true ↔ mode ≠ .off := by
  cases mode <;> simp [shade?]

theorem take_of_shade? {rainbow : Rainbow} {mode : RainbowMode} {color : Color}
    (h : rainbow.shade? mode = some color) :
    rainbow.take mode = (some color, { rainbow with color := some color }) := by
  simp only [take, h]

section

variable {ρ : Type} [RandomSource ρ] (rainbow : Rainbow) {settings : RainbowSettings}
  (seconds : Float32) (source : ρ)

theorem frame_of_disabled (h : settings.isEnabled = false) :
    rainbow.frame settings seconds source = (none, { rainbow with color := none }, source) := by
  simp [frame, h]

/-- While the effect is on, the mode has a color, and that is the one of the frame. -/
theorem frame_of_enabled (h : settings.isEnabled = true) :
    ∃ color,
      let prepared := (rainbow.pass seconds settings.speed).prepare settings.mode source
      prepared.1.shade? settings.mode = some color ∧
      rainbow.frame settings seconds source =
        (some color, { prepared.1 with color := some color }, prepared.2) := by
  obtain ⟨color, hcolor⟩ := Option.isSome_iff_exists.mp
    ((isSome_shade? ((rainbow.pass seconds settings.speed).prepare settings.mode source).1
      settings.mode).mpr (settings.mode_ne_off h))
  refine ⟨color, hcolor, ?_⟩
  simp only [frame, if_pos h, take_of_shade? hcolor]

theorem color_frame (settings : RainbowSettings) :
    (rainbow.frame settings seconds source).2.1.color =
      (rainbow.frame settings seconds source).1 := by
  cases henabled : settings.isEnabled with
  | false => rw [frame_of_disabled rainbow seconds source henabled]
  | true =>
      obtain ⟨color, -, hframe⟩ := frame_of_enabled rainbow seconds source henabled
      rw [hframe]

theorem isSome_frame (settings : RainbowSettings) :
    (rainbow.frame settings seconds source).1.isSome = settings.isEnabled := by
  cases henabled : settings.isEnabled with
  | false => rw [frame_of_disabled rainbow seconds source henabled, Option.isSome_none]
  | true =>
      obtain ⟨color, -, hframe⟩ := frame_of_enabled rainbow seconds source henabled
      rw [hframe, Option.isSome_some]

end

/-! ## Runs -/

/-- A frame of a game with the effect: what happens to the game before it, and what it is given. -/
structure GameFrame (ρ : Type) where
  change : Game → Game
  settings : RainbowSettings
  seconds : Float32
  source : ρ

section

variable {ρ : Type} [RandomSource ρ]

def playFrame (state : Rainbow × Game) (frame : GameFrame ρ) : Rainbow × Game :=
  let (rainbow, game, _) :=
    state.1.frameIn (frame.change state.2) frame.settings frame.seconds frame.source
  (rainbow, game)

/-- The frames of a game, from an effect that was never on. -/
def playFrames (game : Game) (frames : List (GameFrame ρ)) : Rainbow × Game :=
  frames.foldl playFrame ({}, game)

theorem playFrames_concat (game : Game) (frames : List (GameFrame ρ)) (frame : GameFrame ρ) :
    playFrames game (frames ++ [frame]) = playFrame (playFrames game frames) frame := by
  simp [playFrames]

/-- After every frame the state remembers the color of the frame, which there is exactly while the
effect is on. Exactly the players in the world that the settings select have this color, no other
player has a color of the effect, and nothing else about the game is changed. -/
theorem effects_are_current (game : Game) (frames : List (GameFrame ρ)) (frame : GameFrame ρ) :
    let before := playFrames game frames
    let after := playFrames game (frames ++ [frame])
    let given := frame.change before.2
    let color := (before.1.frame frame.settings frame.seconds frame.source).1
    after.1.color = color ∧
    (color.isSome = true ↔ frame.settings.isEnabled = true) ∧
    (∀ slot : Fin slotCount,
      let player := given.slots.get slot
      let colored := frame.settings.isEnabled = true ∧ player.character.active = true ∧
        frame.settings.appliesTo (given.localId == some slot.val) = true
      after.2.slots.get slot =
        { player with
          client := { player.client with effectColor := if colored then color else none } }) ∧
    after.2 = { given with slots := after.2.slots } := by
  intro before after given color
  have hafter : after = playFrame before frame := playFrames_concat game frames frame
  have hrainbow : after.1 =
      (before.1.frame frame.settings frame.seconds frame.source).2.1 := by
    rw [hafter]
    rfl
  have hgame : after.2 = given.applyEffect frame.settings color := by
    rw [hafter]
    rfl
  have hsome : color.isSome = frame.settings.isEnabled :=
    isSome_frame before.1 frame.seconds frame.source frame.settings
  refine ⟨?_, by rw [hsome], fun slot => ?_, ?_⟩
  · rw [hrainbow]
    exact color_frame before.1 frame.seconds frame.source frame.settings
  · intro player colored
    rw [hgame, given.get_applyEffect, given.effectOn_eq hsome]
  · rw [hgame]
    rfl

end

end Rainbow
end Overhead
