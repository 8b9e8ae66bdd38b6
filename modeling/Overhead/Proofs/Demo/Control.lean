import Overhead.Proofs.Demo.Rounds
import Overhead.Proofs.Game.Missing

/-!
# Who is controlled

The player of this machine and its dummy sit in the first two slots. Whichever of them is
controlled, both move as the keys stored for their seats say, so their arrows can be told from the
keys and from their characters alike.
-/

namespace Overhead

/-! ## The arrows of a plate -/

namespace Game

variable {game : Game} {settings : PlateSettings} {slot : Fin slotCount}

theorem exists_plateData (hlocal : ∀ own, game.localId = some own → own < slotCount)
    (hwatched : game.watchedId = none) (settings : PlateSettings) (slot : Fin slotCount)
    (position : Point) (alpha : Float32) (force : Bool) :
    ∃ data, game.plateData settings slot position alpha force = .ok data := by
  cases force with
  | true => exact plateData_forced game settings slot position alpha
  | false =>
      cases hdata : game.plateData settings slot position alpha false with
      | ok data => exact ⟨data, rfl⟩
      | error missing =>
          obtain ⟨own, hown, ⟨hhigh, -⟩ | ⟨-, -, hid, -⟩⟩ := plateData_eq_error.mp hdata
          · have hlow := hlocal own hown
            omega
          · rw [hwatched] at hid
            cases hid

theorem arrows_of_plateData {position : Point} {alpha : Float32} {force : Bool} {data : PlateData}
    (h : game.plateData settings slot position alpha force = .ok data) :
    let player := game.slots.get slot
    let shown := settings.direction.shows player.isLocal
    let headings := (game.keysOf slot player).headings
    data.dirLeft = (shown && headings.left) ∧ data.dirRight = (shown && headings.right) := by
  obtain ⟨opacity, -, rfl⟩ := exists_opacity_of_plateData h
  simp only [hookPart, arrowPart]
  split
  · next hshown => simp [hshown]
  · next hshown => simp [hshown, namePart, PlateSettings.plateData]

end Game

namespace Seat

def slot : Seat → Fin slotCount
  | .main => ⟨0, by decide⟩
  | .dummy => ⟨1, by decide⟩

theorem numbered_eq (seat : Seat) : numbered (if seat = .main then 0 else 1) = seat := by
  cases seat <;> rfl

theorem slot_val_lt {ρ : Type} (demo : Demo ρ) (seat : Seat) : seat.slot.val < demo.players := by
  have htwo := demo.two_le_players
  cases seat
  · show 0 < demo.players
    omega
  · show 1 < demo.players
    omega

end Seat

namespace Demo

variable {ρ : Type}

/-! ## The invariant -/

/-- Exactly one of the two players of this machine is controlled, and both go where the keys of
their seats point. -/
structure Controlled (state : Demo ρ × Game) : Prop where
  activeDummy : state.2.activeDummy = 0 ∨ state.2.activeDummy = 1
  seated : state.2.localIds = ⟨some 0, some 1⟩
  controls : state.2.localId = state.2.localIds.get state.2.activeSeat
  unwatched : state.2.spectating = {}
  infos : ∀ slot : Fin slotCount, (state.2.slots.get slot).info =
    if slot.val < state.1.players then some { isLocal := state.2.localId == some slot.val } else none
  present : ∀ seat : Seat, (state.2.slots.get seat.slot).character.active = true
  heeds : ∀ seat : Seat, (state.2.slots.get seat.slot).character.direction =
    (state.2.inputs.get seat).direction

namespace Controlled

variable {state : Demo ρ × Game}

theorem get_localIds (h : Controlled state) (seat : Seat) :
    state.2.localIds.get seat = some seat.slot.val := by
  rw [h.seated]
  cases seat <;> rfl

theorem get_partner_ne (h : Controlled state) (seat : Seat) :
    state.2.localIds.get seat.partner ≠ some seat.slot.val := by
  rw [h.seated]
  cases seat <;> decide

theorem localId_eq (h : Controlled state) :
    state.2.localId = some state.2.activeSeat.slot.val := by
  rw [h.controls, h.get_localIds]

theorem eq_slot (h : Controlled state) {seat : Seat} {slot : Fin slotCount}
    (hslot : state.2.localIds.get seat = some slot.val) : slot = seat.slot := by
  rw [h.get_localIds] at hslot
  exact Fin.ext (Option.some.inj hslot).symm

theorem activeDummy_eq (h : Controlled state) :
    state.2.activeDummy = if state.2.activeSeat = .main then 0 else 1 := by
  rcases h.activeDummy with hzero | hone
  · simp [Game.activeSeat, Seat.numbered, hzero]
  · simp [Game.activeSeat, Seat.numbered, hone]

theorem isLocal_iff (h : Controlled state) (slot : Fin slotCount) :
    (state.2.slots.get slot).isLocal = true ↔ state.2.localId = some slot.val := by
  unfold Slot.isLocal
  rw [h.infos]
  split
  · simp
  · next hout =>
      rw [h.localId_eq]
      have hlt := state.2.activeSeat.slot_val_lt state.1
      simp only [Option.any_none, Bool.false_eq_true, Option.some.injEq, false_iff]
      omega

/-! ### Kept by swaps -/

theorem swap (h : Controlled state) : Controlled (state.1, state.1.swapDummy state.2) := by
  obtain ⟨slots, hswap, hslots⟩ := swapDummy_eq state.1 state.2
  have hseat : Seat.numbered (if state.2.activeSeat.partner = .main then 0 else 1) =
      state.2.activeSeat.partner := Seat.numbered_eq _
  have hcharacter : ∀ slot, (slots.get slot).character = (state.2.slots.get slot).character := by
    intro slot
    rw [hslots]
    split <;> rfl
  rw [hswap]
  constructor
  · split
    · exact .inl rfl
    · exact .inr rfl
  · exact h.seated
  · show _ = state.2.localIds.get (Seat.numbered _)
    rw [hseat]
  · exact h.unwatched
  · intro slot
    have hinfo := h.infos slot
    show (slots.get slot).info = _
    rw [hslots slot]
    split
    · next hin =>
        rw [if_pos hin] at hinfo
        simp [Slot.marked, hinfo]
    · next hout => rw [hinfo, if_neg hout]
  · intro seat
    show (slots.get seat.slot).character.active = true
    rw [hcharacter]
    exact h.present seat
  · intro seat
    show (slots.get seat.slot).character.direction = _
    rw [hcharacter]
    exact h.heeds seat

/-- Control comes back, and nothing else has changed. -/
theorem swap_swap (h : Controlled state) :
    state.1.swapDummy (state.1.swapDummy state.2) = state.2 := by
  obtain ⟨slots, hswap, hslots⟩ := swapDummy_eq state.1 state.2
  obtain ⟨slots', hswap', hslots'⟩ := swapDummy_eq state.1 (state.1.swapDummy state.2)
  have hseat : (state.1.swapDummy state.2).activeSeat = state.2.activeSeat.partner := by
    rw [hswap]
    exact Seat.numbered_eq _
  have hids : (state.1.swapDummy state.2).localIds = state.2.localIds := by
    rw [hswap]
  rw [hseat, Seat.partner_partner, hids] at hswap' hslots'
  have hback : slots' = state.2.slots := by
    apply Vector.ext
    intro i hi
    have hslot := hslots' ⟨i, hi⟩
    have hinfo := h.infos ⟨i, hi⟩
    rw [hswap] at hslot
    simp only [hslots ⟨i, hi⟩] at hslot
    show slots'.get ⟨i, hi⟩ = state.2.slots.get ⟨i, hi⟩
    rw [hslot]
    split
    · next hin =>
        rw [if_pos hin, h.controls] at hinfo
        rw [Slot.marked_marked, Slot.marked_of_info hinfo]
    · rfl
  rw [hswap', hback, ← h.activeDummy_eq, ← h.controls, hswap]

section

variable [RandomSource ρ]

/-! ### Kept by rounds -/

theorem step (h : Controlled state) (seconds : Float32) (keys : Keys) :
    Controlled (state.1.step state.2 seconds keys) := by
  have hplayer := player_step keys seconds state
  obtain ⟨random, motions, nextTeamSwap, slots, hstep⟩ := step_frame keys seconds state
  rw [hstep] at hplayer ⊢
  constructor
  · exact h.activeDummy
  · exact h.seated
  · exact h.controls
  · exact h.unwatched
  · intro slot
    obtain ⟨team, hmoved, hrested⟩ := hplayer slot
    have hinfo : (slots.get slot).info = (state.2.slots.get slot).info := by
      by_cases hmoves : slot.val < state.1.players ∧
          (state.2.slots.get slot).character.active = true
      · obtain ⟨position, jumped, hslot⟩ := hmoved hmoves
        rw [hslot]
        rfl
      · rw [hrested hmoves]
        rfl
    exact hinfo.trans (h.infos slot)
  · intro seat
    obtain ⟨team, hmoved, -⟩ := hplayer seat.slot
    obtain ⟨position, jumped, hslot⟩ := hmoved ⟨seat.slot_val_lt state.1, h.present seat⟩
    show (slots.get seat.slot).character.active = true
    rw [hslot]
    exact h.present seat
  · intro seat
    obtain ⟨team, hmoved, -⟩ := hplayer seat.slot
    obtain ⟨position, jumped, hslot⟩ := hmoved ⟨seat.slot_val_lt state.1, h.present seat⟩
    show (slots.get seat.slot).character.direction = _
    rw [hslot, keys_nextTurn keys seconds state (h.get_localIds seat) (h.get_partner_ne seat)]
    rfl

theorem populate (config : DemoConfig) (random : ρ) :
    Controlled (Demo.new config random).populate := by
  obtain ⟨random', slots, hstart, hslots⟩ := populate_eq (Demo.new config random)
  generalize Demo.new config random = demo at hstart hslots
  have hseat : ∀ seat : Seat, ∃ hue rank,
      slots.get seat.slot = demo.playerOf seat.slot hue rank :=
    fun seat => (hslots seat.slot).1 (seat.slot_val_lt demo)
  rw [hstart]
  constructor
  · exact .inl rfl
  · rfl
  · rfl
  · rfl
  · intro slot
    show (slots.get slot).info = if slot.val < demo.players then _ else none
    split
    · next hin =>
        obtain ⟨hue, rank, hplayer⟩ := (hslots slot).1 hin
        have hmain : ∀ id : Nat, (id == 0) = (some 0 == some id) := by
          rintro (- | id) <;> rfl
        rw [hplayer]
        show some ({ isLocal := slot.val == 0 } : PlayerInfo) = _
        rw [hmain]
        rfl
    · next hout => rw [(hslots slot).2 (by omega)]
  · intro seat
    obtain ⟨hue, rank, hplayer⟩ := hseat seat
    show (slots.get seat.slot).character.active = true
    rw [hplayer]
    show (demo.spectatorId != some seat.slot.val) = true
    rw [bne_iff_ne]
    intro hspectates
    have hfour := four_le_of_spectatorId hspectates
    cases seat
    · exact absurd hfour (by decide)
    · exact absurd hfour (by decide)
  · intro seat
    obtain ⟨hue, rank, hplayer⟩ := hseat seat
    show (slots.get seat.slot).character.direction = _
    rw [hplayer]
    cases seat <;> rfl

theorem play (config : DemoConfig) (random : ρ) (actions : List Action) :
    Controlled (play config random actions) := by
  refine play_induction config random Controlled (populate config random)
    (fun state action h => ?_) actions
  cases action with
  | step seconds keys => exact h.step seconds keys
  | swap => exact h.swap

end

/-! ### Arrows -/

theorem withState (h : Controlled state) (played : ClientState) :
    Controlled (state.1, { state.2 with state := played }) :=
  ⟨h.activeDummy, h.seated, h.controls, h.unwatched, h.infos, h.present, h.heeds⟩

theorem keysOf_live (h : Controlled state) (hlive : state.2.isPlayback = false) (seat : Seat) :
    state.2.keysOf seat.slot (state.2.slots.get seat.slot) = state.2.inputs.get seat := by
  have hlocal := h.isLocal_iff seat.slot
  simp only [Game.keysOf, hlive, Bool.not_false, Bool.true_and, beq_iff_eq]
  by_cases hactive : seat = state.2.activeSeat
  · subst hactive
    rw [if_neg (h.get_partner_ne _), if_pos (hlocal.mpr h.localId_eq)]
  · have hpartner := Seat.eq_partner_of_ne hactive
    subst hpartner
    exact if_pos (h.get_localIds _)

theorem keysOf_playback {game : Game} (hplayback : game.isPlayback = true) (slot : Fin slotCount)
    (player : Slot) : game.keysOf slot player = player.character.keys := by
  simp [Game.keysOf, hplayback]

theorem exists_plateData (h : Controlled state) (settings : PlateSettings)
    (slot : Fin slotCount) (position : Point) (alpha : Float32) (force : Bool) :
    ∃ data, state.2.plateData settings slot position alpha force = .ok data := by
  apply Game.exists_plateData
  · intro own hown
    obtain rfl := Option.some.inj (h.localId_eq.symm.trans hown)
    exact state.2.activeSeat.slot.isLt
  · simp [Game.watchedId, h.unwatched]

/-- The arrows of a player of this machine point where the keys of its seat do, whether they are
read off the keys or off the character. -/
theorem arrows_eq (h : Controlled state) (seat : Seat) (settings : PlateSettings)
    (position : Point) (alpha : Float32) (force : Bool) :
    let headings := (state.2.inputs.get seat).headings
    let shown := settings.direction.shows (state.2.slots.get seat.slot).isLocal
    ∃ live replayed,
      { state.2 with state := .online }.plateData settings seat.slot position alpha force =
        .ok live ∧
      { state.2 with state := .playback }.plateData settings seat.slot position alpha force =
        .ok replayed ∧
      live.dirLeft = (shown && headings.left) ∧ live.dirRight = (shown && headings.right) ∧
      replayed.dirLeft = live.dirLeft ∧ replayed.dirRight = live.dirRight := by
  intro headings shown
  obtain ⟨live, hlive⟩ :=
    (h.withState .online).exists_plateData settings seat.slot position alpha force
  obtain ⟨replayed, hreplayed⟩ :=
    (h.withState .playback).exists_plateData settings seat.slot position alpha force
  obtain ⟨hleft, hright⟩ := Game.arrows_of_plateData hlive
  obtain ⟨hleft', hright'⟩ := Game.arrows_of_plateData hreplayed
  rw [(h.withState .online).keysOf_live rfl seat] at hleft hright
  rw [keysOf_playback rfl] at hleft' hright'
  have hleads : (state.2.slots.get seat.slot).character.keys.headings.left = headings.left ∧
      (state.2.slots.get seat.slot).character.keys.headings.right = headings.right := by
    simp only [Character.keys, Keys.headings, h.heeds seat]
    exact ⟨rfl, rfl⟩
  refine ⟨live, replayed, hlive, hreplayed, hleft, hright, ?_, ?_⟩
  · rw [hleft, hleft']
    exact congrArg _ hleads.1
  · rw [hright, hright']
    exact congrArg _ hleads.2

end Controlled

/-- However a game goes, one of the two players of this machine is controlled and marked as such;
both go where the keys of their seats point, and a plate shows that with the same arrows in a live
game and in a recording. Two swaps in a row change nothing. -/
theorem seats_keep_their_keys [RandomSource ρ] (config : DemoConfig) (random : ρ)
    (actions : List Action) :
    let demo := (play config random actions).1
    let game := (play config random actions).2
    (game.activeDummy = 0 ∨ game.activeDummy = 1) ∧
    game.localIds = ⟨some 0, some 1⟩ ∧
    game.localId = game.localIds.get game.activeSeat ∧
    (∀ slot : Fin slotCount,
      (game.slots.get slot).isLocal = true ↔ game.localId = some slot.val) ∧
    (∀ (seat : Seat) (slot : Fin slotCount), game.localIds.get seat = some slot.val →
      (game.slots.get slot).character.direction = (game.inputs.get seat).direction ∧
      ∀ (settings : PlateSettings) (position : Point) (alpha : Float32) (force : Bool),
        let headings := (game.inputs.get seat).headings
        let shown := settings.direction.shows (game.slots.get slot).isLocal
        ∃ live replayed,
          { game with state := .online }.plateData settings slot position alpha force =
            .ok live ∧
          { game with state := .playback }.plateData settings slot position alpha force =
            .ok replayed ∧
          live.dirLeft = (shown && headings.left) ∧ live.dirRight = (shown && headings.right) ∧
          replayed.dirLeft = live.dirLeft ∧ replayed.dirRight = live.dirRight) ∧
    demo.swapDummy (demo.swapDummy game) = game := by
  intro demo game
  have h := Controlled.play config random actions
  refine ⟨h.activeDummy, h.seated, h.controls, h.isLocal_iff, fun seat slot hslot => ?_,
    h.swap_swap⟩
  obtain rfl := h.eq_slot hslot
  exact ⟨h.heeds seat, h.arrows_eq seat⟩

end Demo
end Overhead
