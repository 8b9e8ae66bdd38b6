import Mathlib.Tactic.ByContra
import Overhead.Game.Viewpoint
import Overhead.Proofs.Game.Slots

/-!
# Teams seen from a viewpoint

Whoever the game is seen through is never on another team, and two players see each other alike.
Members of the super team meet everybody; only a local player can be parted from them, by playing
solo.
-/

namespace Overhead
namespace Client

/-- Whether two players do not meet because of their teams. -/
def parted (a b : Client) : Bool :=
  !a.isSuper && !b.isSuper && a.team != b.team

@[simp] theorem parted_self (a : Client) : a.parted a = false := by
  simp [parted]

theorem parted_comm (a b : Client) : a.parted b = b.parted a := by
  unfold parted
  rw [bne_comm, Bool.and_comm (!a.isSuper)]

theorem parted_of_isSuper {a b : Client} (h : a.isSuper = true ∨ b.isSuper = true) :
    a.parted b = false := by
  rcases h with ha | hb
  · simp [parted, ha]
  · simp [parted, hb]

end Client

namespace Game

/-- The player through whose eyes the game is seen: the one that is spectated, or else the local
one. -/
def viewpointId (game : Game) : Option Nat :=
  game.watchedId.or game.localId

def playedBy (game : Game) (id : Nat) : Game :=
  { game with localId := some id }

def spectated (game : Game) (id : Nat) : Game :=
  { game with spectating := { game.spectating with id := some id } }

structure NamesSlots (game : Game) : Prop where
  own : ∀ id, game.localId = some id → id < slotCount
  spectated : ∀ id, game.spectating.id = some id → id < slotCount

def soloParts (game : Game) (a b : Fin slotCount) : Bool :=
  ((game.slots.get a).client.solo || (game.slots.get b).client.solo) && a != b

@[simp] theorem soloParts_self (game : Game) (a : Fin slotCount) : game.soloParts a a = false := by
  simp [soloParts]

theorem soloParts_comm (game : Game) (a b : Fin slotCount) :
    game.soloParts a b = game.soloParts b a := by
  unfold soloParts
  rw [bne_comm, Bool.or_comm]

/-! ## Teams of players with slots -/

section

variable {game : Game} {own watched : Fin slotCount}

theorem isOtherTeamOfWatched_eq (game : Game) (watched slot : Fin slotCount) :
    game.isOtherTeamOfWatched watched slot =
      .ok ((game.slots.get watched).client.parted (game.slots.get slot).client) := by
  simp only [isOtherTeamOfWatched, slot_fin, bind, Except.bind, pure, Except.pure]
  cases hsuper : (game.slots.get slot).client.isSuper with
  | true =>
      rw [Client.parted_of_isSuper (Or.inr hsuper)]
      rfl
  | false => simp [Client.parted, hsuper]

theorem partedBySolo_eq (game : Game) (own slot : Fin slotCount) :
    game.partedBySolo (game.slots.get own).client own slot = .ok (game.soloParts own slot) := by
  have hids : ((slot : Nat) != own) = (own != slot) := by
    rw [bne_comm]
    exact Bool.eq_iff_iff.mpr (by simp [Fin.ext_iff])
  simp only [partedBySolo, slot_fin, bind, Except.bind, pure, Except.pure, hids, soloParts]
  cases (game.slots.get own).client.solo with
  | true => simp
  | false => simp

theorem isOtherTeamOfLocal_eq (game : Game) (own slot : Fin slotCount) :
    game.isOtherTeamOfLocal (game.slots.get own).client own slot =
      .ok (game.soloParts own slot ||
        (game.slots.get own).client.parted (game.slots.get slot).client) := by
  simp only [isOtherTeamOfLocal, partedBySolo_eq, slot_fin, bind, Except.bind, pure, Except.pure]
  cases game.soloParts own slot with
  | true => rfl
  | false =>
      rw [Client.parted, Bool.and_comm (!(game.slots.get own).client.isSuper)]
      rfl

theorem isOtherTeam_of_nobody (h : game.localId = none) (id : Nat) :
    game.isOtherTeam id = .ok false := by
  rw [isOtherTeam, h]
  rfl

/-- While somebody is watched, only teams count. -/
theorem isOtherTeam_of_watched (hlocal : game.localId = some own.val)
    (hwatched : game.watchedId = some watched.val) (slot : Fin slotCount) :
    game.isOtherTeam slot =
      .ok ((game.slots.get watched).client.parted (game.slots.get slot).client) := by
  have hview : game.spectating.id ≠ none := by
    intro hnone
    simp [watchedId, hnone] at hwatched
  simp only [isOtherTeam, hlocal, hwatched, slot_fin, bind, Except.bind, hview, and_false, if_false,
    isOtherTeamOfWatched_eq]

/-- While nobody is watched, solo players come before teams, and the free view before both. -/
theorem isOtherTeam_of_unwatched (hlocal : game.localId = some own.val)
    (hwatched : game.watchedId = none) (slot : Fin slotCount) :
    game.isOtherTeam slot =
      if (game.slots.get own).client.side = .spectators ∧ game.spectating.id = none then .ok false
      else .ok (game.soloParts own slot ||
        (game.slots.get own).client.parted (game.slots.get slot).client) := by
  simp only [isOtherTeam, hlocal, hwatched, slot_fin, bind, Except.bind, isOtherTeamOfLocal_eq]
  rfl

end

/-! ## The laws -/

section

variable {game : Game} {id : Nat}

theorem NamesSlots.exists_own (h : game.NamesSlots) (hlocal : game.localId = some id) :
    ∃ own : Fin slotCount, own.val = id :=
  ⟨⟨id, h.own id hlocal⟩, rfl⟩

theorem NamesSlots.exists_watched (h : game.NamesSlots) (hwatched : game.watchedId = some id) :
    ∃ watched : Fin slotCount, watched.val = id := by
  unfold watchedId at hwatched
  split at hwatched
  · exact ⟨⟨id, h.spectated id hwatched⟩, rfl⟩
  · cases hwatched

end

theorem isOtherTeam_viewpoint {game : Game} (h : game.NamesSlots) {id : Nat}
    (hid : game.viewpointId = some id) : game.isOtherTeam id = .ok false := by
  rcases game.localId.eq_none_or_eq_some with hnobody | ⟨ownId, hlocal⟩
  · exact isOtherTeam_of_nobody hnobody id
  · obtain ⟨own, rfl⟩ := h.exists_own hlocal
    cases hwatched : game.watchedId with
    | none =>
        obtain rfl : own.val = id := by simpa [viewpointId, hlocal, hwatched] using hid
        rw [isOtherTeam_of_unwatched hlocal hwatched, soloParts_self, Client.parted_self]
        exact ite_self _
    | some watchedId =>
        obtain rfl : watchedId = id := by simpa [viewpointId, hwatched] using hid
        obtain ⟨watched, rfl⟩ := h.exists_watched hwatched
        rw [isOtherTeam_of_watched hlocal hwatched, Client.parted_self]

theorem isOtherTeam_playedBy {game : Game} (hwatched : game.watchedId = none)
    {own : Fin slotCount} (hown : (game.slots.get own).client.side ≠ .spectators)
    (slot : Fin slotCount) :
    (game.playedBy own).isOtherTeam slot =
      .ok (game.soloParts own slot ||
        (game.slots.get own).client.parted (game.slots.get slot).client) := by
  have hlocal : (game.playedBy own).localId = some own.val := rfl
  have hother := isOtherTeam_of_unwatched hlocal hwatched slot
  exact hother.trans (if_neg fun hfree => hown hfree.1)

theorem isOtherTeam_spectated {game : Game} (h : game.NamesSlots)
    (hactive : game.spectating.active = true) (watched slot : Fin slotCount) :
    (game.spectated watched).isOtherTeam slot =
      .ok (game.localId.isSome &&
        (game.slots.get watched).client.parted (game.slots.get slot).client) := by
  rcases game.localId.eq_none_or_eq_some with hnobody | ⟨ownId, hlocal⟩
  · rw [hnobody]
    have hsame : (game.spectated watched).localId = none := hnobody
    exact isOtherTeam_of_nobody hsame slot
  · obtain ⟨own, rfl⟩ := h.exists_own hlocal
    rw [hlocal]
    have hsame : (game.spectated watched).localId = some own.val := hlocal
    have hwatched : (game.spectated watched).watchedId = some watched.val := by
      simp [watchedId, spectated, hactive]
    exact isOtherTeam_of_watched hsame hwatched slot

/-- Only the solo rule can part a viewpoint from somebody if one of the two is on the super team. -/
theorem isOtherTeam_of_isSuper {game : Game} (h : game.NamesSlots) {viewpoint slot : Fin slotCount}
    (hviewpoint : game.viewpointId = some viewpoint.val)
    (hsuper : (game.slots.get viewpoint).client.isSuper = true ∨
      (game.slots.get slot).client.isSuper = true) :
    ∃ other, game.isOtherTeam slot = .ok other ∧
      (other = true ↔ game.watchedId = none ∧
        ¬ ((game.slots.get viewpoint).client.side = .spectators ∧ game.spectating.id = none) ∧
        game.soloParts viewpoint slot = true) := by
  have hteams := Client.parted_of_isSuper hsuper
  cases hwatched : game.watchedId with
  | none =>
      have hlocal : game.localId = some viewpoint.val := by
        simpa [viewpointId, hwatched] using hviewpoint
      rw [isOtherTeam_of_unwatched hlocal hwatched, hteams, Bool.or_false]
      by_cases hfree :
          (game.slots.get viewpoint).client.side = .spectators ∧ game.spectating.id = none
      · exact ⟨false, if_pos hfree, by simp [hfree]⟩
      · exact ⟨_, if_neg hfree, by simp [hfree]⟩
  | some watchedId =>
      obtain rfl : watchedId = viewpoint := by simpa [viewpointId, hwatched] using hviewpoint
      refine ⟨false, ?_, by simp⟩
      rcases game.localId.eq_none_or_eq_some with hnobody | ⟨ownId, hlocal⟩
      · exact isOtherTeam_of_nobody hnobody slot
      · obtain ⟨own, rfl⟩ := h.exists_own hlocal
        rw [isOtherTeam_of_watched hlocal hwatched, hteams]

/-- As long as the ids of a game name slots, the viewpoint is never on another team. While nobody is
watched, two players that do not spectate see each other alike, each as the local player; while
somebody is watched, any two players see each other alike, each as the one who is watched. If the
viewpoint or the other player is on the super team, they are on other teams only while nobody is
watched, outside of the free view, and because one of two different players plays solo. -/
theorem viewpoints_tell_teams_alike {game : Game} (h : game.NamesSlots) :
    (∀ id, game.viewpointId = some id → game.isOtherTeam id = .ok false) ∧
    (game.watchedId = none → ∀ a b : Fin slotCount,
      (game.slots.get a).client.side ≠ .spectators →
      (game.slots.get b).client.side ≠ .spectators →
      ∃ other, (game.playedBy a).isOtherTeam b = .ok other ∧
        (game.playedBy b).isOtherTeam a = .ok other) ∧
    (game.watchedId.isSome → ∀ a b : Fin slotCount,
      ∃ other, (game.spectated a).isOtherTeam b = .ok other ∧
        (game.spectated b).isOtherTeam a = .ok other) ∧
    ∀ viewpoint slot : Fin slotCount, game.viewpointId = some viewpoint.val →
      (game.slots.get viewpoint).client.team = Client.superTeam ∨
        (game.slots.get slot).client.team = Client.superTeam →
      ∃ other, game.isOtherTeam slot = .ok other ∧
        (other = true ↔ game.watchedId = none ∧
          ¬ ((game.slots.get viewpoint).client.side = .spectators ∧
            game.spectating.id = none) ∧
          ((game.slots.get viewpoint).client.solo = true ∨
            (game.slots.get slot).client.solo = true) ∧
          viewpoint ≠ slot) := by
  refine ⟨fun id hid => isOtherTeam_viewpoint h hid, fun hwatched a b ha hb => ?_,
    fun hwatched a b => ?_, fun viewpoint slot hviewpoint hsuper => ?_⟩
  · refine ⟨_, isOtherTeam_playedBy hwatched ha b, ?_⟩
    rw [isOtherTeam_playedBy hwatched hb, soloParts_comm, Client.parted_comm]
  · have hactive : game.spectating.active = true := by
      by_contra hinactive
      simp [watchedId, hinactive] at hwatched
    refine ⟨_, isOtherTeam_spectated h hactive a b, ?_⟩
    rw [isOtherTeam_spectated h hactive, Client.parted_comm]
  · have hteams : (game.slots.get viewpoint).client.isSuper = true ∨
        (game.slots.get slot).client.isSuper = true := by
      simpa [Client.isSuper] using hsuper
    simpa [soloParts] using isOtherTeam_of_isSuper h hviewpoint hteams

def trio : Game :=
  { state := .online
    slots := Vector.ofFn fun slot : Fin slotCount =>
      if slot.val = 3 then { client := { team := 1 } }
      else if slot.val = 5 then { client := { team := Client.superTeam, solo := true } }
      else { client := { team := 2 } }
    localId := some 3 }

theorem viewpoints_tell_teams_alike_of_trio :
    trio.NamesSlots ∧ trio.isOtherTeam 3 = .ok false ∧
      (∃ other, (trio.playedBy 3).isOtherTeam 9 = .ok other ∧
        (trio.playedBy 9).isOtherTeam 3 = .ok other) ∧
      trio.isOtherTeam 5 = .ok true ∧
      ∃ watching : Game, watching.NamesSlots ∧ watching.viewpointId = some 9 ∧
        watching.isOtherTeam 5 = .ok false ∧
        ∃ other, (watching.spectated 9).isOtherTeam 3 = .ok other ∧
          (watching.spectated 3).isOtherTeam 9 = .ok other := by
  let ada : Fin slotCount := ⟨3, by decide⟩
  let solo : Fin slotCount := ⟨5, by decide⟩
  let bob : Fin slotCount := ⟨9, by decide⟩
  have htrio : trio.NamesSlots := by
    refine ⟨fun id hid => ?_, fun id hid => ?_⟩
    · obtain rfl := Option.some.inj hid
      exact ada.isLt
    · cases hid
  obtain ⟨hself, hlocal, -, hsuper⟩ := viewpoints_tell_teams_alike htrio
  obtain ⟨other, hother, hiff⟩ := hsuper ada solo rfl (Or.inr (by decide))
  have hsolo : other = true := hiff.mpr (by decide)
  -- The same players, with another one watched.
  let watching : Game := { trio with spectating := ⟨true, some 9⟩ }
  have hwatching : watching.NamesSlots := by
    refine ⟨htrio.own, fun id hid => ?_⟩
    obtain rfl := Option.some.inj hid
    exact bob.isLt
  obtain ⟨-, -, hwatched, hsuper'⟩ := viewpoints_tell_teams_alike hwatching
  obtain ⟨other', hother', hiff'⟩ := hsuper' bob solo rfl (Or.inr (by decide))
  have hteams : other' = false := Bool.eq_false_iff.mpr fun h => nomatch (hiff'.mp h).1
  refine ⟨htrio, hself 3 rfl, hlocal rfl ada bob (by decide) (by decide), ?_, watching, hwatching,
    rfl, ?_, hwatched rfl bob ada⟩
  · rw [← hsolo]
    exact hother
  · rw [← hteams]
    exact hother'

end Game
end Overhead
