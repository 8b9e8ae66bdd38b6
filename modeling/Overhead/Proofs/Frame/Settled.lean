import Overhead.Proofs.Frame.Session
import Overhead.Proofs.Plate.Settled

/-!
# Sessions stay settled

No command unsettles a plate. So after every run the plates of a session are settled, and they own
the texts of its canvas.
-/

namespace Overhead

open Recording

namespace Plates

def Settled (plates : Plates) : Prop :=
  ∀ slot : Fin slotCount, (plates.slots.get slot).Settled

theorem settled_new : ({} : Plates).Settled := by
  intro slot
  rw [get_new]
  exact Plate.settled_new

theorem Settled.obeyed {plates : Plates} (h : plates.Settled) (fails : Bool) (command : Command) :
    (plates.obeyed fails command).Settled := by
  intro slot
  rw [get_obeyed]
  split
  · exact (h slot).obeyed fails command.order
  · exact h slot

theorem Settled.carriedOut {plates : Plates} (h : plates.Settled) (fails : Bool)
    (commands : List Command) : (plates.carriedOut fails commands).Settled := by
  induction commands generalizing plates with
  | nil => exact h
  | cons command commands ih => exact ih (h.obeyed fails command)

/-- Settled plates have five places for a text each. -/
theorem Settled.length_texts_le {plates : Plates} (h : plates.Settled) :
    plates.texts.length ≤ 5 * slotCount := by
  have hsum : ∀ slots : List Plate, (∀ plate ∈ slots, plate.texts.length ≤ 5) →
      (slots.flatMap Plate.texts).length ≤ 5 * slots.length := by
    intro slots
    induction slots with
    | nil => simp
    | cons plate slots ih =>
        intro hslots
        have hplate := hslots plate List.mem_cons_self
        have hrest := ih fun other hother => hslots other (List.mem_cons_of_mem _ hother)
        rw [List.flatMap_cons, List.length_append, List.length_cons]
        omega
  have hslots : ∀ plate ∈ plates.slots.toList, plate.texts.length ≤ 5 := by
    intro plate hplate
    obtain ⟨slot, hslot, rfl⟩ := Vector.mem_iff_getElem.mp (Vector.mem_toList_iff.mp hplate)
    exact (h ⟨slot, hslot⟩).length_texts_le
  have hlength : plates.slots.toList.length = slotCount := by simp
  rw [← hlength]
  exact hsum _ hslots

end Plates

namespace Session

theorem settled_step {view : View} {step : Step} {effect : Effect} (h : view.plates.Settled)
    (heffect : view.step step = .ok effect) : effect.next.plates.Settled := by
  cases step with
  | frame game settings =>
      simp only [View.step] at heffect
      cases hcommands : Plates.frameCommands game settings view.setting.screen with
      | error missing => simp [hcommands, Except.map] at heffect
      | ok commands =>
          rw [hcommands] at heffect
          obtain rfl := Except.ok.inj heffect
          exact h.carriedOut _ commands
  | reset =>
      obtain rfl := Except.ok.inj heffect
      exact h.carriedOut _ _
  | preview settings profile position dummy =>
      obtain rfl := Except.ok.inj heffect
      exact h
  | failShaping fails =>
      obtain rfl := Except.ok.inj heffect
      exact h
  | setScreen screen =>
      obtain rfl := Except.ok.inj heffect
      exact h

/-- After every run the plates are settled, and the texts of the canvas are theirs or belong to
those who had some at the start. -/
theorem settled_run_on {start : Recording} {rest : List CachedText} (howns : Owns rest start)
    {steps : List Step} {session : Session}
    (hrun : ({ canvas := start } : Session).run steps = .ok session) :
    session.view.plates.Settled ∧ session.Holds rest := by
  have hview : ({ canvas := start } : Session).view.plates.Settled := by
    rw [view_default]
    exact Plates.settled_new
  exact run_invariant (fun view => view.plates.Settled) (fun _ _ _ => settled_step) hview
    (holds_default howns) hrun

/-- After every run the plates are settled and own the texts of the canvas. -/
theorem settled_run {steps : List Step} {session : Session}
    (hrun : ({} : Session).run steps = .ok session) :
    session.view.plates.Settled ∧ session.Holds [] :=
  settled_run_on owns_default hrun

/-- The slot of the player in the games below. -/
theorem three_lt_slotCount : 3 < slotCount := by decide

/-- One player, in the middle of the screen. -/
def duel : Game :=
  { state := .online
    slots := (Vector.replicate slotCount ({} : Slot)).set 3
      { info := some {}
        client := { name := "ada", clan := "duo" }
        character := { active := true } }
      three_lt_slotCount
    localId := some 3 }

/-- Shaping fails in the first frame. A preview and a reset follow before the screen moves and a
frame in another size is drawn. -/
def troubled : List Step :=
  [ .failShaping true,
    .frame duel { showOwn := true, showClan := true },
    .failShaping false,
    .frame duel { showOwn := true, showIds := true },
    .preview {} {} Point.zero 0,
    .reset,
    .setScreen ⟨-50, -50, 50, 50⟩,
    .frame duel { showOwn := true, showClan := true, size := 10 } ]

theorem run_troubled : ∃ session, ({} : Session).run troubled = .ok session ∧
    session.canvas.failShaping = false ∧ session.canvas.screen = ⟨-50, -50, 50, 50⟩ ∧
    session.canvas.live = 2 := by
  have hchecked : (({} : Session).run troubled).toOption.any (fun session =>
      !session.canvas.failShaping && session.canvas.screen == ⟨-50, -50, 50, 50⟩ &&
        session.canvas.live == 2) = true := by
    decide +kernel
  cases hrun : ({} : Session).run troubled with
  | error missing => simp [hrun, Except.toOption] at hchecked
  | ok session => exact ⟨session, rfl, by simpa [hrun, Except.toOption, and_assoc] using hchecked⟩

end Session
end Overhead
