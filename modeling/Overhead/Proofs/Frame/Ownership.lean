import Overhead.Proofs.Frame.Settled

/-!
# Whose texts they are

Through every run the plates of a session own the texts of its canvas, each its own. So texts never
pile up: there are as many as there are valid handles, and a plate has few places for one.
-/

namespace Overhead

open Recording

namespace Session

theorem live_reset {session : Session} (h : session.Holds []) :
    (session.plates.reset session.canvas).2.live = 0 := by
  obtain ⟨-, hyields⟩ := Plates.carryOut_yields h Plates.resetCommands
  have howns : Owns ((session.plates.reset session.canvas).1.texts ++ [])
      (session.plates.reset session.canvas).2 := by
    rw [Plates.reset_eq]
    exact hyields.owns
  rw [howns.live_eq, List.append_nil, Plates.handles_texts_reset]
  rfl

theorem live_preview {session : Session} (h : session.Holds []) (settings : PlateSettings)
    (profile : Profile) (position : Point) (dummy : Nat) :
    (Preview.draw settings profile position dummy session.canvas).live = session.canvas.live := by
  have hyields := Preview.draw_yields h settings profile position dummy
  rw [hyields.owns.live_eq, h.live_eq]

/-- After every run valid handles are distinct, each names just the text its holder remembers, and
nothing else is kept. There are at most five texts for a plate; a reset leaves none of them, and a
preview as many as there were. -/
theorem texts_belong_to_plates {steps : List Step} {session : Session}
    (hrun : ({} : Session).run steps = .ok session) :
    (handles session.plates.texts).Nodup ∧
      (∀ cached ∈ session.plates.texts, cached.handle.isSome →
        session.canvas.find cached.handle =
          some { text := cached.text, fontSize := cached.fontSize }) ∧
      (∀ index, (session.canvas.find (some index)).isSome ↔
        index ∈ handles session.plates.texts) ∧
      session.canvas.live = (handles session.plates.texts).length ∧
      (∀ slot : Fin slotCount, (handles (session.plates.slots.get slot).texts).length ≤ 5) ∧
      session.canvas.live ≤ 320 ∧
      (session.plates.reset session.canvas).2.live = 0 ∧
      ∀ settings profile position dummy,
        (Preview.draw settings profile position dummy session.canvas).live =
          session.canvas.live := by
  obtain ⟨hsettled, hholds⟩ := settled_run hrun
  have howns : Owns session.plates.texts session.canvas := by
    have h : Owns (session.plates.texts ++ []) session.canvas := hholds
    rwa [List.append_nil] at h
  refine ⟨howns.distinct, fun cached hcached hvalid => ?_, fun index => ?_, howns.live_eq,
    fun slot => ?_, ?_, live_reset hholds, live_preview hholds⟩
  · obtain ⟨index, hindex⟩ := Option.isSome_iff_exists.mp hvalid
    rw [howns.kept cached hcached, CachedText.container?, hindex]
    rfl
  · rw [← mem_occupiedIndices]
    exact howns.handles_perm.mem_iff.symm
  · have hslot := (hsettled slot).length_texts_le
    have hanonymous : session.view.plates.slots.get slot =
        (session.plates.slots.get slot).anonymous :=
      Plates.get_anonymous session.plates slot
    rw [hanonymous, Plate.texts_anonymous, List.length_map] at hslot
    exact Nat.le_trans (length_handles_le _) hslot
  · have hall := hsettled.length_texts_le
    have hanonymous : session.view.plates.texts = session.plates.texts.map CachedText.anonymous :=
      Plates.texts_anonymous session.plates
    rw [hanonymous, List.length_map] at hall
    rw [howns.live_eq]
    exact Nat.le_trans (length_handles_le _) hall

theorem texts_belong_to_plates_of_troubled :
    ∃ session, ({} : Session).run troubled = .ok session ∧ session.canvas.live = 2 ∧
      (handles session.plates.texts).Nodup ∧
      session.canvas.live = (handles session.plates.texts).length ∧
      (session.plates.reset session.canvas).2.live = 0 := by
  obtain ⟨session, hrun, -, -, hlive⟩ := run_troubled
  obtain ⟨hdistinct, -, -, hcount, -, -, hreset, -⟩ := texts_belong_to_plates hrun
  exact ⟨session, hrun, hlive, hdistinct, hcount, hreset⟩

end Session
end Overhead
