import Overhead.Proofs.Canvas.Renumbering

/-!
# Counted calls

Shaping a text is what costs time, and so does giving one back. Any canvas can be made to count how
often it is asked for either, whatever comes of it; plates do not see the difference.
-/

namespace Overhead

/-- A canvas that counts the calls that shape a text and those that give one back. -/
structure Counted (σ : Type) where
  canvas : σ
  shapings : Nat := 0
  releases : Nat := 0

namespace Counted

variable {σ : Type}

/-- From one state to the next nothing was counted. -/
def Uncounted (counted later : Counted σ) : Prop :=
  later.shapings = counted.shapings ∧ later.releases = counted.releases

theorem Uncounted.trans {counted middle later : Counted σ} (h : Uncounted counted middle)
    (h' : Uncounted middle later) : Uncounted counted later :=
  ⟨h'.1.trans h.1, h'.2.trans h.2⟩

variable [Canvas σ]

instance : Canvas (Counted σ) where
  screen counted := Canvas.screen counted.canvas
  setScreen area counted := { counted with canvas := Canvas.setScreen area counted.canvas }
  setInterface counted := { counted with canvas := Canvas.setInterface counted.canvas }
  shape handle text fontSize counted :=
    let shaped := Canvas.shape handle text fontSize counted.canvas
    (shaped.1, { counted with canvas := shaped.2, shapings := counted.shapings + 1 })
  extent handle counted := Canvas.extent handle counted.canvas
  release handle counted :=
    { counted with
      canvas := Canvas.release handle counted.canvas
      releases := counted.releases + 1 }
  drawText handle color outline position counted :=
    { counted with canvas := Canvas.drawText handle color outline position counted.canvas }
  drawSprite sprite center size rotation color counted :=
    { counted with canvas := Canvas.drawSprite sprite center size rotation color counted.canvas }
  setFlags flags counted := { counted with canvas := Canvas.setFlags flags counted.canvas }

def forget : Renumbering (Counted σ) σ where
  state := Counted.canvas
  number := id
  screen _ := rfl
  setScreen _ _ := rfl
  setInterface _ := rfl
  shape handle text fontSize counted := by
    simp [Canvas.shape]
  extent handle counted := by
    simp [Canvas.extent]
  release handle counted := by
    simp [Canvas.release]
  drawText handle color outline position counted := by
    simp [Canvas.drawText]
  drawSprite _ _ _ _ _ _ := rfl
  setFlags _ _ := rfl

theorem renumber_forget : Plates.renumber (forget : Renumbering (Counted σ) σ).number = id := by
  funext plates
  exact Plates.renumber_eq_self fun _ _ => rfl

theorem obey_forget (plates : Plates) (counted : Counted σ) (command : Plates.Command) :
    Plates.obey (plates, counted.canvas) command =
      Prod.map id Counted.canvas (Plates.obey (plates, counted) command) := by
  have hobey := forget.plates_obey (plates, counted) command
  rw [renumber_forget] at hobey
  exact hobey

/-- Counting changes nothing else. -/
theorem carryOut_forget (plates : Plates) (counted : Counted σ) (commands : List Plates.Command) :
    Plates.carryOut commands (plates, counted.canvas) =
      Prod.map id Counted.canvas (Plates.carryOut commands (plates, counted)) := by
  have hcarried := forget.plates_carryOut commands (plates, counted)
  rw [renumber_forget] at hcarried
  exact hcarried

/-! ## What drawing is counted as -/

theorem uncounted_part_draw (part : Part) (center : Point) (counted : Counted σ) :
    Uncounted counted (part.draw center counted) := by
  have htext : ∀ cached : CachedText,
      Uncounted counted (cached.draw center part.box.size part.color counted) := by
    intro cached
    unfold CachedText.draw
    split
    · exact ⟨rfl, rfl⟩
    · exact ⟨rfl, rfl⟩
  obtain ⟨content, box, color⟩ := part
  cases content with
  | lineBreak | arrow | friendMark | hookIcon => exact ⟨rfl, rfl⟩
  | clientId ownLine cached => exact htext cached
  | name cached => exact htext cached
  | clan cached => exact htext cached
  | hookId cached => exact htext cached

theorem uncounted_drawPlacements (plate : Plate) (counted : Counted σ) :
    Uncounted counted (plate.drawPlacements counted) := by
  unfold Plate.drawPlacements
  generalize plate.placements = placements
  induction placements generalizing counted with
  | nil => exact ⟨rfl, rfl⟩
  | cons placement placements ih =>
      have hfirst : Uncounted counted (Plate.drawPlacement plate.parts counted placement) := by
        unfold Plate.drawPlacement
        split
        · exact uncounted_part_draw _ _ counted
        · exact ⟨rfl, rfl⟩
      rw [List.foldl_cons]
      exact hfirst.trans (ih _)

end Counted
end Overhead
