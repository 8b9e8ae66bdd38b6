import Mathlib.Data.Nat.Pairing
import Overhead.Proofs.Canvas.Renumbering

/-!
# Dated handles

Any canvas can be made to date its handles: the number of a handle then also tells when the text was
shaped that the handle came back with. Plates do not see the difference, and all they can do with a
date is to keep it.
-/

namespace Overhead

open Recording

/-- A canvas that dates its handles, as it is on one day. -/
structure Dated (now : Nat) (σ : Type) where
  canvas : σ

namespace Dated

def stamp (now index : Nat) : Nat :=
  Nat.pair now index

def date (number : Nat) : Nat :=
  number.unpair.1

def index (number : Nat) : Nat :=
  number.unpair.2

@[simp] theorem date_stamp (now i : Nat) : date (stamp now i) = now := by
  simp [date, stamp]

@[simp] theorem index_stamp (now i : Nat) : index (stamp now i) = i := by
  simp [index, stamp]

theorem stamp_date_index (number : Nat) : stamp (date number) (index number) = number :=
  Nat.pair_unpair number

variable {σ : Type} [Canvas σ] {now : Nat}

/-- Shaping dates the handle that comes back; everything else leaves dates aside. -/
instance : Canvas (Dated now σ) where
  screen dated := Canvas.screen dated.canvas
  setScreen area dated := { canvas := Canvas.setScreen area dated.canvas }
  setInterface dated := { canvas := Canvas.setInterface dated.canvas }
  shape handle text fontSize dated :=
    let shaped := Canvas.shape (handle.map index) text fontSize dated.canvas
    (shaped.1.map (stamp now), { canvas := shaped.2 })
  extent handle dated := Canvas.extent (handle.map index) dated.canvas
  release handle dated := { canvas := Canvas.release (handle.map index) dated.canvas }
  drawText handle color outline position dated :=
    { canvas := Canvas.drawText (handle.map index) color outline position dated.canvas }
  drawSprite sprite center size rotation color dated :=
    { canvas := Canvas.drawSprite sprite center size rotation color dated.canvas }
  setFlags flags dated := { canvas := Canvas.setFlags flags dated.canvas }

def forget : Renumbering (Dated now σ) σ where
  state := Dated.canvas
  number := index
  screen _ := rfl
  setScreen _ _ := rfl
  setInterface _ := rfl
  shape handle text fontSize dated := by
    simp [Canvas.shape, Function.comp_def]
  extent _ _ := rfl
  release _ _ := rfl
  drawText _ _ _ _ _ := rfl
  drawSprite _ _ _ _ _ _ := rfl
  setFlags _ _ := rfl

/-- Dates may be changed, but for that of today. -/
def redate (change : Nat → Nat) (hnow : change now = now) :
    Renumbering (Dated now σ) (Dated now σ) where
  state := id
  number n := stamp (change (date n)) (index n)
  screen _ := rfl
  setScreen _ _ := rfl
  setInterface _ := rfl
  shape handle text fontSize dated := by
    simp [Canvas.shape, Function.comp_def, hnow]
  extent handle dated := by
    simp [Canvas.extent, Function.comp_def]
  release handle dated := by
    simp [Canvas.release, Function.comp_def]
  drawText handle color outline position dated := by
    simp [Canvas.drawText, Function.comp_def]
  drawSprite _ _ _ _ _ _ := rfl
  setFlags _ _ := rfl

/-! ## Dates that are kept -/

def HasDates (dates : Nat → Prop) (plates : Plates) : Prop :=
  ∀ number ∈ handles plates.texts, dates (date number)

theorem HasDates.mono {dates more : Nat → Prop} {plates : Plates} (h : HasDates dates plates)
    (hmore : ∀ day, dates day → more day) : HasDates more plates :=
  fun number hnumber => hmore _ (h number hnumber)

/-- Texts that were given back have no date. -/
theorem hasDates_reset (dates : Nat → Prop) (plates : Plates) (dated : Dated now σ) :
    HasDates dates (plates.reset dated).1 := by
  intro number hnumber
  rw [Plates.handles_texts_reset] at hnumber
  cases hnumber

/-- A frame gives handles no other date than that of today. -/
theorem HasDates.draw {dates : Nat → Prop} {plates later : Plates} {dated after : Dated now σ}
    {game : Game} {settings : PlateSettings} {count : Nat} (h : HasDates dates plates)
    (hnow : dates now) (hdraw : plates.draw game settings dated = .ok (count, later, after)) :
    HasDates dates later := by
  classical
  -- Any other date is changed to that of today. The plates start without one, and the frame does
  -- the same whether dates are changed before it or after it.
  let change (day : Nat) : Nat := if dates day then day else now
  let r : Renumbering (Dated now σ) (Dated now σ) := redate change (if_pos hnow)
  have hplates : plates.renumber r.number = plates := by
    refine Plates.renumber_eq_self fun number hnumber => ?_
    have hdate : change (date number) = date number := if_pos (h number hnumber)
    show stamp (change (date number)) (index number) = number
    rw [hdate, stamp_date_index]
  have hstate : r.state dated = dated := rfl
  have hchanged := r.plates_draw plates game settings dated
  rw [hplates, hstate, hdraw] at hchanged
  have hlater : later = later.renumber r.number :=
    congrArg (fun drawn => drawn.2.1) (Except.ok.inj hchanged)
  have hhandles : (handles later.texts).map r.number = (handles later.texts).map id := by
    rw [← Plates.handles_texts_renumber, ← hlater, List.map_id]
  intro number hnumber
  have hnumbered : stamp (change (date number)) (index number) = number :=
    List.map_inj_left.mp hhandles number hnumber
  have hdate : change (date number) = date number := by
    rw [← date_stamp (change (date number)) (index number), hnumbered]
  by_cases hdates : dates (date number)
  · exact hdates
  · have hother : change (date number) = now := if_neg hdates
    rwa [← hdate, hother]

end Dated
end Overhead
