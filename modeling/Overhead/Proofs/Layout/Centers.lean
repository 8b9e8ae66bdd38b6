import Overhead.Proofs.Layout.Lines
import Overhead.Proofs.Single.Place

/-!
# The center of a line

A line is read with one box after the other, and its height grows to that of the tallest one. Sizes
and paddings may be any single-precision numbers: NaN has no say, and a line never gets lower than
nothing. So no box of a line is taller than the line, and all of them are drawn around one center.
-/

namespace Overhead

/-! ## Coordinates in single precision -/

/-- The coordinates that layouts are computed in: whole numbers are rounded, and NaN is never larger
than a number. Which of the two zeros is the larger one is left open. -/
class Coordinate.InSingle [Coordinate Float32] : Prop where
  ofNat_eq (n : Nat) : (Coordinate.ofNat n : Float32) = Float32.ofNat n
  maximum : Single.Maximum (Coordinate.larger : Float32 → Float32 → Float32)

instance : Coordinate.InSingle where
  ofNat_eq _ := rfl
  maximum := Single.maximum_larger

namespace Layout

open Single

abbrev NumberedLine := List (Nat × PartBox Float32)

section

variable [Coordinate Float32] [Coordinate.InSingle]

/-! ## The height of the line that is being read -/

/-- The height of a line is a number and not below nothing. A box that takes space is no taller,
unless its own height is no number. -/
structure Pending.Level (pending : Pending Float32) : Prop where
  number : pending.size.y.isNaN = false
  nonneg : 0 ≤ pending.size.y
  covers : ∀ item ∈ pending.boxes, item.2.takesSpace →
    item.2.footprint.y.isNaN ∨ item.2.footprint.y ≤ pending.size.y

theorem Pending.start_level : (Pending.start : Pending Float32).Level := by
  have hheight : (Pending.start : Pending Float32).size.y = 0 := Coordinate.InSingle.ofNat_eq 0
  constructor
  · rw [hheight]
    decide
  · rw [hheight]
    decide
  · intro item hitem
    cases hitem

theorem Pending.Level.push {pending : Pending Float32} (h : pending.Level) (index : Nat)
    (box : PartBox Float32) : (pending.push index box).Level := by
  by_cases hspace : box.takesSpace
  · -- The height grows to that of the box, and keeps above the boxes before.
    have hmax := Coordinate.InSingle.maximum
    have hheight : (pending.push index box).size.y =
        Coordinate.larger pending.size.y box.footprint.y := by
      simp [Pending.push, hspace]
    have hgrows : pending.size.y ≤ (pending.push index box).size.y := by
      rw [hheight]
      exact hmax.le_left h.number
    constructor
    · rw [hheight]
      exact (hmax.place_larger h.number _).1
    · exact Single.le_trans h.nonneg hgrows
    · intro item hitem htakes
      rcases List.mem_cons.mp hitem with rfl | hitem
      · by_cases hnan : box.footprint.y.isNaN
        · exact Or.inl hnan
        · refine Or.inr ?_
          rw [hheight]
          exact hmax.le_right h.number (eq_false_of_ne_true hnan)
      · exact (h.covers item hitem htakes).imp_right fun hle => Single.le_trans hle hgrows
  · have hsize : (pending.push index box).size = pending.size := by
      simp [Pending.push, hspace]
    constructor
    · rw [hsize]
      exact h.number
    · rw [hsize]
      exact h.nonneg
    · intro item hitem htakes
      rw [hsize]
      rcases List.mem_cons.mp hitem with rfl | hitem
      · exact absurd htakes hspace
      · exact h.covers item hitem htakes

theorem Pending.Level.read {pending : Pending Float32} (h : pending.Level) (line : NumberedLine) :
    (pending.read line).Level := by
  induction line generalizing pending with
  | nil => exact h
  | cons item line ih => exact ih (h.push item.1 item.2)

/-- Beside the height of its line, a box has no say. -/
theorem larger_height {line : NumberedLine} {item : Nat × PartBox Float32} (hitem : item ∈ line)
    (hspace : item.2.takesSpace) :
    Coordinate.larger (Pending.start.read line).size.y item.2.footprint.y ==
      (Pending.start.read line).size.y := by
  have hlevel := Pending.start_level.read line
  have hboxes : item ∈ (Pending.start.read line).boxes := by
    rw [Pending.read_boxes]
    simpa using hitem
  exact Coordinate.InSingle.maximum.beq_left hlevel.number (hlevel.covers item hboxes hspace)

/-! ## The boxes of a line -/

/-- A drawn box stands halfway up its line, moved by its offset. -/
theorem same_center {center y : Float32} {line : NumberedLine} {placement : Placement Float32}
    (h : placement ∈ (Pending.start.read line).place center y) :
    ∃ box, (placement.index, box) ∈ line ∧
      Same placement.position.y (y - (Pending.start.read line).size.y / 2 + box.offset.y) := by
  rw [Pending.place_read_start] at h
  obtain ⟨box, hbox, hdrawn, hy⟩ := exists_box_of_mem_linePlacements h
  have hlarger := larger_height hbox (PartBox.takesSpace_of_drawn hdrawn)
  rw [← Pending.size_read_start, Coordinate.InSingle.ofNat_eq] at hy
  have hhalf : Same (Coordinate.larger (Pending.start.read line).size.y box.footprint.y / 2)
      ((Pending.start.read line).size.y / 2) :=
    Same.map (Or.inl hlarger) (f := (· / 2)) (by decide)
  refine ⟨box, hbox, ?_⟩
  rw [hy]
  exact (hhalf.sub_left y).add (.refl box.offset.y)

/-- The height of a line is a number and not below nothing, whatever numbers the sizes and paddings
of its boxes are. Every drawn box of a layout leaves the height of its line as it is and stands
halfway up the line, moved by its offset. So boxes of a line with the same offset stand at the same
height. -/
theorem boxes_of_a_line_share_its_center (boxes : List (PartBox Float32)) (anchor : Point) :
    let lines := withEarlier (keptLines (numbered 0 boxes))
    let height (line : NumberedLine) := (Pending.start.read line).size.y
    let base (line : List NumberedLine × NumberedLine) :=
      line.1.foldl (fun y earlier => y - height earlier) anchor.y
    let placed (line : List NumberedLine × NumberedLine) :=
      (Pending.start.read line.2).place anchor.x (base line)
    (∀ line, (height line).isNaN = false ∧ 0 ≤ height line) ∧
      (arrange boxes anchor).placements = lines.flatMap placed ∧
      ∀ line ∈ lines,
        (placed line).map (·.index) = drawnIndices line.2 ∧
        (∀ item ∈ line.2, item.2.visible →
          Coordinate.larger (height line.2) item.2.footprint.y == height line.2) ∧
        (∀ p ∈ placed line, ∃ box, (p.index, box) ∈ line.2 ∧ boxes[p.index]? = some box ∧
          Same p.position.y (base line - height line.2 / 2 + box.offset.y)) ∧
        ∀ p ∈ placed line, ∀ q ∈ placed line, ∀ box box' : PartBox Float32,
          boxes[p.index]? = some box → boxes[q.index]? = some box' →
            Same box.offset.y box'.offset.y → Same p.position.y q.position.y := by
  intro lines height base placed
  have hcenter : ∀ line ∈ lines, ∀ p ∈ placed line, ∃ box, (p.index, box) ∈ line.2 ∧
      boxes[p.index]? = some box ∧
        Same p.position.y (base line - height line.2 / 2 + box.offset.y) := by
    intro line hline p hp
    obtain ⟨box, hbox, hsame⟩ := same_center hp
    have hkept : line.2 ∈ keptLines (numbered 0 boxes) := (List.of_mem_zip hline).2
    exact ⟨box, hbox, (getElem?_of_mem_keptLines hkept hbox).1, hsame⟩
  refine ⟨fun line => ?_, ?_, fun line hline => ⟨?_, fun item hitem hvisible => ?_,
    hcenter line hline, fun p hp q hq box box' hbox hbox' hoffset => ?_⟩⟩
  · have hlevel := Pending.start_level.read line
    exact ⟨hlevel.number, hlevel.nonneg⟩
  · rw [arrange_eq_byLines]
    simp only [byLines, stack, baseline, placed, base, height, lines, Pending.place_read_start,
      Pending.size_read_start]
  · simp only [placed, Pending.place_read_start, map_index_linePlacements]
  · have hkept : line.2 ∈ keptLines (numbered 0 boxes) := (List.of_mem_zip hline).2
    obtain ⟨-, hbreak⟩ := getElem?_of_mem_keptLines hkept hitem
    refine larger_height hitem (PartBox.takesSpace_of_drawn ?_)
    simp [PartBox.drawn, hvisible, hbreak]
  · obtain ⟨pbox, -, hpbox, hp⟩ := hcenter line hline p hp
    obtain ⟨qbox, -, hqbox, hq⟩ := hcenter line hline q hq
    obtain rfl := Option.some.inj (hpbox.symm.trans hbox)
    obtain rfl := Option.some.inj (hqbox.symm.trans hbox')
    have hoffsets := (Same.refl (base line - height line.2 / 2)).add hoffset
    exact hp.trans (hoffsets.trans hq.symm)

end

def uneven : List (PartBox Float32) :=
  [ { PartBox.plain with size := ⟨60, 28⟩ },
    { PartBox.plain with size := ⟨40, Float32.nan⟩ },
    { PartBox.plain with size := ⟨20, -50⟩ },
    { PartBox.plain with size := ⟨20, -Float32.inf⟩ } ]

theorem uneven_share_their_center :
    (Pending.start.read (numbered 0 uneven)).size.y = 33 ∧
      (arrange uneven ⟨0, -50⟩).placements.map (·.index) = [0, 1, 2, 3] ∧
      ∀ p ∈ (arrange uneven ⟨0, -50⟩).placements, Same p.position.y (-66.5) := by
  have hkept : keptLines (numbered 0 uneven) = [numbered 0 uneven] := rfl
  have hheight : (Pending.start.read (numbered 0 uneven)).size.y = 33 := by decide +kernel
  have hoffset : ∀ item ∈ numbered 0 uneven, item.2.offset.y = 0 := by
    simp [uneven, PartBox.plain, Point.zero]
  obtain ⟨-, hplaced, hlines⟩ := boxes_of_a_line_share_its_center uneven ⟨0, -50⟩
  simp only [hkept, withEarlier_cons, withEarlier_nil, List.map_nil, List.flatMap_cons,
    List.flatMap_nil, List.append_nil, List.forall_mem_singleton, List.foldl_nil] at hplaced hlines
  obtain ⟨hindices, -, hcenter, -⟩ := hlines
  refine ⟨hheight, ?_, fun p hp => ?_⟩
  · rw [hplaced, hindices]
    rfl
  · rw [hplaced] at hp
    obtain ⟨box, hbox, -, hsame⟩ := hcenter p hp
    have hcomputed : (-50 : Float32) - 33 / 2 + 0 = -66.5 := by decide
    rwa [hheight, hoffset _ hbox, hcomputed] at hsame

end Layout
end Overhead
