import Mathlib.Algebra.Order.Field.Rat
import Mathlib.Data.List.Pairwise
import Mathlib.Order.Bounds.Basic
import Mathlib.Tactic.Linarith
import Mathlib.Tactic.Ring
import Overhead.Geometry.Area
import Overhead.Proofs.Layout.Lines

/-!
# The room that a layout gives out

In exact arithmetic, and as long as no box that takes space has a negative size, a layout gives
every box a rectangle of its own. The boxes of a line fill it from its left end to its right one,
the lines stand on one another, and what is drawn stays in its place. So no two boxes are drawn over
each other, and nothing hangs below the anchor.
-/

namespace Overhead

/-! ## Exact coordinates -/

instance : Coordinate ℚ where
  ofNat n := n
  larger := max

theorem Coordinate.ofNat_two : (Coordinate.ofNat 2 : ℚ) = 2 := rfl

namespace Area

structure Within (inner outer : Area ℚ) : Prop where
  left : outer.left ≤ inner.left
  top : outer.top ≤ inner.top
  right : inner.right ≤ outer.right
  bottom : inner.bottom ≤ outer.bottom

/-- No point is inside of both areas, off their edges. -/
def Apart (a b : Area ℚ) : Prop :=
  ∀ x y : ℚ, ¬ ((a.left < x ∧ x < a.right ∧ a.top < y ∧ y < a.bottom) ∧
    b.left < x ∧ x < b.right ∧ b.top < y ∧ y < b.bottom)

theorem Apart.symm {a b : Area ℚ} (h : a.Apart b) : b.Apart a :=
  fun x y hboth => h x y ⟨hboth.2, hboth.1⟩

theorem apart_of_beside {a b : Area ℚ} (h : a.right ≤ b.left) : a.Apart b := by
  rintro x y ⟨⟨-, hright, -⟩, hleft, -⟩
  linarith

theorem apart_of_above {a b : Area ℚ} (h : b.bottom ≤ a.top) : a.Apart b := by
  rintro x y ⟨⟨-, -, htop, -⟩, -, -, -, hbottom⟩
  linarith

end Area

namespace Layout

/-! ## Intervals that fill another one -/

/-- Intervals that follow one another from `left` to `right`, with no gap and no overlap. -/
def Tiles : ℚ → ℚ → List (ℚ × ℚ) → Prop
  | left, right, [] => left = right
  | left, right, tile :: tiles => tile.1 = left ∧ tile.1 ≤ tile.2 ∧ Tiles tile.2 right tiles

theorem Tiles.le {left right : ℚ} {tiles : List (ℚ × ℚ)} (h : Tiles left right tiles) :
    left ≤ right := by
  induction tiles generalizing left with
  | nil => exact le_of_eq h
  | cons tile tiles ih =>
      obtain ⟨hstart, hwidth, hrest⟩ := h
      have hend := ih hrest
      linarith

theorem Tiles.within {left right : ℚ} {tiles : List (ℚ × ℚ)} (h : Tiles left right tiles)
    {tile : ℚ × ℚ} (htile : tile ∈ tiles) : left ≤ tile.1 ∧ tile.2 ≤ right := by
  induction tiles generalizing left with
  | nil => cases htile
  | cons first tiles ih =>
      obtain ⟨hstart, hwidth, hrest⟩ := h
      rcases List.mem_cons.mp htile with rfl | htile
      · exact ⟨le_of_eq hstart.symm, hrest.le⟩
      · obtain ⟨hleft, hright⟩ := ih hrest htile
        exact ⟨by linarith, hright⟩

theorem Tiles.pairwise {left right : ℚ} {tiles : List (ℚ × ℚ)} (h : Tiles left right tiles) :
    tiles.Pairwise fun tile later => tile.2 ≤ later.1 := by
  induction tiles generalizing left with
  | nil => exact .nil
  | cons tile tiles ih =>
      obtain ⟨-, -, hrest⟩ := h
      exact .cons (fun later hlater => (hrest.within hlater).1) (ih hrest)

/-! ## The boxes of a line -/

abbrev Line := List (Nat × PartBox ℚ)

def Upright (line : Line) : Prop :=
  ∀ item ∈ line, item.2.takesSpace → 0 ≤ item.2.footprint.x ∧ 0 ≤ item.2.footprint.y

def rooms : ℚ → Line → List (Nat × ℚ × ℚ)
  | _, [] => []
  | x, (index, box) :: line =>
      if box.takesSpace then
        (index, x, x + box.footprint.x) :: rooms (x + box.footprint.x) line
      else rooms x line

def lineArea (center y : ℚ) (line : Line) : Area ℚ :=
  { left := center - (extent line).x / 2
    top := y - (extent line).y
    right := center + (extent line).x / 2
    bottom := y }

/-- The rectangle of a box around the middle of its placement, its offset taken back. -/
def footprintArea (placement : Placement ℚ) (box : PartBox ℚ) : Area ℚ :=
  Area.around (placement.position - box.offset) box.footprint

theorem height_lineArea (center y : ℚ) (line : Line) :
    (lineArea center y line).height = (extent line).y := by
  show y - (y - (extent line).y) = _
  ring

theorem width_lineArea (center y : ℚ) (line : Line) :
    (lineArea center y line).width = (extent line).x := by
  show center + (extent line).x / 2 - (center - (extent line).x / 2) = _
  ring

theorem footprintArea_of_no_offset {box : PartBox ℚ} (h : box.offset = ⟨0, 0⟩)
    (placement : Placement ℚ) :
    footprintArea placement box = Area.around placement.position box.footprint := by
  have hposition : placement.position - box.offset = placement.position := by
    rw [h]
    show Vec.mk (placement.position.x - 0) (placement.position.y - 0) = placement.position
    simp
  rw [footprintArea, hposition]

theorem Upright.of_cons {item : Nat × PartBox ℚ} {line : Line} (h : Upright (item :: line)) :
    Upright line :=
  fun other hother => h other (List.mem_cons_of_mem _ hother)

/-- The intervals are as wide as the boxes that take space, in their order. -/
theorem map_rooms (x : ℚ) (line : Line) :
    (rooms x line).map (fun room => (room.1, room.2.2 - room.2.1)) =
      (line.filter (·.2.takesSpace)).map fun item => (item.1, item.2.footprint.x) := by
  induction line generalizing x with
  | nil => rfl
  | cons item line ih => by_cases h : item.2.takesSpace <;> simp [rooms, h, ih]

theorem width_eq_sum (line : Line) :
    (extent line).x = ((footprints line).map (·.x)).sum := by
  have hfold : ∀ (sizes : List (Vec ℚ)) (width : ℚ),
      sizes.foldl (fun width size => width + size.x) width = width + (sizes.map (·.x)).sum := by
    intro sizes
    induction sizes with
    | nil => simp
    | cons size sizes ih => simp [ih, add_assoc]
  calc
    (extent line).x = Coordinate.ofNat 0 + ((footprints line).map (·.x)).sum := hfold _ _
    _ = ((footprints line).map (·.x)).sum := zero_add _

theorem tiles_rooms {line : Line} (h : Upright line) (x : ℚ) :
    Tiles x (x + ((footprints line).map (·.x)).sum) ((rooms x line).map Prod.snd) := by
  induction line generalizing x with
  | nil => simp [Tiles, rooms]
  | cons item line ih =>
      obtain ⟨index, box⟩ := item
      by_cases hspace : box.takesSpace
      · have hwidth : 0 ≤ box.footprint.x := (h (index, box) List.mem_cons_self hspace).1
        have hrest := ih h.of_cons (x + box.footprint.x)
        rw [add_assoc] at hrest
        rw [footprints_cons_of_takesSpace (index, box) hspace]
        simpa [Tiles, rooms, hspace, hwidth] using hrest
      · have hrest := ih h.of_cons x
        rw [footprints_cons_of_not_takesSpace (index, box) (by simpa using hspace)]
        simpa [rooms, hspace] using hrest

theorem tiles_line {line : Line} (h : Upright line) (center y : ℚ) :
    Tiles (lineArea center y line).left (lineArea center y line).right
      ((rooms (lineArea center y line).left line).map Prod.snd) := by
  have htiles := tiles_rooms h (lineArea center y line).left
  have hend : (lineArea center y line).left + ((footprints line).map (·.x)).sum =
      (lineArea center y line).right := by
    rw [← width_eq_sum]
    simp only [lineArea]
    ring
  rwa [hend] at htiles

theorem le_foldl_max (heights : List ℚ) (start : ℚ) :
    start ≤ heights.foldl max start ∧ ∀ height ∈ heights, height ≤ heights.foldl max start := by
  induction heights generalizing start with
  | nil => simp
  | cons first heights ih =>
      obtain ⟨hstart, hheights⟩ := ih (max start first)
      have hfirst := le_max_right start first
      refine ⟨le_trans (le_max_left start first) hstart, fun height hheight => ?_⟩
      rcases List.mem_cons.mp hheight with rfl | hheight
      · exact le_trans hfirst hstart
      · exact hheights height hheight

theorem foldl_max_eq (heights : List ℚ) (start : ℚ) :
    heights.foldl max start = start ∨ heights.foldl max start ∈ heights := by
  induction heights generalizing start with
  | nil => exact Or.inl rfl
  | cons first heights ih =>
      rw [List.foldl_cons]
      rcases ih (max start first) with heq | hmem
      · rcases max_choice start first with hmax | hmax
        · exact Or.inl (heq.trans hmax)
        · exact Or.inr (List.mem_cons.mpr (Or.inl (heq.trans hmax)))
      · exact Or.inr (List.mem_cons_of_mem _ hmem)

/-- A line is as high as the highest box that takes space in it. -/
theorem isGreatest_height {line : Line} (h : Upright line) (hoccupied : occupied line) :
    IsGreatest {height | ∃ item ∈ line, item.2.takesSpace ∧ item.2.footprint.y = height}
      (extent line).y := by
  have hheight : (extent line).y = ((footprints line).map (·.y)).foldl max 0 := by
    rw [List.foldl_map]
    rfl
  have hmem : ∀ height, height ∈ (footprints line).map (·.y) ↔
      ∃ item ∈ line, item.2.takesSpace ∧ item.2.footprint.y = height := by
    intro height
    simp [footprints, and_assoc]
  obtain ⟨hzero, hheights⟩ := le_foldl_max ((footprints line).map (·.y)) 0
  rw [hheight]
  constructor
  · rcases foldl_max_eq ((footprints line).map (·.y)) 0 with heq | hattained
    · -- No box is higher than zero, and there is one.
      obtain ⟨item, hitem, hspace⟩ := List.any_eq_true.mp hoccupied
      have hhigh := hheights _ ((hmem _).mpr ⟨item, hitem, hspace, rfl⟩)
      refine ⟨item, hitem, hspace, le_antisymm hhigh ?_⟩
      rw [heq]
      exact (h item hitem hspace).2
    · exact (hmem _).mp hattained
  · rintro height hitem
    exact hheights height ((hmem height).mpr hitem)

/-- What is drawn in a line is drawn in its room, halfway up the line. -/
theorem room_of_placement {y height : ℚ} {placement : Placement ℚ} {x : ℚ} {line : Line}
    (h : placement ∈ placeFrom y height x line) :
    ∃ box, (placement.index, box) ∈ line ∧ box.drawn ∧
      (placement.index, (footprintArea placement box).left, (footprintArea placement box).right) ∈
        rooms x line ∧
      placement.position.y - box.offset.y = y - max height box.footprint.y / 2 := by
  induction line generalizing x with
  | nil => cases h
  | cons item line ih =>
      obtain ⟨index, box⟩ := item
      have hlater : placement ∈ placeFrom y height
          (if box.takesSpace then x + box.footprint.x else x) line →
          ∃ box', (placement.index, box') ∈ (index, box) :: line ∧ box'.drawn ∧
            (placement.index, (footprintArea placement box').left,
              (footprintArea placement box').right) ∈ rooms x ((index, box) :: line) ∧
            placement.position.y - box'.offset.y = y - max height box'.footprint.y / 2 := by
        intro hmem
        obtain ⟨box', hbox', hdrawn, hroom, hy⟩ := ih hmem
        refine ⟨box', List.mem_cons_of_mem _ hbox', hdrawn, ?_, hy⟩
        by_cases hspace : box.takesSpace
        · simp only [hspace, if_true] at hroom
          simp only [rooms, hspace, if_true]
          exact List.mem_cons_of_mem _ hroom
        · simpa [rooms, hspace] using hroom
      by_cases hdrawn : box.drawn
      · simp only [placeFrom, hdrawn, if_true] at h
        rcases List.mem_cons.mp h with rfl | h
        · have hspace : box.takesSpace := PartBox.takesSpace_of_drawn hdrawn
          refine ⟨box, List.mem_cons_self, hdrawn, ?_, ?_⟩
          · simp only [rooms, hspace, if_true, footprintArea, Area.around, Vec.sub_x,
              Coordinate.ofNat_two]
            refine List.mem_cons.mpr (Or.inl ?_)
            congr 2 <;> ring
          · show y - max height box.footprint.y / 2 + box.offset.y - box.offset.y = _
            ring
        · exact hlater h
      · simp only [placeFrom, hdrawn] at h
        exact hlater h

theorem within_line {center y : ℚ} {placement : Placement ℚ} {line : Line} (h : Upright line)
    (hoccupied : occupied line) (hplaced : placement ∈ linePlacements center y line) :
    ∃ box, (placement.index, box) ∈ line ∧ box.drawn ∧
      (placement.index, (footprintArea placement box).left, (footprintArea placement box).right) ∈
        rooms (lineArea center y line).left line ∧
      (footprintArea placement box).Within (lineArea center y line) := by
  rw [← placeLine_eq] at hplaced
  obtain ⟨box, hbox, hdrawn, hroom, hy⟩ := room_of_placement hplaced
  have hspace := PartBox.takesSpace_of_drawn hdrawn
  have hnonneg := (h _ hbox hspace).2
  have hheight : box.footprint.y ≤ (extent line).y :=
    (isGreatest_height h hoccupied).2 ⟨_, hbox, hspace, rfl⟩
  rw [max_eq_left hheight] at hy
  obtain ⟨hleft, hright⟩ := (tiles_line h center y).within (List.mem_map_of_mem hroom)
  refine ⟨box, hbox, hdrawn, hroom, hleft, ?_, hright, ?_⟩
  · show y - (extent line).y ≤
      placement.position.y - box.offset.y - box.footprint.y / Coordinate.ofNat 2
    rw [hy, Coordinate.ofNat_two]
    linarith
  · show placement.position.y - box.offset.y + box.footprint.y / Coordinate.ofNat 2 ≤ y
    rw [hy, Coordinate.ofNat_two]
    linarith

/-! ## The lines of a layout -/

/-- The heights that the lines stand on when they stack upwards from `y` on. -/
def standing : ℚ → List Line → List (ℚ × Line)
  | _, [] => []
  | y, line :: lines => (y, line) :: standing (y - (extent line).y) lines

def Stacked : ℚ → List (Area ℚ) → Prop
  | _, [] => True
  | y, area :: areas => area.bottom = y ∧ area.top ≤ area.bottom ∧ Stacked area.top areas

def Sturdy (lines : List Line) : Prop :=
  ∀ line ∈ lines, Upright line ∧ occupied line

theorem Sturdy.of_cons {line : Line} {lines : List Line} (h : Sturdy (line :: lines)) :
    Sturdy lines :=
  fun other hother => h other (List.mem_cons_of_mem _ hother)

theorem height_nonneg {line : Line} (h : Upright line) (hoccupied : occupied line) :
    0 ≤ (extent line).y := by
  obtain ⟨item, hitem, hspace, heq⟩ := (isGreatest_height h hoccupied).1
  rw [← heq]
  exact (h item hitem hspace).2

theorem map_snd_standing (y : ℚ) (lines : List Line) : (standing y lines).map Prod.snd = lines := by
  induction lines generalizing y with
  | nil => rfl
  | cons line lines ih => rw [standing, List.map_cons, ih]

theorem mem_of_mem_standing {y : ℚ} {lines : List Line} {line : ℚ × Line}
    (h : line ∈ standing y lines) : line.2 ∈ lines := by
  have hmem := List.mem_map_of_mem (f := Prod.snd) h
  rwa [map_snd_standing] at hmem

theorem stacked_standing {lines : List Line} (h : Sturdy lines) (center y : ℚ) :
    Stacked y ((standing y lines).map fun line => lineArea center line.1 line.2) := by
  induction lines generalizing y with
  | nil => trivial
  | cons line lines ih =>
      obtain ⟨hupright, hoccupied⟩ := h line List.mem_cons_self
      have hheight := height_nonneg hupright hoccupied
      refine ⟨rfl, ?_, ih h.of_cons _⟩
      show y - (extent line).y ≤ y
      linarith

theorem standing_le {lines : List Line} (h : Sturdy lines) {y : ℚ} {line : ℚ × Line}
    (hline : line ∈ standing y lines) : line.1 ≤ y := by
  induction lines generalizing y with
  | nil => cases hline
  | cons first lines ih =>
      obtain ⟨hupright, hoccupied⟩ := h first List.mem_cons_self
      have hheight := height_nonneg hupright hoccupied
      rcases List.mem_cons.mp hline with rfl | hline
      · exact le_refl y
      · have hlater := ih h.of_cons hline
        linarith

theorem pairwise_standing {lines : List Line} (h : Sturdy lines) (y : ℚ) :
    (standing y lines).Pairwise fun line above => above.1 ≤ line.1 - (extent line.2).y := by
  induction lines generalizing y with
  | nil => exact .nil
  | cons line lines ih =>
      exact .cons (fun above habove => standing_le h.of_cons habove) (ih h.of_cons _)

theorem exists_standing {center y : ℚ} {lines : List Line} {placement : Placement ℚ}
    (h : placement ∈ (stack center y lines).placements) :
    ∃ line ∈ standing y lines, placement ∈ linePlacements center line.1 line.2 := by
  induction lines generalizing y with
  | nil => cases h
  | cons line lines ih =>
      rw [stack_cons] at h
      rcases List.mem_append.mp h with hhere | habove
      · exact ⟨(y, line), List.mem_cons_self, hhere⟩
      · obtain ⟨above, hmem, hplaced⟩ := ih habove
        exact ⟨above, List.mem_cons_of_mem _ hmem, hplaced⟩

/-! ## Layouts -/

def linesOf (boxes : List (PartBox ℚ)) (anchor : Vec ℚ) : List (ℚ × Line) :=
  standing anchor.y (keptLines (numbered 0 boxes))

theorem sturdy_keptLines {boxes : List (PartBox ℚ)}
    (h : ∀ box ∈ boxes, box.takesSpace → 0 ≤ box.footprint.x ∧ 0 ≤ box.footprint.y) :
    Sturdy (keptLines (numbered 0 boxes)) := by
  intro line hline
  refine ⟨fun item hitem hspace => ?_, (List.mem_filter.mp hline).2⟩
  exact h item.2 (List.mem_of_getElem? (getElem?_of_mem_keptLines hline hitem).1) hspace

/-- What is drawn has a line of its own, and a room in it. -/
theorem exists_line_of_placement {boxes : List (PartBox ℚ)}
    (h : Sturdy (keptLines (numbered 0 boxes))) {anchor : Vec ℚ} {placement : Placement ℚ}
    (hplacement : placement ∈ (arrange boxes anchor).placements) :
    ∃ line ∈ linesOf boxes anchor, ∃ box, boxes[placement.index]? = some box ∧
      (placement.index, box) ∈ line.2 ∧
      (footprintArea placement box).Within (lineArea anchor.x line.1 line.2) ∧
      (placement.index, (footprintArea placement box).left,
        (footprintArea placement box).right) ∈
          rooms (lineArea anchor.x line.1 line.2).left line.2 := by
  rw [arrange_eq_byLines] at hplacement
  obtain ⟨line, hmem, hinline⟩ := exists_standing hplacement
  have hkept := mem_of_mem_standing hmem
  obtain ⟨hupright, hoccupied⟩ := h line.2 hkept
  obtain ⟨box, hbox, -, hroom, hwithin⟩ := within_line hupright hoccupied hinline
  exact ⟨line, hmem, box, (getElem?_of_mem_keptLines hkept hbox).1, hbox, hwithin, hroom⟩

theorem either_of_pairwise {β : Type} {R : β → β → Prop} {items : List β} (h : items.Pairwise R)
    {a b : β} (ha : a ∈ items) (hb : b ∈ items) (hne : a ≠ b) : R a b ∨ R b a := by
  have : Std.Symm fun a b => R a b ∨ R b a := ⟨fun _ _ => Or.symm⟩
  have hboth : items.Pairwise fun a b => R a b ∨ R b a := h.imp Or.inl
  exact hboth.forall ha hb hne

/-- Two rooms of one line lie beside each other, and two lines above each other. -/
theorem apart_of_standing {lines : List Line} (h : Sturdy lines) {center y : ℚ}
    {line other : ℚ × Line} (hline : line ∈ standing y lines) (hother : other ∈ standing y lines)
    {index index' : Nat} (hindex : index ≠ index') {a b : Area ℚ}
    (ha : (index, a.left, a.right) ∈ rooms (lineArea center line.1 line.2).left line.2)
    (hb : (index', b.left, b.right) ∈ rooms (lineArea center other.1 other.2).left other.2)
    (hain : a.Within (lineArea center line.1 line.2))
    (hbin : b.Within (lineArea center other.1 other.2)) : a.Apart b := by
  by_cases hsame : line = other
  · subst hsame
    have hupright : Upright line.2 := (h line.2 (mem_of_mem_standing hline)).1
    have hbeside := List.pairwise_map.mp (tiles_line hupright center line.1).pairwise
    rcases either_of_pairwise hbeside ha hb (by simp [hindex]) with hab | hba
    · exact Area.apart_of_beside hab
    · exact (Area.apart_of_beside hba).symm
  · have habove : ∀ {c d : Area ℚ} {lower upper : ℚ × Line},
        upper.1 ≤ lower.1 - (extent lower.2).y → c.Within (lineArea center lower.1 lower.2) →
          d.Within (lineArea center upper.1 upper.2) → c.Apart d := by
      intro c d lower upper hover hc hd
      exact Area.apart_of_above (le_trans hd.bottom (le_trans hover hc.top))
    rcases either_of_pairwise (pairwise_standing h y) hline hother hsame with hover | hunder
    · exact habove hover hain hbin
    · exact (habove hunder hbin hain).symm

/-- In exact arithmetic, and if no box that takes space has a negative size, the lines of a layout
stand on one another from the anchor upwards. Each is as high as its highest box, and its boxes fill
it around the anchor in their order. What is drawn lies in its line and, across, just in its room,
so no two boxes without an offset are drawn over each other. -/
theorem layouts_give_every_box_its_room {boxes : List (PartBox ℚ)}
    (h : ∀ box ∈ boxes, box.takesSpace → 0 ≤ (box.size + box.padding).x ∧
      0 ≤ (box.size + box.padding).y)
    (anchor : Vec ℚ) :
    let layout := arrange boxes anchor
    let lines := linesOf boxes anchor
    let area (line : ℚ × Line) := lineArea anchor.x line.1 line.2
    layout.lines = lines.length ∧
      lines.map Prod.snd = keptLines (numbered 0 boxes) ∧
      Stacked anchor.y (lines.map area) ∧
      (∀ line ∈ lines, (area line).bottom ≤ anchor.y ∧
        IsGreatest {height | ∃ item ∈ line.2, item.2.takesSpace ∧ item.2.footprint.y = height}
          (area line).height ∧
        (area line).width = ((footprints line.2).map (·.x)).sum ∧
        (area line).left = anchor.x - (area line).width / 2 ∧
        (area line).right = anchor.x + (area line).width / 2 ∧
        Tiles (area line).left (area line).right
          ((rooms (area line).left line.2).map Prod.snd) ∧
        (rooms (area line).left line.2).map (fun room => (room.1, room.2.2 - room.2.1)) =
          (line.2.filter (·.2.takesSpace)).map fun item => (item.1, item.2.footprint.x)) ∧
      (∀ (index : Nat) (box : PartBox ℚ), boxes[index]? = some box → box.visible →
        box.lineBreak = false → ∃ placement ∈ layout.placements, placement.index = index) ∧
      (∀ placement ∈ layout.placements, ∃ line ∈ lines, ∃ box,
        boxes[placement.index]? = some box ∧ (placement.index, box) ∈ line.2 ∧
          (footprintArea placement box).Within (area line) ∧
          (placement.index, (footprintArea placement box).left,
            (footprintArea placement box).right) ∈ rooms (area line).left line.2) ∧
      ∀ p ∈ layout.placements, ∀ q ∈ layout.placements, p.index ≠ q.index →
        ∀ box box' : PartBox ℚ, boxes[p.index]? = some box → boxes[q.index]? = some box' →
          box.offset = ⟨0, 0⟩ → box'.offset = ⟨0, 0⟩ →
            (Area.around p.position box.footprint).Apart
              (Area.around q.position box'.footprint) := by
  intro layout lines area
  have hsturdy : Sturdy (keptLines (numbered 0 boxes)) := sturdy_keptLines h
  have hkept : lines.map Prod.snd = keptLines (numbered 0 boxes) := map_snd_standing _ _
  refine ⟨?_, hkept, stacked_standing hsturdy anchor.x anchor.y, fun line hline => ?_,
    fun index box hbox hvisible hbreak => ?_,
    fun placement hplacement => exists_line_of_placement hsturdy hplacement, ?_⟩
  · have hlayout : layout = stack anchor.x anchor.y (keptLines (numbered 0 boxes)) :=
      arrange_eq_byLines boxes anchor
    rw [hlayout, ← hkept]
    exact List.length_map _
  · obtain ⟨hupright, hoccupied⟩ := hsturdy line.2 (mem_of_mem_standing hline)
    have hheight : (area line).height = (extent line.2).y := height_lineArea _ _ _
    have hwidth : (area line).width = (extent line.2).x := width_lineArea _ _ _
    rw [hheight, hwidth]
    exact ⟨standing_le hsturdy hline, isGreatest_height hupright hoccupied, width_eq_sum _,
      rfl, rfl, tiles_line hupright _ _, map_rooms _ _⟩
  · have hdrawn : box.drawn := by simp [PartBox.drawn, hvisible, hbreak]
    exact List.mem_map.mp ((mem_index_arrange boxes anchor index).mpr ⟨box, hbox, hdrawn⟩)
  · intro p hp q hq hne box box' hbox hbox' hoffset hoffset'
    obtain ⟨line, hline, pbox, hpbox, -, hpin, hproom⟩ := exists_line_of_placement hsturdy hp
    obtain ⟨other, hother, qbox, hqbox, -, hqin, hqroom⟩ := exists_line_of_placement hsturdy hq
    obtain rfl := Option.some.inj (hpbox.symm.trans hbox)
    obtain rfl := Option.some.inj (hqbox.symm.trans hbox')
    rw [← footprintArea_of_no_offset hoffset, ← footprintArea_of_no_offset hoffset']
    exact apart_of_standing hsturdy hline hother hne hproom hqroom hpin hqin

/-- A name beside an arrow that is hidden but keeps its room, and a clan above them. -/
def nameplate : List (PartBox ℚ) :=
  [ { size := ⟨60, 28⟩, padding := ⟨5, 5⟩, offset := ⟨0, 0⟩ },
    { size := ⟨20, 20⟩, padding := ⟨5, 5⟩, offset := ⟨0, 10⟩, visible := false, reserved := true },
    { size := ⟨0, 0⟩, padding := ⟨5, 5⟩, offset := ⟨0, 0⟩, visible := false, lineBreak := true },
    { size := ⟨40, 24⟩, padding := ⟨5, 5⟩, offset := ⟨0, 0⟩ } ]

theorem nameplate_gives_every_box_its_room :
    (∀ box ∈ nameplate, box.takesSpace → 0 ≤ (box.size + box.padding).x ∧
        0 ≤ (box.size + box.padding).y) ∧
      (arrange nameplate ⟨0, -50⟩).lines = 2 ∧
      (∃ name ∈ (arrange nameplate ⟨0, -50⟩).placements,
        ∃ clan ∈ (arrange nameplate ⟨0, -50⟩).placements, name.index = 0 ∧ clan.index = 3 ∧
          (Area.around name.position ⟨65, 33⟩).Apart (Area.around clan.position ⟨45, 29⟩)) ∧
      ∃ line ∈ linesOf nameplate ⟨0, -50⟩, lineArea 0 line.1 line.2 = ⟨-45, -83, 45, -50⟩ ∧
        Tiles (-45) 45 ((rooms (-45) line.2).map Prod.snd) := by
  have h : ∀ box ∈ nameplate, box.takesSpace → 0 ≤ (box.size + box.padding).x ∧
      0 ≤ (box.size + box.padding).y := by
    simp only [nameplate, List.forall_mem_cons, Vec.add_x, Vec.add_y]
    norm_num [PartBox.takesSpace]
  obtain ⟨hcount, -, -, hlines, hplaced, -, hapart⟩ := layouts_give_every_box_its_room h ⟨0, -50⟩
  refine ⟨h, hcount, ?_, ?_⟩
  · obtain ⟨name, hname, hindex⟩ := hplaced 0 _ rfl rfl rfl
    obtain ⟨clan, hclan, hindex'⟩ := hplaced 3 _ rfl rfl rfl
    have hroom := hapart name hname clan hclan (by simp [hindex, hindex']) _ _
      (by rw [hindex]; rfl) (by rw [hindex']; rfl) rfl rfl
    have hfootprint : (⟨60, 28⟩ : Vec ℚ) + ⟨5, 5⟩ = ⟨65, 33⟩ := by
      show Vec.mk (60 + 5 : ℚ) (28 + 5) = _
      norm_num
    have hfootprint' : (⟨40, 24⟩ : Vec ℚ) + ⟨5, 5⟩ = ⟨45, 29⟩ := by
      show Vec.mk (40 + 5 : ℚ) (24 + 5) = _
      norm_num
    simp only [PartBox.footprint, hfootprint, hfootprint'] at hroom
    exact ⟨name, hname, clan, hclan, hindex, hindex', hroom⟩
  · let line : ℚ × Line := (-50, (numbered 0 nameplate).take 2)
    have hline : line ∈ linesOf nameplate ⟨0, -50⟩ := List.mem_cons_self
    have hextent : extent line.2 = ⟨90, 33⟩ := by
      show Vec.mk ((0 : ℚ) + (60 + 5) + (20 + 5)) (max (max 0 (28 + 5)) (20 + 5)) = _
      norm_num
    have harea : lineArea 0 line.1 line.2 = ⟨-45, -83, 45, -50⟩ := by
      rw [lineArea, hextent]
      norm_num [line]
    obtain ⟨-, -, -, -, -, htiles, -⟩ := hlines line hline
    have hsame : lineArea (⟨0, -50⟩ : Vec ℚ).x line.1 line.2 = ⟨-45, -83, 45, -50⟩ := harea
    simp only [hsame] at htiles
    exact ⟨line, hline, harea, htiles⟩

end Layout
end Overhead
