import Mathlib.Data.List.Infix
import Overhead.Plate.Basic

/-!
# The lines of a layout

The layout reads its boxes once and places a line when it ends. Here the same layout is told line by
line: what the lines are, how large each one is, where it stands and where its boxes stand in it.
Every sum is taken from left to right, so that the two agree in the last bit for any coordinates.
-/

namespace Overhead

variable {α : Type}

theorem PartBox.takesSpace_of_drawn {box : PartBox α} (h : box.drawn) : box.takesSpace := by
  simp only [drawn, takesSpace, Bool.and_eq_true, Bool.or_eq_true] at h ⊢
  exact ⟨h.2, Or.inl h.1⟩

namespace Layout

/-! ## The layout line by line -/

def withEarlier {β : Type} (items : List β) : List (List β × β) :=
  items.inits.zip items

def numbered (first : Nat) (boxes : List (PartBox α)) : List (Nat × PartBox α) :=
  (boxes.zipIdx first).map Prod.swap

def occupied (line : List (Nat × PartBox α)) : Bool :=
  line.any (·.2.takesSpace)

/-- The boxes between the line breaks; lines in which no box takes space are left out. -/
def keptLines (boxes : List (Nat × PartBox α)) : List (List (Nat × PartBox α)) :=
  (boxes.splitOnP (·.2.lineBreak)).filter occupied

def footprints [Add α] (line : List (Nat × PartBox α)) : List (Vec α) :=
  (line.filter (·.2.takesSpace)).map (·.2.footprint)

section

variable [Add α] [Sub α] [Div α] [Coordinate α]

def extent (line : List (Nat × PartBox α)) : Vec α :=
  { x := (footprints line).foldl (fun width size => width + size.x) (Coordinate.ofNat 0)
    y := (footprints line).foldl (fun height size => Coordinate.larger height size.y)
      (Coordinate.ofNat 0) }

/-- Where a line stands: the heights of the earlier lines are taken away one after the other. -/
def baseline (y : α) (earlier : List (List (Nat × PartBox α))) : α :=
  earlier.foldl (fun y line => y - (extent line).y) y

def edge (start : α) (earlier : List (Nat × PartBox α)) : α :=
  (footprints earlier).foldl (fun x size => x + size.x) start

def placeBox (y height x : α) (item : Nat × PartBox α) : Option (Placement α) :=
  if item.2.drawn then
    let size := item.2.footprint
    some
      { index := item.1
        position :=
          { x := x + size.x / Coordinate.ofNat 2 + item.2.offset.x
            y := y - Coordinate.larger height size.y / Coordinate.ofNat 2 + item.2.offset.y } }
  else none

def linePlacements (center y : α) (line : List (Nat × PartBox α)) : List (Placement α) :=
  (withEarlier line).filterMap fun (earlier, item) =>
    placeBox y (extent line).y (edge (center - (extent line).x / Coordinate.ofNat 2) earlier) item

def stack (center y : α) (lines : List (List (Nat × PartBox α))) : Layout α :=
  { lines := lines.length
    placements := (withEarlier lines).flatMap fun (earlier, line) =>
      linePlacements center (baseline y earlier) line }

def byLines (boxes : List (PartBox α)) (anchor : Vec α) : Layout α :=
  stack anchor.x anchor.y (keptLines (numbered 0 boxes))

end

/-! ## Items and the items before them -/

@[simp] theorem withEarlier_nil {β : Type} : withEarlier ([] : List β) = [] := rfl

@[simp] theorem withEarlier_cons {β : Type} (item : β) (items : List β) :
    withEarlier (item :: items) =
      ([], item) :: (withEarlier items).map fun (earlier, later) => (item :: earlier, later) := by
  simp [withEarlier, List.zip_map_left, Prod.map]

@[simp] theorem numbered_nil (first : Nat) : numbered first ([] : List (PartBox α)) = [] := rfl

@[simp] theorem numbered_cons (first : Nat) (box : PartBox α) (boxes : List (PartBox α)) :
    numbered first (box :: boxes) = (first, box) :: numbered (first + 1) boxes := by
  simp [numbered]

/-! ## One line -/

section

variable [Add α]

@[simp] theorem footprints_nil : footprints ([] : List (Nat × PartBox α)) = [] := rfl

theorem footprints_cons_of_takesSpace (item : Nat × PartBox α) (h : item.2.takesSpace)
    (line : List (Nat × PartBox α)) :
    footprints (item :: line) = item.2.footprint :: footprints line := by
  simp [footprints, h]

theorem footprints_cons_of_not_takesSpace (item : Nat × PartBox α)
    (h : item.2.takesSpace = false) (line : List (Nat × PartBox α)) :
    footprints (item :: line) = footprints line := by
  simp [footprints, h]

theorem footprints_append (line more : List (Nat × PartBox α)) :
    footprints (line ++ more) = footprints line ++ footprints more := by
  simp [footprints]

end

section

variable [Add α] [Sub α] [Div α] [Coordinate α]

/-- Walking along a line places every box at the edge that the boxes before it leave. -/
theorem placeFrom_eq (y height x : α) (line : List (Nat × PartBox α)) :
    placeFrom y height x line =
      (withEarlier line).filterMap fun (earlier, item) =>
        placeBox y height (edge x earlier) item := by
  induction line generalizing x with
  | nil => rfl
  | cons item line ih =>
      have hedge : ∀ earlier, edge x (item :: earlier) =
          edge (if item.2.takesSpace then x + item.2.footprint.x else x) earlier := by
        intro earlier
        by_cases h : item.2.takesSpace
        · simp [edge, footprints_cons_of_takesSpace item h, h]
        · simp [edge, footprints_cons_of_not_takesSpace item (by simpa using h), h]
      have hrest : placeFrom y height
            (if item.2.takesSpace then x + item.2.footprint.x else x) line =
          ((withEarlier line).map fun (earlier, later) => (item :: earlier, later)).filterMap
            fun (earlier, item) => placeBox y height (edge x earlier) item := by
        simp only [ih, List.filterMap_map, Function.comp_def, hedge]
      rw [withEarlier_cons, List.filterMap_cons, ← hrest]
      by_cases h : item.2.drawn <;> simp [placeFrom, placeBox, edge, h]

theorem placeLine_eq (center y : α) (line : List (Nat × PartBox α)) :
    placeLine center y (extent line) line = linePlacements center y line :=
  placeFrom_eq y _ _ line

end

/-! ## The line that is being read -/

section

variable [Add α] [Coordinate α]

structure Pending.Exact (pending : Pending α) : Prop where
  size : pending.size = extent pending.boxes.reverse
  empty : pending.empty = !occupied pending.boxes.reverse

omit [Add α] in
@[simp] theorem Pending.start_boxes : (Pending.start : Pending α).boxes = [] := rfl

@[simp] theorem Pending.push_boxes (pending : Pending α) (index : Nat) (box : PartBox α) :
    (pending.push index box).boxes = (index, box) :: pending.boxes := rfl

theorem Pending.start_exact : (Pending.start : Pending α).Exact :=
  ⟨rfl, rfl⟩

theorem Pending.Exact.push {pending : Pending α} (h : pending.Exact) (index : Nat)
    (box : PartBox α) : (pending.push index box).Exact := by
  constructor
  · by_cases hb : box.takesSpace
    · simp [Pending.push, hb, extent, h.size, footprints_append,
        footprints_cons_of_takesSpace (index, box) hb]
    · have hb' : box.takesSpace = false := by simpa using hb
      simp [Pending.push, hb', extent, h.size, footprints_append,
        footprints_cons_of_not_takesSpace (index, box) hb']
  · have he : pending.empty = !pending.boxes.any (·.2.takesSpace) := by
      simpa [occupied] using h.empty
    simp [Pending.push, occupied, he]

def Pending.read (pending : Pending α) (line : List (Nat × PartBox α)) : Pending α :=
  line.foldl (fun pending item => pending.push item.1 item.2) pending

@[simp] theorem Pending.read_nil (pending : Pending α) : pending.read [] = pending := rfl

@[simp] theorem Pending.read_cons (pending : Pending α) (item : Nat × PartBox α)
    (line : List (Nat × PartBox α)) :
    pending.read (item :: line) = (pending.push item.1 item.2).read line := rfl

theorem Pending.read_boxes (pending : Pending α) (line : List (Nat × PartBox α)) :
    (pending.read line).boxes = line.reverse ++ pending.boxes := by
  induction line generalizing pending with
  | nil => rfl
  | cons item line ih => simp [ih]

theorem Pending.Exact.read {pending : Pending α} (h : pending.Exact)
    (line : List (Nat × PartBox α)) : (pending.read line).Exact := by
  induction line generalizing pending with
  | nil => exact h
  | cons item line ih => exact ih (h.push item.1 item.2)

theorem Pending.size_read_start (line : List (Nat × PartBox α)) :
    (Pending.start.read line).size = extent line := by
  rw [(Pending.start_exact.read line).size, Pending.read_boxes]
  simp

end

/-! ## All lines -/

section

variable [Add α] [Sub α] [Div α] [Coordinate α]

theorem Pending.Exact.place_eq {pending : Pending α} (h : pending.Exact) (center y : α) :
    pending.place center y = linePlacements center y pending.boxes.reverse := by
  rw [Pending.place, h.size, placeLine_eq]

theorem Pending.place_read_start (center y : α) (line : List (Nat × PartBox α)) :
    (Pending.start.read line).place center y = linePlacements center y line := by
  rw [(Pending.start_exact.read line).place_eq, Pending.read_boxes]
  simp

@[simp] theorem stack_nil (center y : α) :
    stack center y ([] : List (List (Nat × PartBox α))) = { lines := 0, placements := [] } := rfl

/-- The lines above a line start where it ends. -/
theorem stack_cons (center y : α) (line : List (Nat × PartBox α))
    (lines : List (List (Nat × PartBox α))) :
    stack center y (line :: lines) =
      let above := stack center (y - (extent line).y) lines
      { lines := above.lines + 1
        placements := linePlacements center y line ++ above.placements } := by
  simp [stack, baseline, List.flatMap_map]

/-- The scan keeps the boxes of the current line in reverse, as the cut with a prefix does. -/
theorem scan_eq_stack (center y : α) (index : Nat) {pending : Pending α} (h : pending.Exact)
    (boxes : List (PartBox α)) :
    scan center y index pending boxes =
      stack center y
        (((numbered index boxes).splitOnPPrepend (·.2.lineBreak) pending.boxes).filter
          occupied) := by
  induction boxes generalizing y index pending with
  | nil =>
      have he := h.empty
      by_cases ho : occupied pending.boxes.reverse
      · simp [scan, he, ho, stack_cons, h.place_eq]
      · simp [scan, he, ho]
  | cons box boxes ih =>
      have he := h.empty
      by_cases hb : box.lineBreak
      · -- A break starts a line of its own, from the heights below it on.
        have hnext : ∀ y, scan center y (index + 1) Pending.start boxes =
            stack center y
              (((numbered (index + 1) boxes).splitOnP (·.2.lineBreak)).filter occupied) :=
          fun y => ih y (index + 1) Pending.start_exact
        by_cases ho : occupied pending.boxes.reverse
        · simp [scan, hb, he, ho, List.splitOnPPrepend_cons_eq_if, stack_cons, h.place_eq, h.size,
            hnext]
        · simp [scan, hb, he, ho, List.splitOnPPrepend_cons_eq_if, hnext]
      · have hnext := ih y (index + 1) (h.push index box)
        simp [scan, hb, List.splitOnPPrepend_cons_eq_if, hnext]

theorem arrange_eq_byLines (boxes : List (PartBox α)) (anchor : Vec α) :
    arrange boxes anchor = byLines boxes anchor :=
  scan_eq_stack anchor.x anchor.y 0 Pending.start_exact boxes

end

/-! ## The indices of the placements -/

def drawnIndices (boxes : List (Nat × PartBox α)) : List Nat :=
  (boxes.filter (·.2.drawn)).map Prod.fst

theorem map_snd_withEarlier {β : Type} (items : List β) :
    (withEarlier items).map Prod.snd = items :=
  List.map_snd_zip (by simp)

theorem flatten_splitOnPPrepend {β : Type} (isBreak : β → Bool) (items before : List β) :
    (items.splitOnPPrepend isBreak before).flatten =
      before.reverse ++ items.filter (!isBreak ·) := by
  induction items generalizing before with
  | nil => simp
  | cons item items ih =>
      rw [List.splitOnPPrepend_cons_eq_if]
      by_cases h : isBreak item
      · simp [h, ← List.splitOnPPrepend_nil_right, ih]
      · simp [h, ih]

theorem flatten_splitOnP {β : Type} (isBreak : β → Bool) (items : List β) :
    (items.splitOnP isBreak).flatten = items.filter (!isBreak ·) :=
  flatten_splitOnPPrepend isBreak items []

/-- A line that is kept consists of boxes that are no breaks. -/
theorem getElem?_of_mem_keptLines {boxes : List (PartBox α)} {line : List (Nat × PartBox α)}
    (hline : line ∈ keptLines (numbered 0 boxes)) {item : Nat × PartBox α} (hitem : item ∈ line) :
    boxes[item.1]? = some item.2 ∧ item.2.lineBreak = false := by
  have hmem : item ∈ (numbered 0 boxes).filter (!·.2.lineBreak) := by
    rw [← flatten_splitOnP]
    exact List.mem_flatten_of_mem (List.mem_filter.mp hline).1 hitem
  obtain ⟨index, box⟩ := item
  simpa [numbered, List.mem_zipIdx_iff_getElem?] using List.mem_filter.mp hmem

/-- A line that is left out has nothing to draw, and a break is never drawn. -/
theorem flatMap_drawnIndices_keptLines (boxes : List (Nat × PartBox α)) :
    (keptLines boxes).flatMap drawnIndices = drawnIndices boxes := by
  have hunoccupied : ∀ lines : List (List (Nat × PartBox α)),
      (lines.filter occupied).flatMap drawnIndices = lines.flatMap drawnIndices := by
    intro lines
    induction lines with
    | nil => rfl
    | cons line lines ih =>
        by_cases h : occupied line
        · simp [h, ih]
        · have hline : drawnIndices line = [] := by
            simp only [drawnIndices, List.map_eq_nil_iff, List.filter_eq_nil_iff]
            intro item hitem hdrawn
            exact h (List.any_eq_true.mpr ⟨item, hitem, PartBox.takesSpace_of_drawn hdrawn⟩)
          simp [h, ih, hline]
  have hdrawn : (boxes.filter (!·.2.lineBreak)).filter (·.2.drawn) =
      boxes.filter (·.2.drawn) := by
    rw [List.filter_filter]
    refine List.filter_congr fun item _ => ?_
    rw [PartBox.drawn, Bool.and_assoc, Bool.and_self]
  calc
    (keptLines boxes).flatMap drawnIndices =
        (boxes.splitOnP (·.2.lineBreak)).flatMap drawnIndices := hunoccupied _
    _ = drawnIndices (boxes.splitOnP (·.2.lineBreak)).flatten := by
        rw [drawnIndices, List.filter_flatten, List.map_flatten, List.map_map]
        rfl
    _ = drawnIndices boxes := by
        rw [flatten_splitOnP, drawnIndices, hdrawn, drawnIndices]

section

variable [Add α] [Sub α] [Div α] [Coordinate α]

/-- What is placed in a line is one of its drawn boxes. -/
theorem exists_box_of_mem_linePlacements {center y : α} {line : List (Nat × PartBox α)}
    {placement : Placement α} (h : placement ∈ linePlacements center y line) :
    ∃ box, (placement.index, box) ∈ line ∧ box.drawn ∧
      placement.position.y =
        y - Coordinate.larger (extent line).y box.footprint.y / Coordinate.ofNat 2 +
          box.offset.y := by
  obtain ⟨⟨earlier, index, box⟩, hitem, hplaced⟩ := List.mem_filterMap.mp h
  have hline : (index, box) ∈ line := (List.of_mem_zip hitem).2
  by_cases hdrawn : box.drawn
  · simp only [placeBox, hdrawn, if_true, Option.some.injEq] at hplaced
    subst hplaced
    exact ⟨box, hline, hdrawn, rfl⟩
  · simp [placeBox, hdrawn] at hplaced

theorem map_index_linePlacements (center y : α) (line : List (Nat × PartBox α)) :
    (linePlacements center y line).map (·.index) = drawnIndices line := by
  have hplace : ∀ (y height x : α) (item : Nat × PartBox α),
      (placeBox y height x item).map (·.index) =
        Option.guard (fun _ => item.2.drawn) item.1 := by
    intro y height x item
    by_cases h : item.2.drawn <;> simp [placeBox, h]
  calc
    (linePlacements center y line).map (·.index) =
        ((withEarlier line).map Prod.snd).filterMap
          fun item => Option.guard (fun _ => item.2.drawn) item.1 := by
      simp only [linePlacements, List.map_filterMap, List.filterMap_map, hplace, Function.comp_def]
    _ = drawnIndices line := by
      rw [map_snd_withEarlier, drawnIndices, ← List.filterMap_eq_map, List.filterMap_filter]
      refine List.filterMap_congr fun item _ => ?_
      by_cases h : item.2.drawn <;> simp [h]

theorem map_index_arrange (boxes : List (PartBox α)) (anchor : Vec α) :
    (arrange boxes anchor).placements.map (·.index) = drawnIndices (numbered 0 boxes) := by
  rw [arrange_eq_byLines, ← flatMap_drawnIndices_keptLines]
  calc
    (byLines boxes anchor).placements.map (·.index) =
        ((withEarlier (keptLines (numbered 0 boxes))).map Prod.snd).flatMap drawnIndices := by
      simp only [byLines, stack, List.map_flatMap, List.flatMap_map, map_index_linePlacements]
    _ = (keptLines (numbered 0 boxes)).flatMap drawnIndices := by
      rw [map_snd_withEarlier]

theorem pairwise_index_arrange (boxes : List (PartBox α)) (anchor : Vec α) :
    ((arrange boxes anchor).placements.map (·.index)).Pairwise (· < ·) := by
  have hnumbers : (numbered 0 boxes).map Prod.fst = List.range' 0 boxes.length := by
    simp [numbered, Function.comp_def, List.zipIdx_map_snd]
  rw [map_index_arrange, drawnIndices]
  refine List.Pairwise.sublist (List.filter_sublist.map Prod.fst) ?_
  rw [hnumbers]
  exact List.pairwise_lt_range'

theorem mem_index_arrange (boxes : List (PartBox α)) (anchor : Vec α) (index : Nat) :
    index ∈ (arrange boxes anchor).placements.map (·.index) ↔
      ∃ box, boxes[index]? = some box ∧ box.drawn := by
  rw [map_index_arrange]
  simp [drawnIndices, numbered, List.mem_zipIdx_iff_getElem?]

end

/-! ## The layout of a plate -/

/-- Every layout is the one told line by line. Its indices rise and name exactly the visible boxes
that are no line breaks. A plate takes the layout over whatever it had placed before. -/
theorem layout_told_by_lines :
    (∀ (boxes : List (PartBox Float32)) (anchor : Point),
      arrange boxes anchor = byLines boxes anchor ∧
        ((arrange boxes anchor).placements.map (·.index)).Pairwise (· < ·) ∧
        ∀ index, index ∈ (arrange boxes anchor).placements.map (·.index) ↔
          ∃ box, boxes[index]? = some box ∧ box.visible ∧ ¬ box.lineBreak) ∧
    ∀ {σ : Type} [Canvas σ] (plate : Plate) (data : PlateData) (canvas : σ),
      let updated := (plate.update data canvas).1
      Layout.mk updated.lines updated.placements =
        byLines (updated.parts.map (·.box)) (data.position - ⟨0, Plate.clearance⟩) := by
  refine ⟨fun boxes anchor => ⟨arrange_eq_byLines boxes anchor,
    pairwise_index_arrange boxes anchor, fun index => ?_⟩, ?_⟩
  · rw [mem_index_arrange]
    simp [PartBox.drawn]
  · intro σ _ plate data canvas updated
    exact arrange_eq_byLines _ _

end Layout
end Overhead
