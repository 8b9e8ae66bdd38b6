import Mathlib.Data.List.Induction
import Overhead.Proofs.Layout.Lines

/-!
# Boxes that leave no trace

A box that takes no space leaves no gap, and a line break behind such boxes alone ends nothing. When
any of them are taken away, the lines that are kept hold the same boxes that take space, so all
others stand where they stood, in the last bit and for any coordinates; only their indices close up.
-/

namespace Overhead

variable {α : Type}

namespace Layout

/-! ## Boxes that are taken away -/

def remaining (removed : Nat → Bool) (boxes : List (PartBox α)) : List (PartBox α) :=
  ((numbered 0 boxes).filter fun item => !removed item.1).map Prod.snd

/-- The index of a box among the remaining ones: how many of the earlier indices remain. -/
def renumbered (removed : Nat → Bool) (index : Nat) : Nat :=
  (List.range index).countP fun earlier => !removed earlier

/-- The boxes that stand before an index in its line, the nearest one first. -/
def lineBefore (boxes : List (PartBox α)) (index : Nat) : List (PartBox α) :=
  (boxes.take index).reverse.takeWhile fun box => !box.lineBreak

/-- A line break leaves no trace if nothing takes space in the line that it ends, any other box if
it takes no space itself. -/
def Traceless (boxes : List (PartBox α)) (index : Nat) (box : PartBox α) : Prop :=
  if box.lineBreak then ∀ other ∈ lineBefore boxes index, other.takesSpace = false
  else box.takesSpace = false

theorem renumbered_succ (removed : Nat → Bool) (index : Nat) :
    renumbered removed (index + 1) =
      renumbered removed index + if removed index then 0 else 1 := by
  cases h : removed index <;> simp [renumbered, List.range_succ, h]

theorem renumbered_le_succ (removed : Nat → Bool) (index : Nat) :
    renumbered removed index ≤ renumbered removed (index + 1) := by
  rw [renumbered_succ]
  omega

/-- The remaining boxes keep their order. -/
theorem renumbered_lt {removed : Nat → Bool} {index later : Nat} (h : removed index = false)
    (hlater : index < later) : renumbered removed index < renumbered removed later := by
  induction later, hlater using Nat.le_induction with
  | base =>
      rw [renumbered_succ, h]
      exact Nat.lt_succ_self _
  | succ later _ ih => exact Nat.lt_of_lt_of_le ih (renumbered_le_succ removed later)

/-! ## Numbered boxes -/

theorem map_snd_numbered (first : Nat) (boxes : List (PartBox α)) :
    (numbered first boxes).map Prod.snd = boxes := by
  simp [numbered, Function.comp_def]

theorem map_fst_numbered (first : Nat) (boxes : List (PartBox α)) :
    (numbered first boxes).map Prod.fst = List.range' first boxes.length := by
  simp [numbered, Function.comp_def, List.zipIdx_map_snd]

theorem numbered_eq_append {boxes : List (PartBox α)} {before after : List (Nat × PartBox α)}
    {item : Nat × PartBox α} (h : numbered 0 boxes = before ++ item :: after) :
    boxes[item.1]? = some item.2 ∧ boxes.take item.1 = before.map Prod.snd := by
  have hboxes : boxes = before.map Prod.snd ++ item.2 :: after.map Prod.snd := by
    rw [← map_snd_numbered 0 boxes, h, List.map_append, List.map_cons]
  have hindices : List.range' 0 boxes.length =
      before.map Prod.fst ++ item.1 :: after.map Prod.fst := by
    rw [← map_fst_numbered, h, List.map_append, List.map_cons]
  have hindex : item.1 = before.length := by
    have hat := congrArg (·[before.length]?) hindices
    have hlt : before.length < boxes.length := by
      rw [hboxes]
      simp
    simpa [List.getElem?_range', hlt] using hat.symm
  rw [hindex]
  constructor
  · rw [hboxes]
    simp
  · rw [hboxes]
    simp

theorem numbered_remaining_from (removed : Nat → Bool) (first : Nat) (boxes : List (PartBox α)) :
    numbered (renumbered removed first)
        (((numbered first boxes).filter fun item => !removed item.1).map Prod.snd) =
      ((numbered first boxes).filter fun item => !removed item.1).map
        (Prod.map (renumbered removed) id) := by
  induction boxes generalizing first with
  | nil => rfl
  | cons box boxes ih =>
      have hnext := ih (first + 1)
      rw [renumbered_succ] at hnext
      cases h : removed first with
      | true => simpa [h] using hnext
      | false => simpa [h] using hnext

theorem numbered_remaining (removed : Nat → Bool) (boxes : List (PartBox α)) :
    numbered 0 (remaining removed boxes) =
      ((numbered 0 boxes).filter fun item => !removed item.1).map
        (Prod.map (renumbered removed) id) :=
  numbered_remaining_from removed 0 boxes

theorem getElem?_remaining {removed : Nat → Bool} {boxes : List (PartBox α)} {index : Nat}
    {box : PartBox α} (hbox : boxes[index]? = some box) (hkept : removed index = false) :
    (remaining removed boxes)[renumbered removed index]? = some box := by
  have hmem : (index, box) ∈ (numbered 0 boxes).filter fun item => !removed item.1 := by
    simp [numbered, List.mem_zipIdx_iff_getElem?, hbox, hkept]
  have hmem' := List.mem_map_of_mem (f := Prod.map (renumbered removed) id) hmem
  rw [← numbered_remaining] at hmem'
  simpa [numbered, List.mem_zipIdx_iff_getElem?] using hmem'

/-! ## Other indices for the same boxes -/

def reindexed (number : Nat → Nat) (layout : Layout α) : Layout α :=
  { layout with
    placements := layout.placements.map fun placement =>
      { placement with index := number placement.index } }

theorem splitOnPPrepend_map_index (number : Nat → Nat) (boxes before : List (Nat × PartBox α)) :
    (boxes.map (Prod.map number id)).splitOnPPrepend (·.2.lineBreak)
        (before.map (Prod.map number id)) =
      (boxes.splitOnPPrepend (·.2.lineBreak) before).map (·.map (Prod.map number id)) := by
  induction boxes generalizing before with
  | nil => simp
  | cons item boxes ih =>
      rw [List.map_cons, List.splitOnPPrepend_cons_eq_if, List.splitOnPPrepend_cons_eq_if]
      by_cases h : item.2.lineBreak
      · simpa [h] using ih []
      · simpa [h] using ih (item :: before)

theorem keptLines_map_index (number : Nat → Nat) (boxes : List (Nat × PartBox α)) :
    keptLines (boxes.map (Prod.map number id)) =
      (keptLines boxes).map (·.map (Prod.map number id)) := by
  have hsplit := splitOnPPrepend_map_index number boxes []
  rw [List.map_nil, List.splitOnPPrepend_nil_right, List.splitOnPPrepend_nil_right] at hsplit
  have hoccupied : ∀ line : List (Nat × PartBox α),
      occupied (line.map (Prod.map number id)) = occupied line := by
    intro line
    simp [occupied, Function.comp_def]
  rw [keptLines, keptLines, hsplit, List.filter_map]
  simp only [Function.comp_def, hoccupied]

section

variable [Add α] [Sub α] [Div α] [Coordinate α]

omit [Sub α] [Div α] in
theorem extent_map_index (number : Nat → Nat) (line : List (Nat × PartBox α)) :
    extent (line.map (Prod.map number id)) = extent line := by
  have hfootprints : footprints (line.map (Prod.map number id)) = footprints line := by
    simp [footprints, List.filter_map, Function.comp_def]
  simp only [extent, hfootprints]

theorem placeFrom_map_index (number : Nat → Nat) (y height x : α)
    (line : List (Nat × PartBox α)) :
    placeFrom y height x (line.map (Prod.map number id)) =
      (placeFrom y height x line).map fun placement =>
        { placement with index := number placement.index } := by
  induction line generalizing x with
  | nil => rfl
  | cons item line ih => by_cases h : item.2.drawn <;> simp [placeFrom, h, ih]

theorem stack_map_index (number : Nat → Nat) (center y : α)
    (lines : List (List (Nat × PartBox α))) :
    stack center y (lines.map (·.map (Prod.map number id))) =
      (stack center y lines).reindexed number := by
  induction lines generalizing y with
  | nil => rfl
  | cons line lines ih =>
      rw [List.map_cons, stack_cons, stack_cons, extent_map_index, ih, ← placeLine_eq,
        ← placeLine_eq, extent_map_index, placeLine, placeLine, placeFrom_map_index]
      simp [reindexed]

/-! ## The boxes that take space -/

def spaced (line : List (Nat × PartBox α)) : List (Nat × PartBox α) :=
  line.filter (·.2.takesSpace)

omit [Sub α] [Div α] in
theorem extent_spaced (line : List (Nat × PartBox α)) : extent (spaced line) = extent line := by
  have hfootprints : footprints (spaced line) = footprints line := by
    simp [footprints, spaced]
  simp only [extent, hfootprints]

/-- What takes no space is not drawn and moves nothing. -/
theorem placeFrom_spaced (y height x : α) (line : List (Nat × PartBox α)) :
    placeFrom y height x (spaced line) = placeFrom y height x line := by
  induction line generalizing x with
  | nil => rfl
  | cons item line ih =>
      unfold spaced at ih ⊢
      by_cases h : item.2.takesSpace
      · simp [placeFrom, h, ih]
      · have hhidden : ¬ item.2.drawn := fun hdrawn => h (PartBox.takesSpace_of_drawn hdrawn)
        simp [placeFrom, h, hhidden, ih]

theorem stack_map_spaced (center y : α) (lines : List (List (Nat × PartBox α))) :
    stack center y (lines.map spaced) = stack center y lines := by
  induction lines generalizing y with
  | nil => rfl
  | cons line lines ih =>
      rw [List.map_cons, stack_cons, stack_cons, extent_spaced, ih, ← placeLine_eq,
        ← placeLine_eq, extent_spaced, placeLine, placeLine, placeFrom_spaced]

end

/-! ## Reading lines of boxes that take space -/

structure Gathered (α : Type) where
  lines : List (List (Nat × PartBox α)) := []
  line : List (Nat × PartBox α) := []

namespace Gathered

/-- Reads one more box. A line without boxes is not ended. -/
def add (gathered : Gathered α) (item : Nat × PartBox α) : Gathered α :=
  if item.2.lineBreak then
    if gathered.line.isEmpty then gathered
    else { lines := gathered.lines ++ [gathered.line] }
  else if item.2.takesSpace then { gathered with line := gathered.line ++ [item] }
  else gathered

def all (gathered : Gathered α) : List (List (Nat × PartBox α)) :=
  if gathered.line.isEmpty then gathered.lines else gathered.lines ++ [gathered.line]

end Gathered

theorem isEmpty_spaced (line : List (Nat × PartBox α)) :
    (spaced line).isEmpty = !occupied line := by
  rw [Bool.eq_iff_iff, List.isEmpty_iff, spaced, List.filter_eq_nil_iff, Bool.not_eq_true',
    occupied, List.any_eq_false]

/-- Reading on after some lines, and the boxes `before` of another, in reverse. -/
theorem all_foldl_add (lines : List (List (Nat × PartBox α)))
    (boxes before : List (Nat × PartBox α)) :
    (boxes.foldl Gathered.add { lines := lines, line := spaced before.reverse }).all =
      lines ++ ((boxes.splitOnPPrepend (·.2.lineBreak) before).filter occupied).map spaced := by
  induction boxes generalizing lines before with
  | nil =>
      cases h : occupied before.reverse <;>
        simp [Gathered.all, isEmpty_spaced, h]
  | cons item boxes ih =>
      rw [List.foldl_cons, List.splitOnPPrepend_cons_eq_if]
      by_cases hbreak : item.2.lineBreak
      · have hnext : ∀ lines, (boxes.foldl Gathered.add { lines := lines }).all =
            lines ++ ((boxes.splitOnP (·.2.lineBreak)).filter occupied).map spaced :=
          fun lines => ih lines []
        cases h : occupied before.reverse with
        | true =>
            have hadd : Gathered.add { lines := lines, line := spaced before.reverse } item =
                { lines := lines ++ [spaced before.reverse], line := [] } := by
              simp [Gathered.add, hbreak, isEmpty_spaced, h]
            rw [hadd]
            simpa [hbreak, h] using hnext (lines ++ [spaced before.reverse])
        | false =>
            have hadd : Gathered.add { lines := lines, line := spaced before.reverse } item =
                { lines := lines, line := [] } := by
              have hnil : spaced before.reverse = [] := by
                rw [← List.isEmpty_iff, isEmpty_spaced, h]
                rfl
              simp [Gathered.add, hbreak, hnil]
            rw [hadd]
            simpa [hbreak, h] using hnext lines
      · have hadd : Gathered.add { lines := lines, line := spaced before.reverse } item =
            { lines := lines, line := spaced (item :: before).reverse } := by
          by_cases hspace : item.2.takesSpace <;>
            simp [Gathered.add, hbreak, hspace, spaced]
        rw [hadd]
        simpa [hbreak] using ih lines (item :: before)

theorem map_spaced_keptLines (boxes : List (Nat × PartBox α)) :
    (keptLines boxes).map spaced = (boxes.foldl Gathered.add {}).all := by
  have hread := all_foldl_add [] boxes []
  rw [List.splitOnPPrepend_nil_right, List.nil_append] at hread
  exact hread.symm

/-- The line that is being read holds what takes space since the last line break. -/
theorem line_foldl_add (boxes : List (Nat × PartBox α)) :
    (boxes.foldl Gathered.add {}).line =
      spaced (boxes.reverse.takeWhile (!·.2.lineBreak)).reverse := by
  induction boxes using List.reverseRecOn with
  | nil => rfl
  | append_singleton boxes item ih =>
      rw [List.foldl_append, List.foldl_cons, List.foldl_nil, List.reverse_append,
        List.reverse_singleton, List.singleton_append]
      by_cases hbreak : item.2.lineBreak
      · by_cases hempty : (boxes.foldl Gathered.add {}).line.isEmpty
        · simp only [Gathered.add, hbreak, hempty, if_true]
          simpa [hbreak, spaced] using hempty
        · simp [Gathered.add, hbreak, hempty, spaced]
      · by_cases hspace : item.2.takesSpace
        · simp [Gathered.add, hbreak, hspace, ih, spaced]
        · simp [Gathered.add, hbreak, hspace, ih, spaced]

/-- Items that the reading ignores where they stand may be left out. -/
theorem foldl_filter_of_ignored {σ β : Type} (step : σ → β → σ) (start : σ) (kept : β → Bool)
    {items : List β}
    (h : ∀ before item after, items = before ++ item :: after → kept item = false →
      step (before.foldl step start) item = before.foldl step start) :
    (items.filter kept).foldl step start = items.foldl step start := by
  induction items using List.reverseRecOn with
  | nil => rfl
  | append_singleton items last ih =>
      have hitems : (items.filter kept).foldl step start = items.foldl step start := by
        refine ih fun before item after heq hkept => h before item (after ++ [last]) ?_ hkept
        rw [heq, List.append_assoc, List.cons_append]
      rw [List.filter_append, List.foldl_append, List.foldl_append, hitems]
      cases hlast : kept last with
      | true => simp [hlast]
      | false => simp [hlast, h items last [] rfl hlast]

/-! ## Layouts without the boxes that leave no trace -/

/-- Where a box leaves no trace, the reading ignores it. -/
theorem Traceless.add_eq {boxes : List (PartBox α)} {before after : List (Nat × PartBox α)}
    {item : Nat × PartBox α} (h : Traceless boxes item.1 item.2)
    (hitem : numbered 0 boxes = before ++ item :: after) :
    (before.foldl Gathered.add {}).add item = before.foldl Gathered.add {} := by
  unfold Traceless at h
  by_cases hbreak : item.2.lineBreak
  · rw [if_pos hbreak, lineBefore, (numbered_eq_append hitem).2, ← List.map_reverse,
      List.takeWhile_map] at h
    have hline : (before.foldl Gathered.add {}).line = [] := by
      rw [line_foldl_add, spaced, List.filter_eq_nil_iff]
      intro other hother
      have hfree := h other.2 (List.mem_map_of_mem (List.mem_reverse.mp hother))
      simp [hfree]
    simp [Gathered.add, hbreak, hline]
  · rw [if_neg hbreak] at h
    simp [Gathered.add, hbreak, h]

section

variable [Add α] [Sub α] [Div α] [Coordinate α]

theorem arrange_remaining {removed : Nat → Bool} {boxes : List (PartBox α)}
    (h : ∀ (index : Nat) (box : PartBox α), boxes[index]? = some box → removed index →
      Traceless boxes index box)
    (anchor : Vec α) :
    arrange (remaining removed boxes) anchor =
      (arrange boxes anchor).reindexed (renumbered removed) := by
  let left := (numbered 0 boxes).filter fun item => !removed item.1
  have hread : left.foldl Gathered.add {} = (numbered 0 boxes).foldl Gathered.add {} := by
    refine foldl_filter_of_ignored _ _ _ fun before item after hitem hremoved => ?_
    have hbox := (numbered_eq_append hitem).1
    exact (h item.1 item.2 hbox (by simpa using hremoved)).add_eq hitem
  have hlines : (keptLines left).map spaced = (keptLines (numbered 0 boxes)).map spaced := by
    rw [map_spaced_keptLines, map_spaced_keptLines, hread]
  calc
    arrange (remaining removed boxes) anchor =
        stack anchor.x anchor.y (keptLines (left.map (Prod.map (renumbered removed) id))) := by
      rw [arrange_eq_byLines, byLines, numbered_remaining]
    _ = (stack anchor.x anchor.y (keptLines left)).reindexed (renumbered removed) := by
      rw [keptLines_map_index, stack_map_index]
    _ = (stack anchor.x anchor.y (keptLines (numbered 0 boxes))).reindexed
          (renumbered removed) := by
      rw [← stack_map_spaced, hlines, stack_map_spaced]
    _ = (arrange boxes anchor).reindexed (renumbered removed) := by
      rw [arrange_eq_byLines, byLines]

/-- Boxes that leave no trace may be taken away, any number of them at once. The lines stay as many,
every placement stays where it is, and its box keeps its rank among the boxes that remain. -/
theorem layouts_close_up_without_trace {removed : Nat → Bool} {boxes : List (PartBox α)}
    (h : ∀ (index : Nat) (box : PartBox α), boxes[index]? = some box → removed index →
      Traceless boxes index box)
    (anchor : Vec α) :
    let before := arrange boxes anchor
    let after := arrange (remaining removed boxes) anchor
    after.lines = before.lines ∧
      after.placements.map (·.position) = before.placements.map (·.position) ∧
      after.placements.map (·.index) =
        before.placements.map (fun placement => renumbered removed placement.index) ∧
      (∀ placement ∈ before.placements, removed placement.index = false) ∧
      (∀ (index : Nat) (box : PartBox α), boxes[index]? = some box → removed index = false →
        (remaining removed boxes)[renumbered removed index]? = some box) ∧
      ∀ index later, removed index = false → index < later →
        renumbered removed index < renumbered removed later := by
  intro before after
  have hafter : after = before.reindexed (renumbered removed) := arrange_remaining h anchor
  refine ⟨?_, ?_, ?_, fun placement hplacement => ?_, fun index box => getElem?_remaining,
    fun index later => renumbered_lt⟩
  · rw [hafter, reindexed]
  · simp [hafter, reindexed]
  · simp [hafter, reindexed]
  · obtain ⟨box, hbox, hdrawn⟩ :=
      (mem_index_arrange boxes anchor placement.index).mp (List.mem_map_of_mem hplacement)
    refine Bool.eq_false_iff.mpr fun hremoved => ?_
    have htrace := h placement.index box hbox hremoved
    have hbreak : box.lineBreak = false := by simpa using (Bool.and_eq_true_iff.mp hdrawn).2
    rw [Traceless, hbreak, if_neg Bool.false_ne_true, PartBox.takesSpace_of_drawn hdrawn] at htrace
    cases htrace

end

def padded : List (PartBox Float32) :=
  [ { PartBox.plain with size := ⟨40, 20⟩, visible := false },
    PartBox.newLine,
    { PartBox.plain with size := ⟨60, 28⟩ },
    PartBox.newLine,
    { PartBox.plain with size := ⟨40, 20⟩, visible := false },
    PartBox.newLine,
    PartBox.newLine,
    { PartBox.plain with size := ⟨50, 24⟩ } ]

theorem padded_closes_up :
    let removed : Nat → Bool := fun index => index ∈ [0, 1, 5, 6]
    let clan : PartBox Float32 := { PartBox.plain with size := ⟨50, 24⟩ }
    (∀ (index : Nat) (box : PartBox Float32), padded[index]? = some box → removed index →
        Traceless padded index box) ∧
      (remaining removed padded).length = 4 ∧
      (arrange (remaining removed padded) Point.zero).lines = (arrange padded Point.zero).lines ∧
      (arrange (remaining removed padded) Point.zero).placements.map (·.position) =
        (arrange padded Point.zero).placements.map (·.position) ∧
      (remaining removed padded)[3]? = some clan := by
  intro removed clan
  have h : ∀ (index : Nat) (box : PartBox Float32), padded[index]? = some box → removed index →
      Traceless padded index box := by
    intro index box hbox hremoved
    have hindex : index ∈ [0, 1, 5, 6] := of_decide_eq_true hremoved
    simp only [List.mem_cons, List.not_mem_nil, or_false] at hindex
    rcases hindex with rfl | rfl | rfl | rfl
    all_goals
      obtain rfl := Option.some.inj hbox
      simp [Traceless, lineBefore, padded, PartBox.plain, PartBox.newLine, PartBox.takesSpace]
  obtain ⟨hlines, hpositions, -, -, hboxes, -⟩ := layouts_close_up_without_trace h Point.zero
  exact ⟨h, rfl, hlines, hpositions, hboxes 7 clan rfl rfl⟩

end Layout
end Overhead
