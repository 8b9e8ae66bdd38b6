import Mathlib.Data.List.Forall2
import Mathlib.Data.List.Nodup
import Overhead.Proofs.Layout.Lines

/-!
# What a layout sees

Of a box a layout sees only whether it ends its line, whether it takes space, and how much. Whether
the box is drawn, and at which offset, makes a difference to the box alone. So boxes that leave the
others the same room have the same lines, and what both draw at the same offset stands at the same
place, in the last bit and for any coordinates.
-/

namespace Overhead

variable {α : Type}

namespace PartBox

structure SameRoom [Add α] (box other : PartBox α) : Prop where
  lineBreak : box.lineBreak = other.lineBreak
  takesSpace : box.takesSpace = other.takesSpace
  footprint : box.takesSpace → box.footprint = other.footprint

/-- Both boxes are drawn at the same offset, or neither is drawn. -/
structure SameDrawing (box other : PartBox α) : Prop where
  drawn : box.drawn = other.drawn
  offset : box.drawn → box.offset = other.offset

theorem SameRoom.refl [Add α] (box : PartBox α) : box.SameRoom box :=
  ⟨rfl, rfl, fun _ => rfl⟩

theorem SameDrawing.refl (box : PartBox α) : box.SameDrawing box :=
  ⟨rfl, fun _ => rfl⟩

/-- Shows or hides a box, if it keeps its room. -/
def shownAs (visible : Bool) (box : PartBox α) : PartBox α :=
  if box.reserved then { box with visible := visible } else box

/-- Gives a box another size, if it is hidden and keeps no room. -/
def resizedTo (size : Vec α) (box : PartBox α) : PartBox α :=
  if box.visible || box.reserved then box else { box with size := size }

theorem sameRoom_shownAs [Add α] (visible : Bool) (box : PartBox α) :
    box.SameRoom (box.shownAs visible) := by
  by_cases h : box.reserved
  · rw [shownAs, if_pos h]
    exact ⟨rfl, by simp [takesSpace, h], fun _ => rfl⟩
  · rw [shownAs, if_neg h]
    exact .refl box

theorem sameDrawing_shownAs {visible : Bool} {box : PartBox α}
    (h : box.reserved = false ∨ box.visible = visible) :
    box.SameDrawing (box.shownAs visible) := by
  have hsame : box.shownAs visible = box := by
    rcases h with hreserved | rfl
    · simp [shownAs, hreserved]
    · simp [shownAs]
  rw [hsame]
  exact .refl box

theorem sameRoom_resizedTo [Add α] (size : Vec α) (box : PartBox α) :
    box.SameRoom (box.resizedTo size) := by
  by_cases h : box.visible || box.reserved
  · rw [resizedTo, if_pos h]
    exact .refl box
  · rw [resizedTo, if_neg h]
    refine ⟨rfl, rfl, fun hspace => (h ?_).elim⟩
    exact (Bool.and_eq_true_iff.mp hspace).2

theorem sameDrawing_resizedTo (size : Vec α) (box : PartBox α) :
    box.SameDrawing (box.resizedTo size) := by
  unfold resizedTo
  split
  · exact .refl box
  · exact ⟨rfl, fun _ => rfl⟩

end PartBox

namespace Layout

/-- Two boxes with one index leave the same room, and if the index is watched, they are drawn the
same way. -/
structure Agree [Add α] (watched : Nat → Bool) (item other : Nat × PartBox α) : Prop where
  index : item.1 = other.1
  room : item.2.SameRoom other.2
  drawing : watched item.1 → item.2.SameDrawing other.2

structure Pending.Agree [Add α] (watched : Nat → Bool) (pending other : Pending α) : Prop where
  boxes : List.Forall₂ (Layout.Agree watched) pending.boxes other.boxes
  size : pending.size = other.size
  empty : pending.empty = other.empty

def watchedPlacements (watched : Nat → Bool) (placements : List (Placement α)) :
    List (Placement α) :=
  placements.filter fun placement => watched placement.index

section

variable [Add α] [Sub α] [Div α] [Coordinate α] {watched : Nat → Bool}

/-! ## Two passes side by side -/

/-- Along a line both passes are at the same edge, whatever either of them draws. -/
theorem watchedPlacements_placeFrom {line others : List (Nat × PartBox α)}
    (h : List.Forall₂ (Agree watched) line others) (y height x : α) :
    watchedPlacements watched (placeFrom y height x line) =
      watchedPlacements watched (placeFrom y height x others) := by
  induction h generalizing x with
  | nil => rfl
  | @cons item other line others hitem _ ih =>
      obtain ⟨index, box⟩ := item
      obtain ⟨index', box'⟩ := other
      obtain rfl : index = index' := hitem.index
      have hroom : box.SameRoom box' := hitem.room
      have hedge : (if box.takesSpace then x + box.footprint.x else x) =
          if box'.takesSpace then x + box'.footprint.x else x := by
        rw [← hroom.takesSpace]
        split
        · next hspace => rw [hroom.footprint hspace]
        · rfl
      have hrest := ih (if box'.takesSpace then x + box'.footprint.x else x)
      unfold watchedPlacements at hrest ⊢
      simp only [placeFrom, hedge]
      by_cases hwatched : watched index = true
      · have hdrawing : box.SameDrawing box' := hitem.drawing hwatched
        have hdrawn := hdrawing.drawn
        by_cases hbox : box.drawn
        · have hfootprint := hroom.footprint (PartBox.takesSpace_of_drawn hbox)
          simp [← hdrawn, hbox, hwatched, hfootprint, hdrawing.offset hbox, hrest]
        · simp [← hdrawn, hbox, hrest]
      · -- What is drawn here is not watched.
        by_cases hbox : box.drawn <;> by_cases hbox' : box'.drawn <;>
          simp [hbox, hbox', hwatched, hrest]

theorem Pending.Agree.place {pending other : Pending α} (h : pending.Agree watched other)
    (center y : α) :
    watchedPlacements watched (pending.place center y) =
      watchedPlacements watched (other.place center y) := by
  rw [Pending.place, Pending.place, h.size]
  exact watchedPlacements_placeFrom (List.rel_reverse h.boxes) _ _ _

omit [Sub α] [Div α] in
theorem Pending.Agree.push {pending other : Pending α} (h : pending.Agree watched other)
    {index : Nat} {box box' : PartBox α} (hbox : Layout.Agree watched (index, box) (index, box')) :
    (pending.push index box).Agree watched (other.push index box') := by
  have hroom := hbox.room
  refine ⟨.cons hbox h.boxes, ?_, ?_⟩
  · by_cases hspace : box.takesSpace
    · have hspace' : box'.takesSpace := hroom.takesSpace ▸ hspace
      simp [Pending.push, hspace, hspace', h.size, hroom.footprint hspace]
    · have hspace' : ¬ box'.takesSpace := hroom.takesSpace ▸ hspace
      simp [Pending.push, hspace, hspace', h.size]
  · simp [Pending.push, h.empty, hroom.takesSpace]

omit [Sub α] [Div α] in
theorem Pending.start_agree : (Pending.start : Pending α).Agree watched Pending.start :=
  ⟨.nil, rfl, rfl⟩

/-- Both passes end the same lines at the same boxes, though they may draw different ones. -/
theorem scan_agree (center y : α) (index : Nat) {pending other : Pending α}
    (hpending : pending.Agree watched other) {boxes others : List (PartBox α)}
    (h : List.Forall₂ (Agree watched) (numbered index boxes) (numbered index others)) :
    (scan center y index pending boxes).lines = (scan center y index other others).lines ∧
      watchedPlacements watched (scan center y index pending boxes).placements =
        watchedPlacements watched (scan center y index other others).placements := by
  induction boxes generalizing y index pending other others with
  | nil =>
      cases others with
      | cons box' others =>
          rw [numbered_cons] at h
          cases h
      | nil =>
          simp only [scan, hpending.empty]
          split
          · exact ⟨rfl, rfl⟩
          · exact ⟨rfl, hpending.place center y⟩
  | cons box boxes ih =>
      cases others with
      | nil =>
          rw [numbered_cons] at h
          cases h
      | cons box' others =>
          rw [numbered_cons, numbered_cons] at h
          obtain ⟨hbox, hrest⟩ := List.forall₂_cons.mp h
          have hbreak : box.lineBreak = box'.lineBreak := hbox.room.lineBreak
          simp only [scan, ← hbreak, ← hpending.empty, ← hpending.size]
          split
          · split
            · exact ih y (index + 1) Pending.start_agree hrest
            · obtain ⟨hlines, hplacements⟩ :=
                ih (y - pending.size.y) (index + 1) Pending.start_agree hrest
              have hplace := hpending.place center y
              unfold watchedPlacements at hplace hplacements ⊢
              simp [hlines, hplace, hplacements]
          · exact ih y (index + 1) (hpending.push hbox) hrest

/-- The lines of boxes, of which one knows whether each ends its line and whether it takes space. -/
def countLines (occupied : Bool) : List (Bool × Bool) → Nat
  | [] => occupied.toNat
  | (true, _) :: rest => occupied.toNat + countLines false rest
  | (false, takesSpace) :: rest => countLines (occupied || takesSpace) rest

theorem lines_scan (center y : α) (index : Nat) (pending : Pending α) (boxes : List (PartBox α)) :
    (scan center y index pending boxes).lines =
      countLines (!pending.empty) (boxes.map fun box => (box.lineBreak, box.takesSpace)) := by
  induction boxes generalizing y index pending with
  | nil => cases hempty : pending.empty <;> simp [scan, countLines, hempty]
  | cons box boxes ih =>
      have hstart : (Pending.start : Pending α).empty = true := rfl
      cases hbreak : box.lineBreak with
      | true =>
          cases hempty : pending.empty with
          | true => simp [scan, countLines, hbreak, hempty, ih, hstart]
          | false =>
              simp only [scan, countLines, List.map_cons, hbreak, hempty, ih, hstart]
              simp [Nat.add_comm]
      | false =>
          have hpush : (!(pending.push index box).empty) = (!pending.empty || box.takesSpace) := by
            simp [Pending.push]
          simp [scan, countLines, hbreak, ih, hpush]

theorem lines_arrange (boxes : List (PartBox α)) (anchor : Vec α) :
    (arrange boxes anchor).lines =
      countLines false (boxes.map fun box => (box.lineBreak, box.takesSpace)) :=
  lines_scan anchor.x anchor.y 0 Pending.start boxes

/-! ## Two layouts -/

/-- Boxes that agree index by index have the same lines, and watched indices the same places. -/
theorem arrange_agree (watched : Nat → Bool) {boxes others : List (PartBox α)}
    (hlength : boxes.length = others.length)
    (h : ∀ (index : Nat) (box other : PartBox α), boxes[index]? = some box →
      others[index]? = some other → Agree watched (index, box) (index, other))
    (anchor : Vec α) :
    (arrange boxes anchor).lines = (arrange others anchor).lines ∧
      watchedPlacements watched (arrange boxes anchor).placements =
        watchedPlacements watched (arrange others anchor).placements := by
  refine scan_agree anchor.x anchor.y 0 Pending.start_agree ?_
  refine List.forall₂_iff_get.mpr ⟨by simp [numbered, hlength], fun index hbox hother => ?_⟩
  have hbox' : index < boxes.length := by simpa [numbered] using hbox
  have hother' : index < others.length := by simpa [numbered] using hother
  have hagree := h index _ _ (List.getElem?_eq_getElem hbox') (List.getElem?_eq_getElem hother')
  simpa [numbered] using hagree

theorem lines_of_room {boxes others : List (PartBox α)} (hlength : boxes.length = others.length)
    (hroom : ∀ (index : Nat) (box other : PartBox α), boxes[index]? = some box →
      others[index]? = some other → box.SameRoom other)
    (anchor : Vec α) : (arrange boxes anchor).lines = (arrange others anchor).lines := by
  have hagree := arrange_agree (fun _ => false) hlength
    (fun index box other hbox hother => ⟨rfl, hroom index box other hbox hother, by simp⟩) anchor
  exact hagree.1

theorem exists_placement {boxes : List (PartBox α)} {index : Nat} {box : PartBox α}
    (hbox : boxes[index]? = some box) (hdrawn : box.drawn) (anchor : Vec α) :
    ∃ placement, watchedPlacements (· == index) (arrange boxes anchor).placements =
      [placement] := by
  have hmem := (mem_index_arrange boxes anchor index).mpr ⟨box, hbox, hdrawn⟩
  have hdistinct : ((arrange boxes anchor).placements.map (·.index)).Nodup :=
    (pairwise_index_arrange boxes anchor).imp Nat.ne_of_lt
  have hcount := List.count_eq_one_of_mem hdistinct hmem
  rw [List.count, List.countP_map, List.countP_eq_length_filter] at hcount
  exact List.length_eq_one_iff.mp hcount

/-- What two layouts share: every index that both draw at the same offset has one placement, the
same in both. -/
theorem exists_common_placement {boxes others : List (PartBox α)}
    (hlength : boxes.length = others.length)
    (hroom : ∀ (index : Nat) (box other : PartBox α), boxes[index]? = some box →
      others[index]? = some other → box.SameRoom other)
    (anchor : Vec α) {index : Nat} {box other : PartBox α} (hbox : boxes[index]? = some box)
    (hother : others[index]? = some other) (hdrawn : box.drawn) (hdrawn' : other.drawn)
    (hoffset : box.offset = other.offset) :
    ∃ placement, watchedPlacements (· == index) (arrange boxes anchor).placements = [placement] ∧
      watchedPlacements (· == index) (arrange others anchor).placements = [placement] := by
  have hagree : ∀ (index' : Nat) (box' other' : PartBox α), boxes[index']? = some box' →
      others[index']? = some other' → Agree (· == index) (index', box') (index', other') := by
    intro index' box' other' hbox' hother'
    refine ⟨rfl, hroom index' box' other' hbox' hother', fun hwatched => ?_⟩
    obtain rfl : index' = index := by simpa using hwatched
    obtain rfl : box' = box := Option.some.inj (hbox'.symm.trans hbox)
    obtain rfl : other' = other := Option.some.inj (hother'.symm.trans hother)
    exact ⟨hdrawn.trans hdrawn'.symm, fun _ => hoffset⟩
  obtain ⟨placement, hplacement⟩ := exists_placement hbox hdrawn anchor
  have hsame := (arrange_agree _ hlength hagree anchor).2
  exact ⟨placement, hplacement, hsame.symm.trans hplacement⟩

/-- Where a change keeps the room of every box, the lines stay, and so do the boxes whose drawing it
keeps. -/
theorem arrange_mapIdx_agree (watched : Nat → Bool) {boxes : List (PartBox α)}
    (change : Nat → PartBox α → PartBox α)
    (hroom : ∀ index box, PartBox.SameRoom box (change index box))
    (hdrawing : ∀ (index : Nat) (box : PartBox α), boxes[index]? = some box → watched index →
      box.SameDrawing (change index box))
    (anchor : Vec α) :
    (arrange boxes anchor).lines = (arrange (boxes.mapIdx change) anchor).lines ∧
      watchedPlacements watched (arrange boxes anchor).placements =
        watchedPlacements watched (arrange (boxes.mapIdx change) anchor).placements := by
  refine arrange_agree watched (by simp) (fun index box other hbox hother => ?_) anchor
  rw [List.getElem?_mapIdx, hbox, Option.map_some, Option.some.injEq] at hother
  exact hother ▸ ⟨rfl, hroom index box, hdrawing index box hbox⟩

/-- The box at one index stays where it is if a change keeps its drawing, and the room of all. -/
theorem placement_of_change {boxes : List (PartBox α)} (change : Nat → PartBox α → PartBox α)
    (hroom : ∀ index box, PartBox.SameRoom box (change index box)) (anchor : Vec α) {index : Nat}
    {box : PartBox α} (hbox : boxes[index]? = some box)
    (hdrawing : box.SameDrawing (change index box)) :
    (arrange boxes anchor).placements.filter (·.index == index) =
      (arrange (boxes.mapIdx change) anchor).placements.filter (·.index == index) := by
  refine (arrange_mapIdx_agree (· == index) change hroom
    (fun index' box' hbox' hwatched => ?_) anchor).2
  obtain rfl : index' = index := by simpa using hwatched
  obtain rfl : box' = box := Option.some.inj (hbox'.symm.trans hbox)
  exact hdrawing

/-- A change that keeps room and drawing of every box is not seen at all. -/
theorem arrange_eq_of_change {boxes : List (PartBox α)} (change : Nat → PartBox α → PartBox α)
    (hroom : ∀ index box, PartBox.SameRoom box (change index box))
    (hdrawing : ∀ index box, PartBox.SameDrawing box (change index box)) (anchor : Vec α) :
    arrange boxes anchor = arrange (boxes.mapIdx change) anchor := by
  obtain ⟨hlines, hplacements⟩ := arrange_mapIdx_agree (fun _ => true) change hroom
    (fun index box _ _ => hdrawing index box) anchor
  simp only [watchedPlacements, List.filter_true] at hplacements
  calc
    arrange boxes anchor = ⟨(arrange boxes anchor).lines, (arrange boxes anchor).placements⟩ := rfl
    _ = arrange (boxes.mapIdx change) anchor := by rw [hlines, hplacements]

theorem lines_of_change {boxes : List (PartBox α)} (change : Nat → PartBox α → PartBox α)
    (hroom : ∀ index box, PartBox.SameRoom box (change index box)) (anchor : Vec α) :
    (arrange boxes anchor).lines = (arrange (boxes.mapIdx change) anchor).lines :=
  (arrange_mapIdx_agree (fun _ => false) change hroom (by simp) anchor).1

/-- Boxes that ask for the same room at every index have the same lines, and an index that both draw
at the same offset has the same placement. So to show or hide boxes that keep their room moves no
other box, an offset moves only the box that has it, and a hidden box without room may have any
size. -/
theorem layouts_see_room_alone (boxes : List (PartBox α)) (anchor : Vec α) :
    (∀ others : List (PartBox α), boxes.length = others.length →
      (∀ (index : Nat) (box other : PartBox α), boxes[index]? = some box →
        others[index]? = some other →
          box.lineBreak = other.lineBreak ∧ box.takesSpace = other.takesSpace ∧
            (box.takesSpace → box.size + box.padding = other.size + other.padding)) →
      (arrange boxes anchor).lines = (arrange others anchor).lines ∧
        ∀ (index : Nat) (box other : PartBox α), boxes[index]? = some box →
          others[index]? = some other → box.visible → other.visible → box.lineBreak = false →
            box.offset = other.offset →
              ∃ placement,
                (arrange boxes anchor).placements.filter (·.index == index) = [placement] ∧
                (arrange others anchor).placements.filter (·.index == index) = [placement]) ∧
    (∀ shown : Nat → Bool,
      let others := boxes.mapIdx fun index box =>
        if box.reserved then { box with visible := shown index } else box
      (arrange boxes anchor).lines = (arrange others anchor).lines ∧
        ∀ (index : Nat) (box : PartBox α), boxes[index]? = some box →
          box.reserved = false ∨ box.visible = shown index →
            (arrange boxes anchor).placements.filter (·.index == index) =
              (arrange others anchor).placements.filter (·.index == index)) ∧
    (∀ offset : Nat → Vec α,
      let others := boxes.mapIdx fun index box => { box with offset := offset index }
      (arrange boxes anchor).lines = (arrange others anchor).lines ∧
        ∀ (index : Nat) (box : PartBox α), boxes[index]? = some box →
          box.offset = offset index →
            (arrange boxes anchor).placements.filter (·.index == index) =
              (arrange others anchor).placements.filter (·.index == index)) ∧
    ∀ size : Nat → Vec α,
      arrange boxes anchor =
        arrange
          (boxes.mapIdx fun index box =>
            if box.visible || box.reserved then box else { box with size := size index })
          anchor := by
  refine ⟨fun others hlength hagree => ?_, fun shown => ?_, fun offset => ?_, fun size => ?_⟩
  · have hroom : ∀ (index : Nat) (box other : PartBox α), boxes[index]? = some box →
        others[index]? = some other → box.SameRoom other := by
      intro index box other hbox hother
      obtain ⟨hbreak, hspace, hfootprint⟩ := hagree index box other hbox hother
      exact ⟨hbreak, hspace, hfootprint⟩
    refine ⟨lines_of_room hlength hroom anchor, ?_⟩
    intro index box other hbox hother hvisible hvisible' hbreak hoffset
    have hdrawn : box.drawn := by simp [PartBox.drawn, hvisible, hbreak]
    have hdrawn' : other.drawn := by
      have hbreak' := (hroom index box other hbox hother).lineBreak
      simp [PartBox.drawn, hvisible', ← hbreak', hbreak]
    exact exists_common_placement hlength hroom anchor hbox hother hdrawn hdrawn' hoffset
  · have hroom (index : Nat) (box : PartBox α) := box.sameRoom_shownAs (shown index)
    exact ⟨lines_of_change _ hroom anchor, fun index box hbox hkept =>
      placement_of_change _ hroom anchor hbox (PartBox.sameDrawing_shownAs hkept)⟩
  · have hroom (index : Nat) (box : PartBox α) :
        box.SameRoom { box with offset := offset index } := ⟨rfl, rfl, fun _ => rfl⟩
    exact ⟨lines_of_change _ hroom anchor, fun index box hbox hkept =>
      placement_of_change _ hroom anchor hbox ⟨rfl, fun _ => hkept⟩⟩
  · have hroom (index : Nat) (box : PartBox α) := box.sameRoom_resizedTo (size index)
    exact arrange_eq_of_change _ hroom
      (fun index box => box.sameDrawing_resizedTo (size index)) anchor

end

/-- A name and an arrow that keeps its room, and above them a text that is hidden. -/
def signs (arrowShown : Bool) (hiddenHeight : Float32) : List (PartBox Float32) :=
  [ { PartBox.plain with size := ⟨20, 20⟩ },
    { PartBox.plain with size := ⟨12, 12⟩, visible := arrowShown, reserved := true },
    PartBox.newLine,
    { PartBox.plain with size := ⟨40, hiddenHeight⟩, visible := false } ]

theorem signs_see_room_alone :
    (signs true 10).length = (signs false 30).length ∧
      (arrange (signs true 10) Point.zero).lines = (arrange (signs false 30) Point.zero).lines ∧
      ∃ placement,
        (arrange (signs true 10) Point.zero).placements.filter (·.index == 0) = [placement] ∧
        (arrange (signs false 30) Point.zero).placements.filter (·.index == 0) = [placement] := by
  have hlength : (signs true 10).length = (signs false 30).length := by simp [signs]
  have hroom : ∀ (index : Nat) (box other : PartBox Float32), (signs true 10)[index]? = some box →
      (signs false 30)[index]? = some other →
        box.lineBreak = other.lineBreak ∧ box.takesSpace = other.takesSpace ∧
          (box.takesSpace → box.size + box.padding = other.size + other.padding) := by
    intro index box other hbox hother
    rcases index with _ | _ | _ | _ | index
    all_goals simp only [signs, List.getElem?_cons_zero, List.getElem?_cons_succ, List.getElem?_nil,
      Option.some.injEq, reduceCtorEq] at hbox hother
    all_goals subst hbox hother
    all_goals simp [PartBox.takesSpace, PartBox.plain]
  obtain ⟨hlines, hplacements⟩ :=
    (layouts_see_room_alone (signs true 10) Point.zero).1 (signs false 30) hlength hroom
  let name : PartBox Float32 := { PartBox.plain with size := ⟨20, 20⟩ }
  exact ⟨hlength, hlines, hplacements 0 name name rfl rfl rfl rfl rfl rfl⟩

end Layout
end Overhead
