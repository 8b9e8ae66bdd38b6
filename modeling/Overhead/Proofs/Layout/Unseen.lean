import Overhead.Proofs.Layout.Room

/-!
# What a layout does not see

A box without room may have any size, and a box that is not drawn any offset. So boxes that keep
something old in these fields are placed like boxes that never had it.
-/

namespace Overhead

variable {α : Type}

/-- The box without its size if it takes no space, and without its offset if it is not drawn. -/
def PartBox.trimmed [Coordinate α] (box : PartBox α) : PartBox α :=
  let nowhere : Vec α := ⟨Coordinate.ofNat 0, Coordinate.ofNat 0⟩
  { box with
    size := if box.takesSpace then box.size else nowhere
    offset := if box.drawn then box.offset else nowhere }

namespace PartBox

variable [Coordinate α]

@[simp] theorem lineBreak_trimmed (box : PartBox α) : box.trimmed.lineBreak = box.lineBreak := rfl

@[simp] theorem takesSpace_trimmed (box : PartBox α) :
    box.trimmed.takesSpace = box.takesSpace := rfl

@[simp] theorem drawn_trimmed (box : PartBox α) : box.trimmed.drawn = box.drawn := rfl

theorem footprint_trimmed [Add α] {box : PartBox α} (h : box.takesSpace) :
    box.trimmed.footprint = box.footprint := by
  simp [footprint, trimmed, h]

theorem offset_trimmed {box : PartBox α} (h : box.drawn) : box.trimmed.offset = box.offset := by
  simp [trimmed, h]

/-- Of a hidden box without room only the padding is left. -/
theorem trimmed_setSize_of_hidden (box : PartBox α) (hvisible : box.visible = false)
    (hreserved : box.reserved = false) (size : Vec α) :
    ({ box with size := size } : PartBox α).trimmed = box.trimmed := by
  simp [trimmed, takesSpace, drawn, hvisible, hreserved]

theorem trimmed_setOffset_of_hidden (box : PartBox α) (hvisible : box.visible = false)
    (offset : Vec α) : ({ box with offset := offset } : PartBox α).trimmed = box.trimmed := by
  simp [trimmed, takesSpace, drawn, hvisible]

end PartBox

namespace Layout

variable [Add α] [Sub α] [Div α] [Coordinate α]

theorem arrange_map_trimmed (boxes : List (PartBox α)) (anchor : Vec α) :
    arrange (boxes.map (·.trimmed)) anchor = arrange boxes anchor := by
  have hindexed : boxes.map (·.trimmed) = boxes.mapIdx fun _ box => box.trimmed :=
    List.ext_getElem? fun index => by simp
  rw [hindexed]
  refine (arrange_eq_of_change _ (fun _ box => ?_) (fun _ box => ?_) anchor).symm
  · exact ⟨rfl, rfl, fun hspace => (PartBox.footprint_trimmed hspace).symm⟩
  · exact ⟨rfl, fun hdrawn => (PartBox.offset_trimmed hdrawn).symm⟩

end Layout
end Overhead
