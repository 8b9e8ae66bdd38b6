import Mathlib.Analysis.Real.Sqrt
import Mathlib.Tactic.FieldSimp
import Mathlib.Tactic.Linarith
import Mathlib.Tactic.Ring
import Overhead.Geometry.Interface

/-!
# One mapping to the viewport

In exact arithmetic the reference screen keeps the ratio of its viewport through both limits, and the
second limit does not undo the first. So a unit of the world is as wide as it is high in the viewport:
a mapping with one scale for each direction and a mapping with the vertical scale alone are the same,
and it takes the corners of the screen to the corners of the viewport.
-/

namespace Overhead

/-! ## Exact coordinates -/

/-- An ordered field in which positive numbers have roots, and nothing is rounded. -/
class Measure.Exact (K : Type) [Field K] [LinearOrder K] [Measure K] : Prop where
  ofNat_eq (n : Nat) : (Coordinate.ofNat n : K) = n
  below_iff (a b : K) : Measure.below a b ↔ a < b
  usable_iff (a : K) : Measure.usable a ↔ 0 < a
  sqrt_pos {a : K} : 0 < a → 0 < Measure.sqrt a
  sqrt_mul_self {a : K} : 0 < a → Measure.sqrt a * Measure.sqrt a = a

noncomputable instance : Measure ℝ where
  ofNat n := n
  larger := max
  sqrt := Real.sqrt
  below a b := decide (a < b)
  usable a := decide (0 < a)

instance : Measure.Exact ℝ where
  ofNat_eq _ := rfl
  below_iff _ _ := decide_eq_true_iff
  usable_iff _ := decide_eq_true_iff
  sqrt_pos := Real.sqrt_pos.mpr
  sqrt_mul_self h := Real.mul_self_sqrt h.le

section

variable {K : Type} [Field K] [LinearOrder K] [Measure K] [Measure.Exact K]

/-! ## The size of the reference screen -/

namespace Interface

structure Shaped (aspect : K) (size : Vec K) : Prop where
  height_pos : 0 < size.y
  width_eq : size.x = size.y * aspect

def unlimited (aspect : K) : Vec K :=
  let height := Measure.sqrt (Coordinate.ofNat visibleArea : K) / Measure.sqrt aspect
  ⟨height * aspect, height⟩

variable {aspect : K} {size : Vec K}

theorem size_eq (haspect : 0 < aspect) :
    Interface.size aspect = limitHeight aspect (limitWidth aspect (unlimited aspect)) := by
  have husable : Measure.usable aspect = true := (Measure.Exact.usable_iff aspect).mpr haspect
  simp only [Interface.size, husable, if_true, unlimited]

theorem limitWidth_eq (aspect : K) (size : Vec K) :
    limitWidth aspect size = if 1500 < size.x then ⟨1500, 1500 / aspect⟩ else size := by
  have hlimit : (Coordinate.ofNat widest : K) = 1500 := Measure.Exact.ofNat_eq widest
  simp only [limitWidth, hlimit, Measure.Exact.below_iff]

theorem limitHeight_eq (aspect : K) (size : Vec K) :
    limitHeight aspect size = if 1050 < size.y then ⟨1050 * aspect, 1050⟩ else size := by
  have hlimit : (Coordinate.ofNat tallest : K) = 1050 := Measure.Exact.ofNat_eq tallest
  simp only [limitHeight, hlimit, Measure.Exact.below_iff]

theorem visibleArea_eq : (Coordinate.ofNat visibleArea : K) = 1150000 := by
  rw [Measure.Exact.ofNat_eq, visibleArea]
  norm_num

theorem limits_of_within (hwidth : size.x ≤ 1500) (hheight : size.y ≤ 1050) :
    limitHeight aspect (limitWidth aspect size) = size := by
  rw [limitWidth_eq, if_neg (not_lt.mpr hwidth), limitHeight_eq, if_neg (not_lt.mpr hheight)]

/-- A size that is below both limits after they were applied is as it was before. -/
theorem limits_of_below (hwidth : (limitHeight aspect (limitWidth aspect size)).x < 1500)
    (hheight : (limitHeight aspect (limitWidth aspect size)).y < 1050) :
    limitHeight aspect (limitWidth aspect size) = size := by
  rw [limitHeight_eq] at hwidth hheight ⊢
  by_cases hover : 1050 < (limitWidth aspect size).y
  · rw [if_pos hover] at hheight
    exact absurd hheight (lt_irrefl _)
  · rw [if_neg hover] at hwidth ⊢
    rw [limitWidth_eq] at hwidth ⊢
    by_cases hwide : 1500 < size.x
    · rw [if_pos hwide] at hwidth
      exact absurd hwidth (lt_irrefl _)
    · exact if_neg hwide

variable [IsStrictOrderedRing K]

theorem Shaped.limitWidth (h : Shaped aspect size) (haspect : 0 < aspect) :
    Shaped aspect (limitWidth aspect size) ∧ (Interface.limitWidth aspect size).x ≤ 1500 := by
  rw [limitWidth_eq]
  split
  · refine ⟨⟨by positivity, ?_⟩, le_refl _⟩
    field_simp
  · next hwithin => exact ⟨h, not_lt.mp hwithin⟩

/-- A screen that is made lower becomes narrower. -/
theorem Shaped.limitHeight (h : Shaped aspect size) (haspect : 0 < aspect) :
    Shaped aspect (limitHeight aspect size) ∧ (Interface.limitHeight aspect size).y ≤ 1050 ∧
      (Interface.limitHeight aspect size).x ≤ size.x := by
  rw [limitHeight_eq]
  split
  · next hover =>
      refine ⟨⟨by positivity, rfl⟩, le_refl _, ?_⟩
      rw [h.width_eq]
      exact mul_le_mul_of_nonneg_right hover.le haspect.le
  · next hwithin => exact ⟨h, not_lt.mp hwithin, le_refl _⟩

theorem shaped_unlimited (haspect : 0 < aspect) : Shaped aspect (unlimited aspect) := by
  have harea : (0 : K) < Coordinate.ofNat visibleArea := by
    rw [visibleArea_eq]
    norm_num
  exact ⟨div_pos (Measure.Exact.sqrt_pos harea) (Measure.Exact.sqrt_pos haspect), rfl⟩

theorem area_unlimited (haspect : 0 < aspect) :
    (unlimited aspect).x * (unlimited aspect).y = 1150000 := by
  have harea : (0 : K) < Coordinate.ofNat visibleArea := by
    rw [visibleArea_eq]
    norm_num
  have hroot := Measure.Exact.sqrt_pos haspect
  calc
    (unlimited aspect).x * (unlimited aspect).y =
        Measure.sqrt (Coordinate.ofNat visibleArea : K) *
            Measure.sqrt (Coordinate.ofNat visibleArea : K) /
          (Measure.sqrt aspect * Measure.sqrt aspect) * aspect := by
      simp only [unlimited]
      field_simp
    _ = 1150000 := by
      rw [Measure.Exact.sqrt_mul_self harea, Measure.Exact.sqrt_mul_self haspect, visibleArea_eq]
      field_simp

/-- There is one size with the given ratio and the visible area. -/
theorem Shaped.eq_unlimited (h : Shaped aspect size) (haspect : 0 < aspect)
    (harea : size.x * size.y = 1150000) : size = unlimited aspect := by
  have hshaped := shaped_unlimited haspect
  have hheight : size.y = (unlimited aspect).y := by
    have hsame := harea.trans (area_unlimited haspect).symm
    rw [h.width_eq, hshaped.width_eq, mul_right_comm, mul_right_comm (unlimited aspect).y] at hsame
    have hsquares := mul_right_cancel₀ haspect.ne' hsame
    exact (mul_self_inj h.height_pos.le hshaped.height_pos.le).mp hsquares
  have hwidth : size.x = (unlimited aspect).x := by
    rw [h.width_eq, hshaped.width_eq, hheight]
  exact congrArg₂ Vec.mk hwidth hheight

/-- Both limits hold in the end, and the ratio is kept. -/
theorem shaped_size (haspect : 0 < aspect) :
    Shaped aspect (Interface.size aspect) ∧ (Interface.size aspect).x ≤ 1500 ∧
      (Interface.size aspect).y ≤ 1050 := by
  rw [size_eq haspect]
  obtain ⟨hshaped, hwidth⟩ := (shaped_unlimited haspect).limitWidth haspect
  obtain ⟨hshaped, hheight, hnarrower⟩ := hshaped.limitHeight haspect
  exact ⟨hshaped, le_trans hnarrower hwidth, hheight⟩

end Interface

/-! ## Areas and their sizes -/

namespace Area

variable [IsStrictOrderedRing K]

theorem width_around (center size : Vec K) : (around center size).width = size.x := by
  have htwo : (Coordinate.ofNat 2 : K) = 2 := Measure.Exact.ofNat_eq 2
  simp only [around, width, htwo]
  ring

theorem height_around (center size : Vec K) : (around center size).height = size.y := by
  have htwo : (Coordinate.ofNat 2 : K) = 2 := Measure.Exact.ofNat_eq 2
  simp only [around, height, htwo]
  ring

variable {screen : Area K}

omit [LinearOrder K] [Measure K] [Measure.Exact K] [IsStrictOrderedRing K] in
theorem toViewport_corners (hwidth : screen.width ≠ 0) (hheight : screen.height ≠ 0)
    (viewport : Area K) :
    screen.toViewport viewport ⟨screen.left, screen.top⟩ = ⟨viewport.left, viewport.top⟩ ∧
      screen.toViewport viewport ⟨screen.right, screen.top⟩ = ⟨viewport.right, viewport.top⟩ ∧
      screen.toViewport viewport ⟨screen.left, screen.bottom⟩ = ⟨viewport.left, viewport.bottom⟩ ∧
      screen.toViewport viewport ⟨screen.right, screen.bottom⟩ =
        ⟨viewport.right, viewport.bottom⟩ := by
  have hleft : viewport.left + (screen.left - screen.left) * (viewport.width / screen.width) =
      viewport.left := by ring
  have htop : viewport.top + (screen.top - screen.top) * (viewport.height / screen.height) =
      viewport.top := by ring
  have hright : viewport.left + (screen.right - screen.left) * (viewport.width / screen.width) =
      viewport.right := by
    have hstretched : screen.width * (viewport.width / screen.width) = viewport.width :=
      mul_div_cancel₀ _ hwidth
    rw [show screen.right - screen.left = screen.width from rfl, hstretched, width]
    ring
  have hbottom : viewport.top + (screen.bottom - screen.top) * (viewport.height / screen.height) =
      viewport.bottom := by
    have hstretched : screen.height * (viewport.height / screen.height) = viewport.height :=
      mul_div_cancel₀ _ hheight
    rw [show screen.bottom - screen.top = screen.height from rfl, hstretched, height]
    ring
  simp only [toViewport, hleft, htop, hright, hbottom, and_self]

omit [LinearOrder K] [Measure K] [Measure.Exact K] [IsStrictOrderedRing K] in
/-- An area with the ratio of its viewport has the same scale in both directions. -/
theorem toViewport_eq_byHeight {viewport : Area K}
    (hscale : viewport.width / screen.width = viewport.height / screen.height) :
    screen.toViewport viewport = screen.toViewportByHeight viewport := by
  funext p
  rw [toViewport, toViewportByHeight, hscale]

end Area

namespace Camera

variable [IsStrictOrderedRing K]

theorem shaped_screen {viewport : Area K} (hwidth : 0 < viewport.width)
    (hheight : 0 < viewport.height) {camera : Camera K} (hzoom : 0 < camera.zoom) :
    let screen := camera.screen viewport.aspect
    0 < screen.width ∧ 0 < screen.height ∧
      viewport.width / screen.width = viewport.height / screen.height := by
  intro screen
  have haspect : 0 < viewport.aspect := div_pos hwidth hheight
  obtain ⟨hshaped, -, -⟩ := Interface.shaped_size haspect
  have hscreenHeight : screen.height = (Interface.size viewport.aspect).y * camera.zoom :=
    Area.height_around _ _
  have hscreenWidth : screen.width = screen.height * viewport.aspect := by
    calc
      screen.width = (Interface.size viewport.aspect).x * camera.zoom := Area.width_around _ _
      _ = screen.height * viewport.aspect := by
        rw [hscreenHeight, hshaped.width_eq]
        ring
  have hpos : 0 < screen.height := hscreenHeight ▸ mul_pos hshaped.height_pos hzoom
  refine ⟨hscreenWidth ▸ mul_pos hpos haspect, hpos, ?_⟩
  rw [hscreenWidth, Area.aspect]
  field_simp

/-- In exact arithmetic the reference screen has the ratio of its viewport, is within both limits and
shows the visible area unless it meets one of them. So on the screen of any camera the mapping with
two scales and the mapping with the vertical one are the same, and the corners of the screen are the
corners of the viewport. -/
theorem screens_fill_their_viewports :
    (∀ aspect : K, 0 < aspect →
      let size := Interface.size aspect
      0 < size.x ∧ 0 < size.y ∧ size.x = size.y * aspect ∧ size.x ≤ 1500 ∧ size.y ≤ 1050 ∧
        (size.x < 1500 → size.y < 1050 → size.x * size.y = 1150000) ∧
        ∀ whole : Vec K, 0 < whole.y → whole.x = whole.y * aspect → whole.x * whole.y = 1150000 →
          whole.x ≤ 1500 → whole.y ≤ 1050 → size = whole) ∧
    ∀ viewport : Area K, 0 < viewport.width → 0 < viewport.height →
      ∀ camera : Camera K, 0 < camera.zoom →
        let screen := camera.screen viewport.aspect
        (∀ p, screen.toViewport viewport p = screen.toViewportByHeight viewport p) ∧
          screen.toViewport viewport ⟨screen.left, screen.top⟩ = ⟨viewport.left, viewport.top⟩ ∧
          screen.toViewport viewport ⟨screen.right, screen.top⟩ =
            ⟨viewport.right, viewport.top⟩ ∧
          screen.toViewport viewport ⟨screen.left, screen.bottom⟩ =
            ⟨viewport.left, viewport.bottom⟩ ∧
          screen.toViewport viewport ⟨screen.right, screen.bottom⟩ =
            ⟨viewport.right, viewport.bottom⟩ := by
  constructor
  · intro aspect haspect size
    obtain ⟨hshaped, hwidth, hheight⟩ := Interface.shaped_size haspect
    have hsize : size = _ := Interface.size_eq haspect
    refine ⟨?_, hshaped.height_pos, hshaped.width_eq, hwidth, hheight, ?_, ?_⟩
    · rw [hshaped.width_eq]
      exact mul_pos hshaped.height_pos haspect
    · intro hnarrow hlow
      rw [hsize] at hnarrow hlow ⊢
      rw [Interface.limits_of_below hnarrow hlow]
      exact Interface.area_unlimited haspect
    · intro whole hpos hratio harea hnarrow hlow
      have hwhole : whole = Interface.unlimited aspect :=
        Interface.Shaped.eq_unlimited ⟨hpos, hratio⟩ haspect harea
      rw [hsize, ← hwhole]
      exact Interface.limits_of_within hnarrow hlow
  · intro viewport hwidth hheight camera hzoom screen
    obtain ⟨hscreenWidth, hscreenHeight, hscale⟩ := shaped_screen hwidth hheight hzoom
    exact ⟨congrFun (Area.toViewport_eq_byHeight hscale),
      Area.toViewport_corners hscreenWidth.ne' hscreenHeight.ne' viewport⟩

end Camera
end

/-- A window whose screen has an exact size within both limits. -/
theorem Camera.screens_fill_their_viewports_of_window :
    let viewport : Area ℝ := ⟨0, 0, 1150, 640⟩
    let camera : Camera ℝ := { center := ⟨100, -50⟩, zoom := 2 }
    let screen := camera.screen viewport.aspect
    0 < viewport.width ∧ 0 < viewport.height ∧ 0 < camera.zoom ∧
      Interface.size viewport.aspect = ⟨1437.5, 800⟩ ∧
      screen.toViewport viewport ⟨0, 0⟩ = screen.toViewportByHeight viewport ⟨0, 0⟩ ∧
      screen.toViewport viewport ⟨screen.right, screen.bottom⟩ = ⟨1150, 640⟩ := by
  intro viewport camera screen
  obtain ⟨hsizes, hscreens⟩ := Camera.screens_fill_their_viewports (K := ℝ)
  have hwidth : 0 < viewport.width := by norm_num [viewport, Area.width]
  have hheight : 0 < viewport.height := by norm_num [viewport, Area.height]
  have hzoom : 0 < camera.zoom := by norm_num [camera]
  have haspect : viewport.aspect = 115 / 64 := by
    norm_num [viewport, Area.aspect, Area.width, Area.height]
  obtain ⟨-, -, -, -, -, -, hwhole⟩ := hsizes viewport.aspect (div_pos hwidth hheight)
  have hsize : Interface.size viewport.aspect = ⟨1437.5, 800⟩ := by
    apply hwhole
    · norm_num
    · norm_num [haspect]
    · norm_num
    · norm_num
    · norm_num
  obtain ⟨hpoints, -, -, -, hcorner⟩ := hscreens viewport hwidth hheight camera hzoom
  exact ⟨hwidth, hheight, hzoom, hsize, hpoints _, hcorner⟩

end Overhead
