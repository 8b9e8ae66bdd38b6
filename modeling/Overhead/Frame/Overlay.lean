import Overhead.Frame.Plates

/-!
# The overlay

The plates of a running client. Texts that were shaped for another window size or another scale do
not fit any more, so a frame in which one of these changed, or in which somebody asked for it, starts
by giving all texts back.
-/

namespace Overhead

structure Overlay where
  plates : Plates := {}
  /-- The pixels per point of the last frame. -/
  lastScale : Option Float32 := none

structure FrameEvents where
  scale : Float32
  /-- How often the window was resized. -/
  resized : Nat := 0
  /-- How often somebody asked for new texts. -/
  requested : Nat := 0

namespace Overlay

variable {σ : Type} [Canvas σ]

/-- Whether the texts of earlier frames are of no use any more. -/
def isOutdated (overlay : Overlay) (events : FrameEvents) : Bool :=
  0 < events.resized || 0 < events.requested || overlay.lastScale.any (· != events.scale)

/-- Gives the texts back if they are outdated. -/
def refresh (overlay : Overlay) (events : FrameEvents) (canvas : σ) : Overlay × σ :=
  let (plates, canvas) :=
    if overlay.isOutdated events then overlay.plates.reset canvas else (overlay.plates, canvas)
  ({ plates := plates, lastScale := some events.scale }, canvas)

def frame (overlay : Overlay) (events : FrameEvents) (game : Game) (settings : PlateSettings)
    (canvas : σ) : Except MissingSlot (Nat × Overlay × σ) := do
  let (overlay, canvas) := overlay.refresh events canvas
  let (count, plates, canvas) ← overlay.plates.draw game settings canvas
  return (count, { overlay with plates := plates }, canvas)

end Overlay
end Overhead
