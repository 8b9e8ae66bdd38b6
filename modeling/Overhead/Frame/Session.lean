import Overhead.Canvas.Recording
import Overhead.Frame.Plates
import Overhead.Frame.Preview

/-!
# Sessions

Frames, previews and requests to give all texts back follow each other in any order, on plates and a
canvas that are kept all the time. A session is that state; its steps are what may happen to it.
-/

namespace Overhead

structure Session where
  plates : Plates := {}
  canvas : Recording := {}

namespace Session

inductive Step where
  | frame (game : Game) (settings : PlateSettings)
  | reset
  | preview (settings : PlateSettings) (profile : Profile) (position : Point) (dummy : Nat)
  /-- From now on shaping fails, or works again. -/
  | failShaping (fails : Bool)
  | setScreen (screen : Area Float32)

/-- Takes a step. A frame also tells how many plates it drew. -/
def step (session : Session) : Step → Except MissingSlot (Option Nat × Session)
  | .frame game settings => do
      let (count, plates, canvas) ← session.plates.draw game settings session.canvas
      return (some count, { plates := plates, canvas := canvas })
  | .reset =>
      let (plates, canvas) := session.plates.reset session.canvas
      return (none, { plates := plates, canvas := canvas })
  | .preview settings profile position dummy =>
      return (none,
        { session with canvas := Preview.draw settings profile position dummy session.canvas })
  | .failShaping fails =>
      return (none, { session with canvas := { session.canvas with failShaping := fails } })
  | .setScreen screen =>
      return (none, { session with canvas := { session.canvas with screen := screen } })

end Session
end Overhead
