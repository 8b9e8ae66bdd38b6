import Overhead.Main
import Overhead.Proofs.Frame.History
import Overhead.Proofs.Frame.Ownership
import Overhead.Proofs.Frame.Previews
import Overhead.Proofs.Layout.Lines
import Overhead.Proofs.Text.Holders
import Overhead.Proofs.Paint.Keeping
import Overhead.Proofs.Canvas.Renumbering
import Overhead.Proofs.Canvas.Dated
import Overhead.Proofs.Frame.Overlay
import Overhead.Proofs.Frame.Drawing
import Overhead.Proofs.Frame.Failure
import Overhead.Proofs.Frame.Reshaping
import Overhead.Proofs.Demo.Control
import Overhead.Proofs.Demo.Movement
import Overhead.Proofs.Frame.Calls
import Overhead.Proofs.Config.Sections
import Overhead.Proofs.Layout.Removal
import Overhead.Proofs.Layout.Tiling
import Overhead.Proofs.Plate.Again
import Overhead.Proofs.Text.Shared
import Overhead.Proofs.Game.Teams
import Overhead.Proofs.Frame.Outline
import Overhead.Proofs.Frame.Isolation
import Overhead.Proofs.Rainbow.Wandering
import Overhead.Proofs.Demo.Safety
import Overhead.Proofs.Geometry.Mapping
import Overhead.Proofs.Layout.Centers
import Overhead.Proofs.Plate.Ids
