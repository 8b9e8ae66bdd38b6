import Overhead.App
import Overhead.Config.Load
import Overhead.Config.Options
import Overhead.Config.Path

/-!
# The command line

Reads the options and the configuration, plays a second of the simulated game and tells what was
drawn.
-/

namespace Overhead

namespace GraphicsMode

/-- The size of the window; a screen without one has a usual size. -/
def size : GraphicsMode → Point
  | .window width height => ⟨width, height⟩
  | .fullscreen => ⟨1920, 1080⟩

end GraphicsMode

namespace App

/-- The application that a configuration asks for. -/
def ofConfig (config : Config) (seed : Nat) : App :=
  let stage := Stage.new config.demo (UInt64.ofNat seed) config.graphics.mode.size
  { stage := { stage with rainbowSettings := config.rainbow }
    settings := config.plates
    profile := config.profile
    spriteDirectory := config.graphics.spriteDirectory }

/-- Plays frames of sixteen milliseconds and counts the shapes of the last one. -/
def play : Nat → App → Nat → Except MissingSlot (App × Nat)
  | 0, app, shapes => return (app, shapes)
  | frames + 1, app, _ => do
      let frame ← app.frame { elapsed := 16000 }
      play frames frame.app frame.shapes.length

end App

namespace CommandLine

def contents (path : String) : IO (Option ByteArray) :=
  try return some (← IO.FS.readBinFile path) catch _ => return none

def run (config : Config) : IO UInt32 := do
  let seed ← match config.demo.seed with
    | some seed => pure seed
    | none => IO.rand 0 (Nat.pow 2 64 - 1)
  match (App.ofConfig config seed).play 60 0 with
  | .error missing =>
      IO.eprintln missing.message
      return 1
  | .ok (app, shapes) =>
      IO.println s!"Played with {app.stage.demo.players} players, drew {shapes} shapes"
      return 0

def main (arguments : List String) : IO UInt32 := do
  match ({} : Options).parse arguments with
  | .error error =>
      IO.eprintln error.message
      IO.eprintln Options.usage
      return 2
  | .ok options =>
      let path := options.configPath.getD
        (Config.defaultPath (Config.home? (← IO.getEnv "HOME") none)
          (← IO.getEnv "XDG_CONFIG_HOME"))
      let (config, line) := Config.loadOrDefault path (← contents path)
      IO.println line
      run (options.apply config)

end CommandLine
end Overhead

def main (arguments : List String) : IO UInt32 :=
  Overhead.CommandLine.main arguments
