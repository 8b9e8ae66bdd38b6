import Overhead.Config.Basic

/-!
# Options of the command line

Options replace single entries of the configuration. A number that cannot be read leaves its entry
as it was.
-/

namespace Overhead

structure Options where
  configPath : Option String := none
  players : Option Nat := none
  seed : Option Nat := none
  playback : Bool := false
  spriteDirectory : Option String := none
  disableVsync : Bool := false
deriving DecidableEq

inductive OptionError where
  | unknown (argument : String)
  /-- An option stands at the end without its value. -/
  | valueMissing (option : String)
deriving DecidableEq

namespace OptionError

def message : OptionError → String
  | .unknown argument => "unexpected argument " ++ argument
  | .valueMissing option => "a value is required for " ++ option

end OptionError

namespace Options

def usage : String :=
  "usage: tee-nameplates [--config PATH] [--players N] [--seed N] [--demo-playback] " ++
    "[--name-plate-sprites DIRECTORY] [--disable-vsync]"

/-- A number of at most 64 bits, in decimal digits. -/
def number? (text : String) : Option Nat :=
  let digits := match text.toList with
    | '+' :: rest => rest
    | chars => chars
  if digits.isEmpty || !digits.all (·.isDigit) then none
  else
    let n := digits.foldl (fun n c => 10 * n + (c.toNat - '0'.toNat)) 0
    if n < Nat.pow 2 64 then some n else none

/-- Reads an option that takes no value. -/
def flag? (options : Options) : String → Option Options
  | "--demo-playback" => some { options with playback := true }
  | "--disable-vsync" => some { options with disableVsync := true }
  | _ => none

/-- What an option does with its value. -/
def setter? : String → Option (String → Options → Options)
  | "--config" => some fun value options => { options with configPath := some value }
  | "--players" => some fun value options => { options with players := number? value }
  | "--seed" => some fun value options => { options with seed := number? value }
  | "--name-plate-sprites" =>
      some fun value options => { options with spriteDirectory := some value }
  | _ => none

def parse (options : Options) : List String → Except OptionError Options
  | [] => .ok options
  | argument :: rest =>
      match options.flag? argument, setter? argument, rest with
      | some options, _, rest => options.parse rest
      | none, none, _ => .error (.unknown argument)
      | none, some _, [] => .error (.valueMissing argument)
      | none, some set, value :: rest => (set value options).parse rest

def apply (options : Options) (config : Config) : Config :=
  { config with
    demo :=
      { players := options.players.getD config.demo.players
        seed := options.seed.or config.demo.seed
        playback := options.playback || config.demo.playback }
    graphics :=
      { config.graphics with
        spriteDirectory := options.spriteDirectory.or config.graphics.spriteDirectory
        disableVsync := options.disableVsync || config.graphics.disableVsync } }

end Options
end Overhead
