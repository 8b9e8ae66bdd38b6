import Overhead.Config.Basic
import Overhead.Toml.Document

/-!
# Loading the configuration

A configuration file that cannot be read, that is no document or that does not fit is told apart.
Whoever needs a configuration in any case falls back to the default, and says why.
-/

namespace Overhead

/-- Why a file could not be read as text. -/
inductive ReadError where
  | missing
  | notText
deriving DecidableEq

def ReadError.message : ReadError → String
  | .missing => "No such file or directory (os error 2)"
  | .notText => "stream did not contain valid UTF-8"

inductive ConfigError where
  | unreadable (path : String) (reason : ReadError)
  /-- The text is no document. -/
  | malformed
  /-- The document does not fit the sections. -/
  | unfit (reason : DecodeError)

namespace ConfigError

/-- What the player is told. A document in error is only named; its reasons are for whoever asks. -/
def message : ConfigError → String
  | .unreadable path reason => "failed to read " ++ path ++ ": " ++ reason.message
  | .malformed | .unfit _ => "failed to parse"

end ConfigError

namespace Config

/-- The text of a file from its bytes, if there is such a file. -/
def text (contents : Option ByteArray) : Except ReadError String :=
  match contents with
  | none => .error .missing
  | some bytes =>
      match String.fromUTF8? bytes with
      | some text => .ok text
      | none => .error .notText

def load (path : String) (contents : Option ByteArray) : Except ConfigError Config := do
  let text ← (text contents).mapError (.unreadable path)
  match Toml.read? text with
  | none => .error .malformed
  | some data => (schema.decode data).mapError .unfit

/-- The configuration to use in any case, and what became of the file. -/
def loadOrDefault (path : String) (contents : Option ByteArray) : Config × String :=
  match load path contents with
  | .ok config => (config, "Read configuration from " ++ path)
  | .error error => ({}, "Using default configuration, " ++ error.message)

end Config
end Overhead
