/-!
# Where the configuration is kept

The configuration directory of the user, or the usual one in the home directory.
-/

namespace Overhead
namespace Config

def isAbsolute (path : String) : Bool :=
  path.toList.head? == some '/'

/-- Appends a relative path with exactly one slash between the two if the first is not empty. -/
def joinPath (directory name : String) : String :=
  if directory.isEmpty || directory.toList.getLast? == some '/' then directory ++ name
  else directory ++ "/" ++ name

def fileName : String :=
  "config.toml"

/-- The home directory: the one that the environment names unless that is empty, or else the one
that belongs to the account. -/
def home? (named account : Option String) : Option String :=
  (named.filter (!·.isEmpty)).or account

/-- The path of the configuration, from the home directory and the directory for configurations, if
there are such. A relative configuration directory counts as none; without a home the file is looked
for where the program runs. -/
def defaultPath (home configHome : Option String) : String :=
  match home with
  | some home =>
      let directory := (configHome.filter isAbsolute).getD (joinPath home ".config")
      joinPath (joinPath directory "tee-nameplates") fileName
  | none => fileName

end Config
end Overhead
