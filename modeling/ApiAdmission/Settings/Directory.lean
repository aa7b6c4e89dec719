import ApiAdmission.World.Basic
import ApiAdmission.World.Change

/-!
# The directories of the program

Settings, kept documents and logs have a directory each.  Where the operating system follows the
convention of base directories, they are below the base directories that the environment names, or
below the usual ones in the home directory; elsewhere they are below one directory in the home
directory.  A directory is made when it is asked for.
-/

namespace ApiAdmission

set_option autoImplicit false

/-- What a directory of the program is for. -/
inductive Purpose where
  /-- Settings. -/
  | settings
  /-- Kept documents. -/
  | keeping
  /-- Logs. -/
  | logs
deriving DecidableEq, Repr

namespace Purpose

/-- The variable of the environment that names the base directory. -/
def variableName : Purpose → String
  | .settings => "XDG_CONFIG_HOME"
  | .keeping => "XDG_CACHE_HOME"
  | .logs => "XDG_DATA_HOME"

/-- The usual base directory in the home directory. -/
def usualBase : Purpose → List String
  | .settings => [".config"]
  | .keeping => [".cache"]
  | .logs => [".local", "share"]

/-- The directory below the one directory in the home directory. -/
def plainNames : Purpose → List String
  | .settings => []
  | .keeping => ["cache"]
  | .logs => ["logs"]

end Purpose

/-- The name of the program. -/
def programName : String := "oasgate"

namespace World

/-- Whether the operating system follows the convention of base directories. -/
def hasBaseDirectories (world : World) : Bool :=
  world.systemName == "Linux" || Text.endsWith world.systemName "BSD"

/-- A path with names behind it. -/
def extend (path : Path) (names : List String) : Path :=
  { path with names := path.names ++ names }

/-- The base directory for a purpose. -/
def baseDirectory (world : World) (purpose : Purpose) : Except Breakdown Path :=
  match world.environmentValue? purpose.variableName with
  | none | some "" => do return extend (← world.home) purpose.usualBase
  | some base => .ok (Path.ofText base)

/-- The directory for a purpose. -/
def directoryFor (world : World) (purpose : Purpose) : Except Breakdown Path := do
  if world.hasBaseDirectories then return (← world.baseDirectory purpose).child programName
  else return extend ((← world.home).child ("." ++ programName)) purpose.plainNames

/-- The directory for a purpose, and the world where it exists. -/
def openDirectory (world : World) (purpose : Purpose) : Except Breakdown (Path × World) := do
  let path ← world.directoryFor purpose
  return (path, { world with files := ← world.files.makeDirectories path })

end World

end ApiAdmission
