import ApiAdmission.Breakdown
import ApiAdmission.Diagnostic.Basic

/-!
# Levels of validation

The lowest level only asks whether a document can be resolved, the middle one reports what the
resolver says as warnings, and the highest one reports it as errors and checks the resource paths
too.  A higher level only adds findings or makes them graver.
-/

namespace ApiAdmission

set_option autoImplicit false

/-- A level of validation. -/
inductive Level where
  | parseOnly
  | compatibility
  | full
deriving DecidableEq, Repr

namespace Level

/-- All levels. -/
def all : List Level := [.parseOnly, .compatibility, .full]

/-- The number of a level. -/
def number : Level → Int
  | .parseOnly => 0
  | .compatibility => 1
  | .full => 2

/-- The level with a given number. -/
def ofNumber? (number : Int) : Option Level :=
  all.find? fun level => level.number == number

/-- The level with a given number; any other number breaks down. -/
def ofNumber (number : Int) : Except Breakdown Level :=
  match ofNumber? number with
  | some level => .ok level
  | none => .error (.illegalValue (toString number ++ " is not a valid ValidationLevel"))

/-- Whether messages of the resolver become findings. -/
def reportsMessages : Level → Bool
  | .parseOnly => false
  | .compatibility | .full => true

/-- How grave a message of the resolver is. -/
def messageSeverity : Level → Severity
  | .parseOnly => .info
  | .compatibility => .warning
  | .full => .error

/-- Whether resource paths are checked. -/
def checksPaths : Level → Bool
  | .parseOnly | .compatibility => false
  | .full => true

/-- The sentence about an accepted document, with a place for the label of its family. -/
def acceptance : Level → String
  | .parseOnly => "\x7blabel\x7d definition is returned by the resolver (validation disabled)"
  | .compatibility =>
    "\x7blabel\x7d file will be accepted by the level 1 validation of APIM 4.0.0"
  | .full => "\x7blabel\x7d file will be accepted by APIM 4.2.0"

end Level

end ApiAdmission
