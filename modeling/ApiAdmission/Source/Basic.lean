import ApiAdmission.World.Basic
import ApiAdmission.World.TextFile

/-!
# Sources

A source is a document to be admitted: a text that is given, the file at a location, or the standard
input, which can be read only once.
-/

namespace ApiAdmission

set_option autoImplicit false

/-- A document to be admitted. -/
structure Source where
  /-- What reports call it. -/
  name : String
  /-- The path of the file that holds it. -/
  location : Option String
  /-- Its text, where that is given. -/
  text : Option String
deriving DecidableEq, Repr

namespace Source

/-- What reports call a given text. -/
def givenName : String := "<inline>"

/-- What reports call the standard input. -/
def standardInputName : String := "<stdin>"

/-- The source that is the standard input. -/
def standardInput : Source := ⟨standardInputName, none, none⟩

/-- The source that is a given text. -/
def given (text : String) : Source := ⟨givenName, none, some text⟩

/-- The source that is the file at a path. -/
def file (path : Path) : Source := ⟨path.text, some path.text, none⟩

/-- The text of a source, and the world after it is read. -/
def read (world : World) (source : Source) : Except Breakdown String × World :=
  match source.text, source.location with
  | some text, _ => (.ok text, world)
  | none, some location => (world.files.readText (Path.ofText location), world)
  | none, none => (.ok world.standardInput, { world with standardInput := "" })

end Source

end ApiAdmission
