import ApiAdmission.Document.Parse
import ApiAdmission.Url.Basic
import ApiAdmission.World.Basic
import ApiAdmission.World.TextFile

/-!
# Loading a document

A document at a web address is asked of the network, and any other one is read from a file.  A
document that cannot be had, or is neither JSON nor YAML, is a fault that a reference reports with
its reason; bytes that are no text, and other breakdowns, go through.  Loading can be disabled, and
then every document is refused for that reason and nothing is asked of the surroundings.
-/

namespace ApiAdmission.Reference

set_option autoImplicit false

/-- Why a document cannot be loaded. -/
inductive LoadFault where
  /-- Loading is disabled. -/
  | disabled
  /-- A file cannot be read. -/
  | unreadable (location : String) (refusal : Refusal)
  /-- The network answers with a status that is no success. -/
  | badStatus (location : String) (status : Int)
  /-- The network does not answer. -/
  | unreachable (location reason : String)
  /-- The text is no document. -/
  | notDocument (location cause : String)
  /-- Loading breaks down. -/
  | breakdown (breakdown : Breakdown)
deriving DecidableEq, Repr

/-- The reason that a reference reports. -/
def LoadFault.reason : LoadFault → String
  | .disabled => "remote reference loading is disabled"
  | .unreadable location refusal => "cannot read " ++ location ++ ": " ++ refusal.message
  | .badStatus location status => "HTTP " ++ toString status ++ " fetching " ++ location
  | .unreachable location reason => "Failed to fetch " ++ location ++ ": " ++ reason
  | .notDocument location cause => location ++ " is not valid JSON/YAML: " ++ cause
  | .breakdown _ => ""

/-- The text of the file at a location. -/
def readFile (world : World) (location : String) : Except LoadFault String :=
  match world.files.readText (Path.ofText location) with
  | .ok text => .ok text
  | .error (.refused refusal) => .error (.unreadable location refusal)
  | .error breakdown => .error (.breakdown breakdown)

/-- Whether a status is a success. -/
def isSuccess (status : Int) : Bool := 200 ≤ status && status < 300

/-- The text that the network has at an address. -/
def fetch (world : World) (location : String) : Except LoadFault String :=
  match world.ask location with
  | .response status body =>
    if isSuccess status then .ok body else .error (.badStatus location status)
  | .unreachable reason => .error (.unreachable location reason)

/-- Reads a loaded text. -/
def readLoaded (location text : String) : Except LoadFault Tree :=
  match parse text with
  | .ok tree => .ok tree
  | .error (.breakdown breakdown) => .error (.breakdown breakdown)
  | .error fault => .error (.notDocument location fault.message)

/-- The document at a location. -/
def load (world : World) (enabled : Bool) (location : String) : Except LoadFault Tree := do
  if !enabled then throw .disabled
  let text ← if isWebAddress location then fetch world location else readFile world location
  readLoaded location text

end ApiAdmission.Reference
