import ApiAdmission.Document.Parse
import ApiAdmission.Settings.Basic
import ApiAdmission.Settings.Directory
import ApiAdmission.Tree.Members
import ApiAdmission.World.TextFile

/-!
# Layers of settings

The settings of a run come from layers: the defaults, the settings of the user, those of the project
in the working directory, the environment, and the command line.  A layer replaces single values of
the layers before it; ignore patterns of the command line are added to those before them.  The
layers are put together first and read as settings at the end, except that the layer of the user has
to be readable on its own.
-/

namespace ApiAdmission

set_option autoImplicit false

/-- A file of settings. -/
inductive SettingsFile where
  /-- The settings of the user. -/
  | user
  /-- The settings of the project. -/
  | project
deriving DecidableEq, Repr

/-- What messages call a file of settings. -/
def SettingsFile.name : SettingsFile → String
  | .user => "global config"
  | .project => "project config"

/-- Why there are no settings. -/
inductive SettingsFault where
  /-- A file cannot be read or is no JSON. -/
  | unreadable (file : SettingsFile) (path reason : String)
  /-- A file holds no mapping. -/
  | noMapping (file : SettingsFile) (path : String)
  /-- The settings of the user, in a file, are no settings. -/
  | badUserFields (path : String) (complaints : List Record.Complaint)
  /-- The layers together are no settings. -/
  | badFields (complaints : List Record.Complaint)
  /-- Reading breaks down. -/
  | breakdown (cause : Breakdown)

namespace SettingsFault

/-- The beginning of a message about a file. -/
def fileMessage (file : SettingsFile) (path : String) : String :=
  "Invalid " ++ file.name ++ " at " ++ path

/-- The beginning of the message. -/
def heading : SettingsFault → String
  | .unreadable file path _ | .noMapping file path => fileMessage file path
  | .badUserFields path _ => fileMessage .user path
  | .badFields _ => "Invalid configuration"
  | .breakdown _ => ""

/-- How many complaints there are, in words. -/
def countMessage (complaints : List Record.Complaint) : String :=
  toString complaints.length ++ " validation error" ++
    (if complaints.length == 1 then "" else "s") ++ " for GlobalConfig"

/-- What follows the beginning of the message on its first line. -/
def reason : SettingsFault → String
  | .unreadable _ _ reason => reason
  | .noMapping .. => "expected a JSON object"
  | .badUserFields _ complaints | .badFields complaints => countMessage complaints
  | .breakdown _ => ""

/-- The first line of the message. -/
def message (fault : SettingsFault) : String :=
  fault.heading ++ ": " ++ fault.reason

end SettingsFault

/-! ## Merging -/

mutual
/-- What a layer makes of a value: two mappings are merged, and anything else is replaced. -/
def mergeValue (old : Option Tree) : Tree → Tree
  | .mapping entries =>
    match old with
    | some (.mapping base) => .mapping (mergeEntries base entries)
    | _ => .mapping entries
  | value => value
termination_by structural value => value

/-- The entries of a layer put over others. -/
def mergeEntries (base : List (String × Tree)) : List (String × Tree) → List (String × Tree)
  | [] => base
  | (key, value) :: rest =>
    mergeEntries (Tree.insertEntry key (mergeValue (Tree.lookup? key base) value) base) rest
termination_by structural entries => entries
end

/-! ## Files -/

/-- The entries in a file of settings, if there is such a file. -/
def readSettingsFile (world : World) (file : SettingsFile) (path : Path) :
    Except SettingsFault (Option (List (String × Tree))) := do
  if !(← (world.files.isFile path).mapError .breakdown) then return none
  let text ← match world.files.readText path with
    | .ok text => pure text
    | .error (.refused refusal) => throw (.unreadable file path.text refusal.message)
    | .error breakdown => throw (.breakdown breakdown)
  match parseAs .json text with
  | .ok (.mapping entries) => return some entries
  | .ok _ => throw (.noMapping file path.text)
  | .error (.brokenJson text defect offset) =>
    throw (.unreadable file path.text (Json.grammarMessage text defect offset))
  | .error (.breakdown breakdown) => throw (.breakdown breakdown)
  | .error fault => throw (.unreadable file path.text fault.message)

/-- The settings of the user, and the world where their directory exists. -/
def userSettings (world : World) : Except SettingsFault (Settings × World) := do
  let (directory, world) ← (world.openDirectory .settings).mapError .breakdown
  let path := directory.child "config.json"
  match ← readSettingsFile world .user path with
  | none => return (.default, world)
  | some entries =>
    match Settings.ofEntries entries with
    | .ok settings => return (settings, world)
    | .error complaints => throw (.badUserFields path.text complaints)

/-- The entries of the settings of the project. -/
def projectEntries (world : World) : Except SettingsFault (Option (List (String × Tree))) :=
  readSettingsFile world .project ⟨"/", world.files.workingDirectory ++ [programName ++ ".json"]⟩

/-! ## Environment -/

/-- The words of the environment for no. -/
def refusalWords : List String := ["0", "false", "no", "off"]

/-- The value of a variable that is set and not empty. -/
def presentValue? (world : World) (name : String) : Option String :=
  (world.environmentValue? name).filter (· != "")

/-- The entries that the environment sets. -/
def environmentEntries (world : World) : List (String × Tree) :=
  let level := (presentValue? world "OASGATE_LEVEL").map fun value =>
    ("validation_level", Tree.text value)
  let enabled := (presentValue? world "OASGATE_REMOTE_REFS").map fun value =>
    ("enabled", Tree.boolean (!refusalWords.contains (Text.asciiLower (Text.strip value))))
  let timeout := (presentValue? world "OASGATE_REMOTE_TIMEOUT").map fun value =>
    ("timeout", Tree.text value)
  let remote := enabled.toList ++ timeout.toList
  level.toList ++ (if remote.isEmpty then [] else [("remote_refs", .mapping remote)])

/-! ## Command line -/

/-- What the command line sets. -/
structure Overrides where
  /-- The number of the level. -/
  level : Option Int
  /-- The name of the format. -/
  format : Option String
  /-- Whether remote references are loaded. -/
  remote : Option Bool
  /-- Further ignore patterns. -/
  excluded : List String
deriving DecidableEq, Repr

/-- Sets a value inside the mapping under a key. -/
def setInside (outer inner : String) (value : Tree) (entries : List (String × Tree)) :
    Except Breakdown (List (String × Tree)) :=
  match Tree.lookup? outer entries with
  | some (.mapping nested) =>
    .ok (Tree.insertEntry outer (.mapping (Tree.insertEntry inner value nested)) entries)
  | _ => .error .wrongKind

/-- The ignore patterns under a key with others behind them. -/
def extendPatterns (more : List String) (entries : List (String × Tree)) :
    Except Breakdown (List (String × Tree)) := do
  let old := (Tree.lookup? "exclude" entries).getD .null
  let known ← if old.isTruthy then old.elements else pure []
  return Tree.insertEntry "exclude" (.list (known ++ more.map .text)) entries

/-- The entries with what the command line sets. -/
def applyOverrides (overrides : Overrides) (entries : List (String × Tree)) :
    Except Breakdown (List (String × Tree)) := do
  let entries := match overrides.level with
    | some level => Tree.insertEntry "validation_level" (.integer level) entries
    | none => entries
  let entries ← match overrides.format with
    | some format => setInside "output" "format" (.text format) entries
    | none => pure entries
  let entries ← match overrides.remote with
    | some enabled => setInside "remote_refs" "enabled" (.boolean enabled) entries
    | none => pure entries
  if overrides.excluded.isEmpty then return entries
  else extendPatterns overrides.excluded entries

/-! ## Together -/

/-- The settings of a run, and the world where the directory of the user's settings exists. -/
def resolveSettings (world : World) (overrides : Overrides) :
    Except SettingsFault (Settings × World) := do
  let (settings, world) ← userSettings world
  let entries := settings.toEntries
  let entries := mergeEntries entries ((← projectEntries world).getD [])
  let entries := mergeEntries entries (environmentEntries world)
  let entries ← (applyOverrides overrides entries).mapError .breakdown
  match Settings.ofEntries entries with
  | .ok settings => return (settings, world)
  | .error complaints => throw (.badFields complaints)

end ApiAdmission
