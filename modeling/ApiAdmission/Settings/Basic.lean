import ApiAdmission.Level
import ApiAdmission.Record.Field

/-!
# Settings

Settings say at which level documents are validated, how reports are printed, how remote references
are loaded and kept, and which files of a directory are left out.  Every setting has a default.
-/

namespace ApiAdmission

set_option autoImplicit false

open Record

/-- How reports are printed. -/
inductive OutputFormat where
  /-- As the terminal allows. -/
  | auto
  /-- One document at the end of the run. -/
  | json
  /-- Lines. -/
  | plain
  /-- Lines and a table for a terminal. -/
  | rich
deriving DecidableEq, Repr

namespace OutputFormat

/-- All formats. -/
def all : List OutputFormat := [.auto, .json, .plain, .rich]

/-- The name of a format. -/
def name : OutputFormat → String
  | .auto => "auto"
  | .json => "json"
  | .plain => "plain"
  | .rich => "rich"

/-- The format with a given name. -/
def ofName? (name : String) : Option OutputFormat :=
  all.find? fun format => format.name == name

end OutputFormat

/-- How remote references are loaded. -/
structure RemoteSettings where
  /-- Whether they are loaded at all. -/
  enabled : Bool
  /-- How many seconds an answer may take. -/
  timeout : Double

/-- How loaded documents are kept. -/
structure CacheSettings where
  /-- Whether they are kept at all. -/
  enabled : Bool
  /-- For how many seconds they are kept. -/
  lifetime : Int
deriving DecidableEq, Repr

/-- The settings of a run. -/
structure Settings where
  /-- The level of validation. -/
  level : Level
  /-- How reports are printed. -/
  format : OutputFormat
  /-- How remote references are loaded. -/
  remote : RemoteSettings
  /-- How loaded documents are kept. -/
  cache : CacheSettings
  /-- The ignore patterns for directories. -/
  excluded : List String

/-! ## Defaults -/

/-- Remote references are loaded, and an answer may take half a minute. -/
def RemoteSettings.default : RemoteSettings := ⟨true, .ofInteger 30⟩

/-- Loaded documents are not kept; if they are, then for an hour. -/
def CacheSettings.default : CacheSettings := ⟨false, 3600⟩

/-- The settings where nothing else is said. -/
def Settings.default : Settings := ⟨.full, .auto, .default, .default, []⟩

/-! ## Reading -/

/-- Reads a level of validation from its number. -/
def Level.read : FieldReader Level := fun tree => do
  let number ← readIntegerBetween Level.parseOnly.number Level.full.number tree
  return (Level.ofNumber? number).getD .full

/-- Reads how reports are printed. -/
def OutputFormat.ofEntries (entries : List (String × Tree)) : Checked OutputFormat :=
  optionalField entries "format" .auto (readWord OutputFormat.all OutputFormat.name)

/-- Reads how remote references are loaded. -/
def RemoteSettings.ofEntries (entries : List (String × Tree)) : Checked RemoteSettings :=
  (optionalField entries "enabled" RemoteSettings.default.enabled readTruth).map
    RemoteSettings.mk |>
  Checked.fill (optionalField entries "timeout" RemoteSettings.default.timeout readDouble)

/-- Reads how loaded documents are kept. -/
def CacheSettings.ofEntries (entries : List (String × Tree)) : Checked CacheSettings :=
  (optionalField entries "enabled" CacheSettings.default.enabled readTruth).map
    CacheSettings.mk |>
  Checked.fill (optionalField entries "ttl_seconds" CacheSettings.default.lifetime readInteger)

/-- Reads settings. -/
def Settings.ofEntries (entries : List (String × Tree)) : Checked Settings :=
  (optionalField entries "validation_level" Settings.default.level Level.read).map Settings.mk |>
  Checked.fill (optionalField entries "output" Settings.default.format
    (readRecord "OutputConfig" OutputFormat.ofEntries)) |>
  Checked.fill (optionalField entries "remote_refs" Settings.default.remote
    (readRecord "RemoteRefsConfig" RemoteSettings.ofEntries)) |>
  Checked.fill (optionalField entries "cache" Settings.default.cache
    (readRecord "CacheConfig" CacheSettings.ofEntries)) |>
  Checked.fill (optionalField entries "exclude" Settings.default.excluded (readList readText))

/-! ## Writing -/

/-- Settings as the entries of a mapping. -/
def Settings.toEntries (settings : Settings) : List (String × Tree) :=
  [("validation_level", .integer settings.level.number),
    ("output", .mapping [("format", .text settings.format.name)]),
    ("remote_refs", .mapping [("enabled", .boolean settings.remote.enabled),
      ("timeout", .number settings.remote.timeout)]),
    ("cache", .mapping [("enabled", .boolean settings.cache.enabled),
      ("ttl_seconds", .integer settings.cache.lifetime)]),
    ("exclude", .list (settings.excluded.map .text))]

end ApiAdmission
