import ApiAdmission.Proofs.Outcome
import ApiAdmission.Proofs.Settings.Merging

/-!
# Reading settings from entries

A setting has its place in a mapping, a reader for what stands there, and a value where nothing
does.  It can be written so that it is read again, and no mapping is read as its value, so what
stands at its place is replaced as a whole when layers are merged.

Entries are read as settings exactly if mappings stand where settings are grouped and every setting
is the one that is said at its place (`Settings.ofEntries_eq_ok_iff`).
-/

namespace ApiAdmission

set_option autoImplicit false

open Record
open ApiAdmission.Tree (lookup?)

/-- A single setting: where it is said, how it is read and written, and what it is if nobody says
anything. -/
structure Setting (α : Type) where
  /-- The keys that lead to it. -/
  place : List String
  /-- How it is read. -/
  read : FieldReader α
  /-- What it is where nothing is said. -/
  absent : α
  /-- How it is written. -/
  write : α → Tree
  read_write : ∀ value, read (write value) = .ok value
  refuses : ∀ entries value, read (.mapping entries) ≠ .ok value

namespace Setting

variable {α : Type} {setting : Setting α} {value : α}

/-- A setting is what the first of the layers that say anything at its place says there. -/
def GivenBy (setting : Setting α) (layers : List Tree) (value : α) : Prop :=
  match layers.findSome? (·.at? setting.place) with
  | some said => setting.read said = .ok value
  | none => value = setting.absent

theorem givenBy_singleton_iff {layer : Tree} :
    setting.GivenBy [layer] value ↔
      match layer.at? setting.place with
      | some said => setting.read said = .ok value
      | none => value = setting.absent := by
  rw [GivenBy, List.findSome?_cons]
  cases layer.at? setting.place <;> rfl

end Setting

/-! ## Outcomes of readers -/

section Readers

variable {α β : Type} {entries : List (String × Tree)} {name : String}

theorem fill_eq_ok_iff {argument : Checked α} {function : Checked (α → β)} {result : β} :
    Checked.fill argument function = .ok result ↔
      ∃ apply value, function = .ok apply ∧ argument = .ok value ∧ apply value = result := by
  cases function <;> cases argument <;> simp [Checked.fill]

theorem inside_eq_ok_iff {step : Schema.Step} {checked : Checked α} {value : α} :
    Checked.inside step checked = .ok value ↔ checked = .ok value :=
  mapError_eq_ok_iff

theorem optionalField_eq_ok_iff {absent value : α} {read : FieldReader α} :
    optionalField entries name absent read = .ok value ↔
      match lookup? name entries with
      | some said => read said = .ok value
      | none => value = absent := by
  unfold optionalField
  cases lookup? name entries with
  | none => simp [eq_comm]
  | some said => exact inside_eq_ok_iff

/-- A group of settings is read from the entries under its key. -/
theorem optionalRecord_eq_ok_iff {kind : String} {absent value : α}
    {read : List (String × Tree) → Checked α} (empty : read [] = .ok absent) :
    optionalField entries name absent (readRecord kind read) = .ok value ↔
      HasRecord entries name ∧ read (Tree.entriesUnder name entries) = .ok value := by
  rw [optionalField_eq_ok_iff, HasRecord, Tree.entriesUnder]
  cases lookup? name entries with
  | none => simp [empty, eq_comm]
  | some said => cases said <;> simp [readRecord, Checked.complain, Tree.entries]

/-- A list of texts is read exactly as it is written. -/
theorem readTexts_eq_ok_iff {tree : Tree} {texts : List String} :
    readList readText tree = .ok texts ↔ tree = .list (texts.map .text) := by
  suffices members : ∀ items position,
      Checked.each readText position items = .ok texts ↔ items = texts.map .text by
    cases tree with
    | list items => simp [readList, members]
    | _ => simp [readList, Checked.complain]
  intro items
  induction items generalizing texts with
  | nil => simp [Checked.each, eq_comm]
  | cons item rest ih =>
    intro position
    rw [Checked.each, fill_eq_ok_iff]
    simp only [map_eq_ok_iff, inside_eq_ok_iff]
    cases texts with
    | nil => simp
    | cons text texts =>
      cases item with
      | text value => simpa [readText, ih] using and_comm
      | _ => simp [readText, Checked.complain]

end Readers

theorem Level.read_number (level : Level) : Level.read (.integer level.number) = .ok level := by
  cases level <;> rfl

/-! ## The settings of the program -/

namespace Setting

def level : Setting Level where
  place := ["validation_level"]
  read := Level.read
  absent := Settings.default.level
  write := fun level => .integer level.number
  read_write := Level.read_number
  refuses := nofun

def format : Setting OutputFormat where
  place := ["output", "format"]
  read := readWord OutputFormat.all OutputFormat.name
  absent := .auto
  write := fun format => .text format.name
  read_write := fun format => by cases format <;> rfl
  refuses := nofun

def loading : Setting Bool where
  place := ["remote_refs", "enabled"]
  read := readTruth
  absent := RemoteSettings.default.enabled
  write := .boolean
  read_write := fun _ => rfl
  refuses := nofun

def timeout : Setting Double where
  place := ["remote_refs", "timeout"]
  read := readDouble
  absent := RemoteSettings.default.timeout
  write := .number
  read_write := fun _ => rfl
  refuses := nofun

def keeping : Setting Bool where
  place := ["cache", "enabled"]
  read := readTruth
  absent := CacheSettings.default.enabled
  write := .boolean
  read_write := fun _ => rfl
  refuses := nofun

def lifetime : Setting Int where
  place := ["cache", "ttl_seconds"]
  read := readInteger
  absent := CacheSettings.default.lifetime
  write := .integer
  read_write := fun _ => rfl
  refuses := nofun

def excluded : Setting (List String) where
  place := ["exclude"]
  read := readList readText
  absent := Settings.default.excluded
  write := fun patterns => .list (patterns.map .text)
  read_write := fun _ => readTexts_eq_ok_iff.mpr rfl
  refuses := nofun

end Setting

/-- Each single setting is what the first layer that says anything at its place says there. -/
structure Settings.LeavesFrom (settings : Settings) (layers : List Tree) : Prop where
  level : Setting.level.GivenBy layers settings.level
  format : Setting.format.GivenBy layers settings.format
  loading : Setting.loading.GivenBy layers settings.remote.enabled
  timeout : Setting.timeout.GivenBy layers settings.remote.timeout
  keeping : Setting.keeping.GivenBy layers settings.cache.enabled
  lifetime : Setting.lifetime.GivenBy layers settings.cache.lifetime

/-- Mappings stand where settings are grouped. -/
structure HasRecords (entries : List (String × Tree)) : Prop where
  output : HasRecord entries "output"
  remote : HasRecord entries "remote_refs"
  cache : HasRecord entries "cache"

section Reading

variable {entries : List (String × Tree)}

theorem levelField_iff {level : Level} :
    optionalField entries "validation_level" Settings.default.level Level.read = .ok level ↔
      Setting.level.GivenBy [.mapping entries] level := by
  rw [optionalField_eq_ok_iff, Setting.givenBy_singleton_iff, Setting.level, at?_single]

theorem outputField_iff {format : OutputFormat} :
    optionalField entries "output" Settings.default.format
        (readRecord "OutputConfig" OutputFormat.ofEntries) = .ok format ↔
      HasRecord entries "output" ∧ Setting.format.GivenBy [.mapping entries] format := by
  have empty : OutputFormat.ofEntries [] = .ok Settings.default.format := rfl
  rw [optionalRecord_eq_ok_iff empty, OutputFormat.ofEntries,
    optionalField_eq_ok_iff, Setting.givenBy_singleton_iff, Setting.format, at?_pair]

theorem remoteField_iff {remote : RemoteSettings} :
    optionalField entries "remote_refs" Settings.default.remote
        (readRecord "RemoteRefsConfig" RemoteSettings.ofEntries) = .ok remote ↔
      HasRecord entries "remote_refs" ∧
        Setting.loading.GivenBy [.mapping entries] remote.enabled ∧
        Setting.timeout.GivenBy [.mapping entries] remote.timeout := by
  have empty : RemoteSettings.ofEntries [] = .ok Settings.default.remote := rfl
  rw [optionalRecord_eq_ok_iff empty]
  simp only [RemoteSettings.ofEntries, fill_eq_ok_iff, map_eq_ok_iff, optionalField_eq_ok_iff,
    Setting.givenBy_singleton_iff, Setting.loading, Setting.timeout, at?_pair]
  refine and_congr_right fun _ => ⟨?_, ?_⟩
  · rintro ⟨_, timeout, ⟨enabled, loading, rfl⟩, timed, rfl⟩
    exact ⟨loading, timed⟩
  · rintro ⟨loading, timed⟩
    exact ⟨_, _, ⟨_, loading, rfl⟩, timed, rfl⟩

theorem cacheField_iff {cache : CacheSettings} :
    optionalField entries "cache" Settings.default.cache
        (readRecord "CacheConfig" CacheSettings.ofEntries) = .ok cache ↔
      HasRecord entries "cache" ∧
        Setting.keeping.GivenBy [.mapping entries] cache.enabled ∧
        Setting.lifetime.GivenBy [.mapping entries] cache.lifetime := by
  have empty : CacheSettings.ofEntries [] = .ok Settings.default.cache := rfl
  rw [optionalRecord_eq_ok_iff empty]
  simp only [CacheSettings.ofEntries, fill_eq_ok_iff, map_eq_ok_iff, optionalField_eq_ok_iff,
    Setting.givenBy_singleton_iff, Setting.keeping, Setting.lifetime, at?_pair]
  refine and_congr_right fun _ => ⟨?_, ?_⟩
  · rintro ⟨_, lifetime, ⟨enabled, keeping, rfl⟩, lasting, rfl⟩
    exact ⟨keeping, lasting⟩
  · rintro ⟨keeping, lasting⟩
    exact ⟨_, _, ⟨_, keeping, rfl⟩, lasting, rfl⟩

theorem excludeField_iff {patterns : List String} :
    optionalField entries "exclude" Settings.default.excluded (readList readText) = .ok patterns ↔
      Setting.excluded.GivenBy [.mapping entries] patterns := by
  rw [optionalField_eq_ok_iff, Setting.givenBy_singleton_iff, Setting.excluded, at?_single]

/-- **When entries are settings, and which.** -/
theorem Settings.ofEntries_eq_ok_iff {settings : Settings} :
    Settings.ofEntries entries = .ok settings ↔
      HasRecords entries ∧ settings.LeavesFrom [.mapping entries] ∧
        Setting.excluded.GivenBy [.mapping entries] settings.excluded := by
  simp only [Settings.ofEntries, fill_eq_ok_iff, map_eq_ok_iff, levelField_iff, outputField_iff,
    remoteField_iff, cacheField_iff, excludeField_iff]
  constructor
  · rintro ⟨_, patterns, ⟨_, cache, ⟨_, remote, ⟨_, format, ⟨level, leveled, rfl⟩,
      ⟨output, formatted⟩, rfl⟩, ⟨remotely, loading, timed⟩, rfl⟩, ⟨cached, keeping, lasting⟩,
      rfl⟩, listed, rfl⟩
    exact ⟨⟨output, remotely, cached⟩, ⟨leveled, formatted, loading, timed, keeping, lasting⟩,
      listed⟩
  · rintro ⟨records, leaves, listed⟩
    exact ⟨_, _, ⟨_, _, ⟨_, _, ⟨_, _, ⟨_, leaves.level, rfl⟩, ⟨records.output, leaves.format⟩,
      rfl⟩, ⟨records.remote, leaves.loading, leaves.timeout⟩, rfl⟩,
      ⟨records.cache, leaves.keeping, leaves.lifetime⟩, rfl⟩, listed, rfl⟩

end Reading

end ApiAdmission
