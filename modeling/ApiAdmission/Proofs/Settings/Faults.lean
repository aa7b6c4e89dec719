import ApiAdmission.Proofs.Settings.Overriding

/-!
# How a run comes to its settings

A run has settings, or a fault says which layer is wrong, or reading the settings breaks down.  It
breaks down over a directory that cannot be made, over a file that cannot be asked for, is no UTF-8
or writes an integer with too many digits, and over a command line that does not fit the entries
which the files and the environment give together (`BreaksDown`), and over nothing else
(`resolveSettings_outcomes`).

In particular a value that should be a mapping and is none is refused with the other complaints
about fields, unless the command line sets something inside it: then the run breaks down before any
field is read (`format_breaks_down`).
-/

namespace ApiAdmission

set_option autoImplicit false

open Record
open ApiAdmission.Tree (lookup?)

/-! ## Files of settings -/

/-- How reading a file of settings breaks down. -/
inductive FileBreaksDown (files : FileSystem) (path : Path) : Breakdown → Prop
  /-- Whether there is a file cannot be told. -/
  | unknown {cause : Breakdown} (fails : files.isFile path = .error cause) :
    FileBreaksDown files path cause
  /-- Its bytes are no UTF-8. -/
  | undecodable {bytes : List UInt8} {fault : Utf8.Fault}
    (accessed : files.readBytes path = .ok bytes) (broken : Utf8.decode bytes = .error fault) :
    FileBreaksDown files path (.undecodable fault)
  /-- It writes an integer with too many digits. -/
  | longInteger {bytes : List UInt8} {characters : List Char} {digits : Nat}
    (accessed : files.readBytes path = .ok bytes) (decodes : Utf8.decode bytes = .ok characters)
    (long : Json.read (String.ofList (Text.normalizeNewlines characters)) =
      .error (.longInteger digits)) :
    FileBreaksDown files path (.illegalValue (longIntegerMessage digits))

section Files

variable {world : World} {file : SettingsFile} {path : Path} {cause : Breakdown}

theorem FileSystem.isFile_eq_true_iff {files : FileSystem} :
    files.isFile path = .ok true ↔ ∃ bytes, files.readBytes path = .ok bytes := by
  rw [isFile, satisfies, readBytes]
  cases files.entryAt path with
  | error cause =>
    constructor
    · intro asked
      split at asked
      case h_1 found => cases found
      all_goals cases asked
    · rintro ⟨bytes, reads⟩
      cases reads
  | ok entry =>
    cases entry with
    | file content => exact iff_of_true rfl ⟨content, rfl⟩
    | directory | link =>
      constructor
      · intro asked
        cases asked
      · rintro ⟨bytes, reads⟩
        cases reads

theorem parseAs_json_eq_breakdown_iff {text : String} :
    parseAs .json text = .error (.breakdown cause) ↔
      ∃ digits, Json.read text = .error (.longInteger digits) ∧
        .illegalValue (longIntegerMessage digits) = cause := by
  rw [parseAs, mapError_eq_error_iff]
  constructor
  · rintro ⟨fault, reads, same⟩
    cases fault with
    | grammar => cases same
    | longInteger digits => exact ⟨digits, reads, ParseFault.breakdown.inj same⟩
  · rintro ⟨digits, reads, rfl⟩
    exact ⟨_, reads, rfl⟩

theorem readSettingsFile_of_unknown (fails : world.files.isFile path = .error cause) :
    readSettingsFile world file path = .error (.breakdown cause) := by
  unfold readSettingsFile
  rw [fails]
  rfl

theorem readSettingsFile_of_absent (absent : world.files.isFile path = .ok false) :
    readSettingsFile world file path = .ok none := by
  unfold readSettingsFile
  rw [absent]
  rfl

theorem readSettingsFile_of_undecodable {fault : Utf8.Fault}
    (present : world.files.isFile path = .ok true)
    (fails : world.files.readText path = .error (.undecodable fault)) :
    readSettingsFile world file path = .error (.breakdown (.undecodable fault)) := by
  unfold readSettingsFile
  rw [present, fails]
  rfl

/-- A file that is there and is text breaks down exactly if its text does. -/
theorem readSettingsFile_of_text {text : String} (present : world.files.isFile path = .ok true)
    (reads : world.files.readText path = .ok text) :
    readSettingsFile world file path = .error (.breakdown cause) ↔
      parseAs .json text = .error (.breakdown cause) := by
  unfold readSettingsFile
  rw [present, reads]
  simp only [bind, Except.bind, Except.mapError, pure, Except.pure, Bool.not_true,
    Bool.false_eq_true, if_false]
  cases parseAs .json text with
  | ok tree => cases tree <;> simp [throw, throwThe, MonadExceptOf.throw]
  | error fault => cases fault <;> simp [throw, throwThe, MonadExceptOf.throw]

theorem FileBreaksDown.asked {files : FileSystem} (down : FileBreaksDown files path cause) :
    files.isFile path = .error cause ∨ files.isFile path = .ok true := by
  cases down with
  | unknown fails => exact .inl fails
  | undecodable accessed => exact .inr (FileSystem.isFile_eq_true_iff.mpr ⟨_, accessed⟩)
  | longInteger accessed => exact .inr (FileSystem.isFile_eq_true_iff.mpr ⟨_, accessed⟩)

theorem fileBreaksDown_iff_of_bytes {files : FileSystem} {bytes : List UInt8}
    (accessed : files.readBytes path = .ok bytes) :
    FileBreaksDown files path cause ↔
      (∃ fault, Utf8.decode bytes = .error fault ∧ .undecodable fault = cause) ∨
      ∃ characters digits, Utf8.decode bytes = .ok characters ∧
        Json.read (String.ofList (Text.normalizeNewlines characters)) =
          .error (.longInteger digits) ∧
        .illegalValue (longIntegerMessage digits) = cause := by
  have present := FileSystem.isFile_eq_true_iff.mpr ⟨bytes, accessed⟩
  constructor
  · rintro (fails | ⟨again, broken⟩ | ⟨again, decodes, long⟩)
    · cases present.symm.trans fails
    · cases accessed.symm.trans again
      exact .inl ⟨_, broken, rfl⟩
    · cases accessed.symm.trans again
      exact .inr ⟨_, _, decodes, long, rfl⟩
  · rintro (⟨fault, broken, rfl⟩ | ⟨characters, digits, decodes, long, rfl⟩)
    · exact .undecodable accessed broken
    · exact .longInteger accessed decodes long

/-- **When reading a file of settings breaks down.** -/
theorem readSettingsFile_eq_breakdown_iff :
    readSettingsFile world file path = .error (.breakdown cause) ↔
      FileBreaksDown world.files path cause := by
  cases asked : world.files.isFile path with
  | error other =>
    rw [readSettingsFile_of_unknown asked]
    constructor
    · rintro ⟨⟩
      exact .unknown asked
    · intro down
      rcases down.asked with fails | present
      · rw [Except.error.inj (asked.symm.trans fails)]
      · cases asked.symm.trans present
  | ok present =>
    cases present with
    | false =>
      rw [readSettingsFile_of_absent asked]
      refine iff_of_false nofun fun down => ?_
      rcases down.asked with fails | present
      · cases asked.symm.trans fails
      · cases asked.symm.trans present
    | true =>
      obtain ⟨bytes, accessed⟩ := FileSystem.isFile_eq_true_iff.mp asked
      have reads := FileSystem.readText_of_bytes accessed
      rw [fileBreaksDown_iff_of_bytes accessed]
      cases decoded : Utf8.decode bytes with
      | error fault =>
        rw [decoded] at reads
        rw [readSettingsFile_of_undecodable asked reads]
        simp
      | ok characters =>
        rw [decoded] at reads
        rw [readSettingsFile_of_text asked reads, parseAs_json_eq_breakdown_iff]
        simp

end Files

/-! ## Merged layers -/

/-- The entries of the files and of the environment, merged, and the world where the directory of
the user's settings exists. -/
def mergedEntries (world : World) : Except SettingsFault (List (String × Tree) × World) := do
  let (settings, world) ← userSettings world
  let project ← projectEntries world
  return (mergeEntries (mergeEntries settings.toEntries (project.getD []))
    (environmentEntries world), world)

/-- The file of the settings of the project. -/
def projectFile (files : FileSystem) : Path :=
  ⟨"/", files.workingDirectory ++ [programName ++ ".json"]⟩

/-- How settings break down. -/
inductive BreaksDown (world : World) (overrides : Overrides) : Breakdown → Prop
  /-- There is no directory for the settings of the user. -/
  | directory {cause : Breakdown} (fails : world.openDirectory .settings = .error cause) :
    BreaksDown world overrides cause
  /-- Reading the settings of the user breaks down. -/
  | userFile {directory : Path} {after : World} {cause : Breakdown}
    (opens : world.openDirectory .settings = .ok (directory, after))
    (down : FileBreaksDown after.files (directory.child "config.json") cause) :
    BreaksDown world overrides cause
  /-- Reading the settings of the project breaks down. -/
  | projectFile {user : Settings} {after : World} {cause : Breakdown}
    (resolves : userSettings world = .ok (user, after))
    (down : FileBreaksDown after.files (projectFile after.files) cause) :
    BreaksDown world overrides cause
  /-- The command line does not find what it needs in the merged entries. -/
  | commandLine {entries : List (String × Tree)} {after : World}
    (merges : mergedEntries world = .ok (entries, after)) (misfit : ¬overrides.Fits entries) :
    BreaksDown world overrides .wrongKind

section Run

variable {world after : World} {overrides : Overrides} {entries : List (String × Tree)}
  {cause : Breakdown}

theorem userSettings_eq_breakdown_iff :
    userSettings world = .error (.breakdown cause) ↔
      world.openDirectory .settings = .error cause ∨
        ∃ directory after, world.openDirectory .settings = .ok (directory, after) ∧
          FileBreaksDown after.files (directory.child "config.json") cause := by
  unfold userSettings
  rw [bind_eq_error_iff, mapError_eq_error_iff]
  constructor
  · rintro (⟨other, fails, ⟨⟩⟩ | ⟨⟨directory, after⟩, opens, fails⟩)
    · exact .inl fails
    · rcases bind_eq_error_iff.mp fails with down | ⟨found, -, fails⟩
      · exact .inr ⟨directory, after, mapError_eq_ok_iff.mp opens,
          readSettingsFile_eq_breakdown_iff.mp down⟩
      · cases found with
        | none => cases fails
        | some entries =>
          dsimp only at fails
          split at fails <;> cases fails
  · rintro (fails | ⟨directory, after, opens, down⟩)
    · exact .inl ⟨cause, fails, rfl⟩
    · refine .inr ⟨_, mapError_eq_ok_iff.mpr opens, bind_eq_error_iff.mpr (.inl ?_)⟩
      exact readSettingsFile_eq_breakdown_iff.mpr down

theorem mergedEntries_eq_breakdown_iff :
    mergedEntries world = .error (.breakdown cause) ↔
      userSettings world = .error (.breakdown cause) ∨
        ∃ user after, userSettings world = .ok (user, after) ∧
          FileBreaksDown after.files (projectFile after.files) cause := by
  unfold mergedEntries
  rw [bind_eq_error_iff]
  constructor
  · rintro (fails | ⟨⟨user, after⟩, resolves, fails⟩)
    · exact .inl fails
    · rcases bind_eq_error_iff.mp fails with down | ⟨project, -, merges⟩
      · exact .inr ⟨user, after, resolves, readSettingsFile_eq_breakdown_iff.mp down⟩
      · cases merges
  · rintro (fails | ⟨user, after, resolves, down⟩)
    · exact .inl fails
    · refine .inr ⟨_, resolves, bind_eq_error_iff.mpr (.inl ?_)⟩
      exact readSettingsFile_eq_breakdown_iff.mpr down

theorem resolveSettings_eq (world : World) (overrides : Overrides) :
    resolveSettings world overrides = mergedEntries world >>= fun merged =>
      (applyOverrides overrides merged.1).mapError .breakdown >>= fun entries =>
        match Settings.ofEntries entries with
        | .ok settings => .ok (settings, merged.2)
        | .error complaints => .error (.badFields complaints) := by
  unfold resolveSettings mergedEntries
  cases userSettings world with
  | error fault => rfl
  | ok opened =>
    obtain ⟨user, after⟩ := opened
    cases projects : projectEntries after with
    | error fault =>
      simp only [bind, Except.bind, projects]
    | ok project =>
      simp only [bind, Except.bind, projects]
      rfl

/-- **When settings break down.** -/
theorem resolveSettings_eq_breakdown_iff :
    resolveSettings world overrides = .error (.breakdown cause) ↔
      BreaksDown world overrides cause := by
  rw [resolveSettings_eq, bind_eq_error_iff, mergedEntries_eq_breakdown_iff,
    userSettings_eq_breakdown_iff]
  constructor
  · rintro (((fails | ⟨directory, after, opens, down⟩) | ⟨user, after, resolves, down⟩) |
      ⟨⟨entries, after⟩, merges, fails⟩)
    · exact .directory fails
    · exact .userFile opens down
    · exact .projectFile resolves down
    · rcases bind_eq_error_iff.mp fails with applied | ⟨changed, -, fails⟩
      · obtain ⟨other, applied, ⟨⟩⟩ := mapError_eq_error_iff.mp applied
        obtain ⟨rfl, misfit⟩ := applyOverrides_eq_error_iff.mp applied
        exact .commandLine merges misfit
      · split at fails <;> cases fails
  · rintro (fails | ⟨opens, down⟩ | ⟨resolves, down⟩ | ⟨merges, misfit⟩)
    · exact .inl (.inl (.inl fails))
    · exact .inl (.inl (.inr ⟨_, _, opens, down⟩))
    · exact .inl (.inr ⟨_, _, resolves, down⟩)
    · refine .inr ⟨_, merges, bind_eq_error_iff.mpr (.inl (mapError_eq_error_iff.mpr ?_))⟩
      exact ⟨_, applyOverrides_eq_error_iff.mpr ⟨rfl, misfit⟩, rfl⟩

/-- **When there are settings, and which.** -/
theorem resolveSettings_eq_ok_iff {settings : Settings} :
    resolveSettings world overrides = .ok (settings, after) ↔
      ∃ entries, mergedEntries world = .ok (entries, after) ∧
        overrides.Accepts entries settings := by
  simp only [resolveSettings_eq, bind_eq_ok_iff, mapError_eq_ok_iff, ← exists_applyOverrides_iff]
  constructor
  · rintro ⟨⟨entries, opened⟩, merges, changed, applied, given⟩
    split at given
    case h_1 reads =>
      cases given
      exact ⟨entries, merges, changed, applied, reads⟩
    case h_2 => cases given
  · rintro ⟨entries, merges, changed, applied, reads⟩
    refine ⟨_, merges, changed, applied, ?_⟩
    rw [reads]

/-- **When merged entries are refused.** -/
theorem resolveSettings_refuses_iff (merges : mergedEntries world = .ok (entries, after)) :
    (∃ complaints, resolveSettings world overrides = .error (.badFields complaints)) ↔
      overrides.Fits entries ∧ ∀ settings, ¬overrides.Accepts entries settings := by
  constructor
  · rintro ⟨complaints, refuses⟩
    refine ⟨?_, fun settings accepts => ?_⟩
    · by_contra misfit
      have down := resolveSettings_eq_breakdown_iff.mpr (.commandLine merges misfit)
      cases refuses.symm.trans down
    · have resolves := resolveSettings_eq_ok_iff.mpr ⟨entries, merges, accepts⟩
      cases refuses.symm.trans resolves
  · rintro ⟨fits, none⟩
    rw [resolveSettings_eq, merges]
    cases applied : applyOverrides overrides entries with
    | error cause => exact absurd fits (applyOverrides_eq_error_iff.mp applied).2
    | ok changed =>
      cases reads : Settings.ofEntries changed with
      | ok settings =>
        exact absurd (exists_applyOverrides_iff.mp ⟨changed, applied, reads⟩) (none settings)
      | error complaints =>
        refine ⟨complaints, bind_eq_error_iff.mpr (.inr ⟨_, rfl, ?_⟩)⟩
        refine bind_eq_error_iff.mpr (.inr ⟨changed, mapError_eq_ok_iff.mpr applied, ?_⟩)
        simp only [reads]

/-- What stands in entries cannot be read, whatever the command line sets inside. -/
inductive Overrides.Spoiled (overrides : Overrides) (entries : List (String × Tree)) : Prop
  /-- The settings of reports are no mapping. -/
  | output {value : Tree} (found : lookup? "output" entries = some value)
    (plain : ∀ nested, value ≠ .mapping nested) : Spoiled overrides entries
  /-- The settings of remote references are no mapping. -/
  | remote {value : Tree} (found : lookup? "remote_refs" entries = some value)
    (plain : ∀ nested, value ≠ .mapping nested) : Spoiled overrides entries
  /-- The ignore patterns are no list of texts, and nothing is put behind them. -/
  | excluded {value : Tree} (bare : overrides.excluded = [])
    (found : lookup? "exclude" entries = some value)
    (noTexts : ∀ texts : List String, value ≠ .list (texts.map .text)) :
    Spoiled overrides entries
  /-- What the command line puts its ignore patterns behind are no texts. -/
  | members {items : List Tree} (more : overrides.excluded ≠ [])
    (known : knownPatterns entries = .ok items)
    (noTexts : ∀ texts : List String, items ≠ texts.map .text) : Spoiled overrides entries

theorem Overrides.Spoiled.not_accepts (spoiled : overrides.Spoiled entries) (settings : Settings) :
    ¬overrides.Accepts entries settings := by
  rintro ⟨fits, records, leaves, known, behind, listed⟩
  cases spoiled with
  | output found plain =>
    obtain ⟨nested, mapping⟩ := records.output _ found
    exact plain nested mapping
  | remote found plain =>
    obtain ⟨nested, mapping⟩ := records.remote _ found
    exact plain nested mapping
  | excluded bare found noTexts =>
    rw [if_pos bare, Setting.givenBy_singleton_iff, Setting.excluded, at?_single, found] at listed
    exact noTexts known (readTexts_eq_ok_iff.mp listed)
  | members more found noTexts =>
    rw [if_neg more] at listed
    exact noTexts known (Except.ok.inj (found.symm.trans listed))

/-- A level is read from its own number and from no other. -/
theorem Level.readInteger_of_read {tree : Tree} {level : Level}
    (reads : Level.read tree = .ok level) : readInteger tree = .ok level.number := by
  obtain ⟨number, between, given⟩ := bind_eq_ok_iff.mp reads
  obtain ⟨value, integer, inside⟩ := bind_eq_ok_iff.mp between
  split at inside
  case isTrue => cases inside
  case isFalse least =>
    split at inside
    case isTrue => cases inside
    case isFalse most =>
      cases inside
      have range : number = 0 ∨ number = 1 ∨ number = 2 := by
        simp only [Level.number] at least most
        omega
      rcases range with rfl | rfl | rfl <;> cases given <;> exact integer

theorem Level.number_between (level : Level) :
    Level.parseOnly.number ≤ level.number ∧ level.number ≤ Level.full.number := by
  cases level <;> decide

/-- The level of the command line is taken as it is. -/
theorem Overrides.Accepts.level_number {settings : Settings}
    (accepts : overrides.Accepts entries settings) {number : Int}
    (given : overrides.level = some number) : settings.level.number = number := by
  have said : (Tree.mapping overrides.toEntries).at? Setting.level.place =
      some (.integer number) := by
    obtain ⟨level, format, enabled, _⟩ := overrides
    cases given
    rfl
  have reads := accepts.leaves.level
  rw [Setting.GivenBy, List.findSome?_cons, said] at reads
  exact (Except.ok.inj (Level.readInteger_of_read reads)).symm

/-- **How a run comes to its settings.**  Reading them breaks down exactly in the ways of
`BreaksDown`; every other fault says which layer is wrong.  There are settings exactly if the files
can be merged and the command line and the merged entries give them together; they have one of the
levels, and that of the command line if it has one, and are read again as they are.  Where the
settings of reports or of remote references are no mapping, or the ignore patterns no texts, the
merged entries are refused exactly if the command line finds what it needs in them, that is, if it
sets nothing inside what is no mapping and puts nothing behind what has no members. -/
theorem resolveSettings_outcomes (world : World) (overrides : Overrides) :
    (∀ cause, resolveSettings world overrides = .error (.breakdown cause) ↔
      BreaksDown world overrides cause) ∧
    (∀ settings after, resolveSettings world overrides = .ok (settings, after) ↔
      ∃ entries, mergedEntries world = .ok (entries, after) ∧
        overrides.Accepts entries settings) ∧
    (∀ settings after, resolveSettings world overrides = .ok (settings, after) →
      Level.parseOnly.number ≤ settings.level.number ∧
        settings.level.number ≤ Level.full.number ∧
        (∀ number, overrides.level = some number → settings.level.number = number) ∧
        Settings.ofEntries settings.toEntries = .ok settings) ∧
    ∀ entries after, mergedEntries world = .ok (entries, after) → overrides.Spoiled entries →
      ((∃ complaints, resolveSettings world overrides = .error (.badFields complaints)) ↔
        overrides.Fits entries) := by
  refine ⟨fun _ => resolveSettings_eq_breakdown_iff, fun _ _ => resolveSettings_eq_ok_iff, ?_, ?_⟩
  · intro settings after resolves
    obtain ⟨entries, -, accepts⟩ := resolveSettings_eq_ok_iff.mp resolves
    obtain ⟨least, most⟩ := settings.level.number_between
    exact ⟨least, most, fun _ => accepts.level_number, settings.ofEntries_toEntries⟩
  · intro entries after merges spoiled
    rw [resolveSettings_refuses_iff merges]
    exact and_iff_left spoiled.not_accepts

end Run

/-! ## A number for the settings of reports -/

/-- Settings of a project with a number where those of reports are grouped, as they are written. -/
def spoiledText : String := "\x7b\"output\": 5\x7d"

/-- A file system with a number where a project groups the settings of reports. -/
def spoiledFiles : FileSystem where
  root := .directory [
    ("home", .directory [(".config", .directory [("oasgate", .directory [])])]),
    ("work", .directory [("oasgate.json", .file (asciiBytes spoiledText))])]
  workingDirectory := ["work"]

/-- A world with settings of a project alone. -/
def spoiledWorld : World where
  files := spoiledFiles
  environment := [("HOME", "/home")]
  network := []
  standardInput := ""
  terminal := false
  systemName := "Linux"
  homes := []

/-- The entries of the world, merged. -/
def spoiledEntries : List (String × Tree) :=
  mergeEntries Settings.default.toEntries [("output", .integer 5)]

theorem mergedEntries_spoiledWorld :
    mergedEntries spoiledWorld = .ok (spoiledEntries, spoiledWorld) := by
  have directory : spoiledFiles.Leads ⟨"/", ["home", ".config", "oasgate"]⟩ (.directory []) :=
    ⟨by decide, by decide, by decide, nofun, rfl⟩
  have makes := directory.makeDirectories rfl (by decide) (by decide)
  have opens : spoiledWorld.openDirectory .settings =
      .ok (⟨"/", ["home", ".config", "oasgate"]⟩, spoiledWorld) := by
    unfold World.openDirectory
    exact bind_eq_ok_iff.mpr ⟨_, rfl, bind_eq_ok_iff.mpr ⟨_, makes, rfl⟩⟩
  have absent : spoiledFiles.isFile ⟨"/", ["home", ".config", "oasgate", "config.json"]⟩ =
      .ok false :=
    directory.satisfies_missing (by decide) rfl (by decide) (by decide) Entry.isFile
  have resolves : userSettings spoiledWorld = .ok (.default, spoiledWorld) := by
    unfold userSettings
    exact bind_eq_ok_iff.mpr ⟨_, mapError_eq_ok_iff.mpr opens,
      bind_eq_ok_iff.mpr ⟨none, readSettingsFile_of_absent absent, rfl⟩⟩
  have projectFile : spoiledFiles.Leads ⟨"/", ["work", "oasgate.json"]⟩
      (.file (asciiBytes spoiledText)) := ⟨by decide, by decide, by decide, nofun, rfl⟩
  have decodes : Utf8.decode (asciiBytes spoiledText) = .ok spoiledText.toList := rfl
  have readsProject : projectEntries spoiledWorld = .ok (some [("output", .integer 5)]) :=
    readSettingsFile_of_leads projectFile decodes rfl
  unfold mergedEntries
  exact bind_eq_ok_iff.mpr ⟨_, resolves, bind_eq_ok_iff.mpr ⟨_, readsProject, rfl⟩⟩

/-- A format of the command line breaks down on the number, which is not refused. -/
theorem format_breaks_down :
    mergedEntries spoiledWorld = .ok (spoiledEntries, spoiledWorld) ∧
      lookup? "output" spoiledEntries = some (.integer 5) ∧
      resolveSettings spoiledWorld ⟨none, some "json", none, []⟩ =
        .error (.breakdown .wrongKind) := by
  have found : lookup? "output" spoiledEntries = some (.integer 5) := rfl
  refine ⟨mergedEntries_spoiledWorld, found, resolveSettings_eq_breakdown_iff.mpr
    (.commandLine mergedEntries_spoiledWorld fun fits => ?_)⟩
  obtain ⟨nested, mapping⟩ := fits.output rfl
  cases found.symm.trans mapping

/-- Without a format, the number is refused. -/
theorem number_is_refused :
    mergedEntries spoiledWorld = .ok (spoiledEntries, spoiledWorld) ∧
      (Overrides.mk none none none []).Spoiled spoiledEntries ∧
      ∃ complaints, resolveSettings spoiledWorld ⟨none, none, none, []⟩ =
        .error (.badFields complaints) := by
  have spoiled : (Overrides.mk none none none []).Spoiled spoiledEntries := .output rfl nofun
  obtain ⟨-, -, -, refuses⟩ := resolveSettings_outcomes spoiledWorld ⟨none, none, none, []⟩
  have fits : (Overrides.mk none none none []).Fits spoiledEntries :=
    ⟨nofun, nofun, fun more => absurd rfl more⟩
  exact ⟨mergedEntries_spoiledWorld, spoiled,
    (refuses _ _ mergedEntries_spoiledWorld spoiled).mpr fits⟩

end ApiAdmission
