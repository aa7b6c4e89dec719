import ApiAdmission.Proofs.Json.Distinct
import ApiAdmission.Proofs.Settings.Precedence
import ApiAdmission.Proofs.World.Lookup

/-!
# The settings of a run

The settings of a run come from four layers: the file of the user, the file of the project, the
environment and the command line.  If each of them is readable on its own, then the run has
settings, and each single setting is what the first layer that says it says, the command line first
and the user last; the ignore patterns of the command line stand behind those of the files
(`resolveSettings_of_valid`).

Besides its ignore patterns, the command line is merged like any other layer (`applyOverrides_eq`).
-/

namespace ApiAdmission

set_option autoImplicit false

open Record
open ApiAdmission.Tree (lookup? insertEntry)

variable {entries : List (String × Tree)}

/-! ## The command line -/

/-- What the command line sets, as the entries of a layer. -/
def Overrides.toEntries (overrides : Overrides) : List (String × Tree) :=
  (overrides.level.map fun level => ("validation_level", Tree.integer level)).toList ++
  (overrides.format.map fun format =>
    ("output", Tree.mapping [("format", .text format)])).toList ++
  (overrides.remote.map fun enabled =>
    ("remote_refs", Tree.mapping [("enabled", .boolean enabled)])).toList

theorem Overrides.distinct_toEntries (overrides : Overrides) :
    (Tree.mapping overrides.toEntries).Distinct := by
  obtain ⟨level, format, enabled, _⟩ := overrides
  cases level <;> cases format <;> cases enabled <;> simp [toEntries, Tree.distinct_mapping_iff]

theorem Overrides.at?_exclude_toEntries (overrides : Overrides) :
    (Tree.mapping overrides.toEntries).at? Setting.excluded.place = none := by
  obtain ⟨level, format, enabled, _⟩ := overrides
  cases level <;> cases format <;> cases enabled <;> rfl

/-- Besides the ignore patterns, the command line is one more layer, if there are mappings where it
sets something inside one. -/
theorem applyOverrides_eq (overrides : Overrides)
    {output remote : List (String × Tree)}
    (outputs : overrides.format.isSome → lookup? "output" entries = some (.mapping output))
    (remotes : overrides.remote.isSome → lookup? "remote_refs" entries = some (.mapping remote)) :
    applyOverrides overrides entries =
      if overrides.excluded.isEmpty then .ok (mergeEntries entries overrides.toEntries)
      else extendPatterns overrides.excluded (mergeEntries entries overrides.toEntries) := by
  obtain ⟨level, format, enabled, patterns⟩ := overrides
  cases level <;> cases format <;> cases enabled <;>
    simp [applyOverrides, Overrides.toEntries, setInside, mergeEntries, mergeValue,
      Tree.lookup?_insertEntry, outputs, remotes, bind, Except.bind, pure, Except.pure]

/-- The ignore patterns of full entries are extended by one more layer. -/
theorem Full.extendPatterns_eq (full : Full entries) (more : List String) :
    ∃ known, Setting.excluded.GivenBy [.mapping entries] known ∧
      extendPatterns more entries =
        .ok (mergeEntries entries [("exclude", Setting.excluded.write (known ++ more))]) := by
  obtain ⟨settings, reads⟩ := full.readable
  obtain ⟨-, -, listed⟩ := Settings.ofEntries_eq_ok_iff.mp reads
  refine ⟨settings.excluded, listed, ?_⟩
  have said := full.said Setting.excluded.place (Settings.mem_places.mpr (by simp))
  obtain ⟨tree, found⟩ := Option.isSome_iff_exists.mp said
  rw [Setting.givenBy_singleton_iff, found] at listed
  obtain rfl : tree = .list (settings.excluded.map .text) := readTexts_eq_ok_iff.mp listed
  rw [Setting.excluded, at?_single] at found
  rw [extendPatterns, found]
  cases settings.excluded <;>
    simp [Tree.isTruthy, Tree.elements, Setting.excluded, mergeEntries, mergeValue, bind,
      Except.bind, pure, Except.pure]

/-- A layer of ignore patterns alone. -/
def patternLayer (patterns : List String) : List (String × Tree) :=
  [("exclude", Setting.excluded.write patterns)]

theorem at?_patternLayer (patterns : List String) :
    ∀ place ∈ Settings.leafPlaces, (Tree.mapping (patternLayer patterns)).at? place = none := by
  simp only [Settings.leafPlaces, List.forall_mem_cons]
  exact ⟨rfl, rfl, rfl, rfl, rfl, rfl, fun _ member => (List.not_mem_nil member).elim⟩

theorem readable_patternLayer (patterns : List String) : Readable (patternLayer patterns) := by
  refine ⟨{ Settings.default with excluded := patterns }, Settings.ofEntries_eq_ok_iff.mpr
    ⟨⟨nofun, nofun, nofun⟩, ⟨rfl, rfl, rfl, rfl, rfl, rfl⟩, Setting.givenBy_written rfl⟩⟩

theorem distinct_patternLayer (patterns : List String) :
    (Tree.mapping (patternLayer patterns)).Distinct := by
  have texts : (Setting.excluded.write patterns).Distinct := by
    refine .list fun item member => ?_
    obtain ⟨text, -, rfl⟩ := List.mem_map.mp member
    exact Tree.distinct_text text
  simp [patternLayer, Tree.distinct_mapping_iff, texts]

/-- **What the command line makes of full entries.**  The single settings are those of the entries
with the layer of the command line over them, and its ignore patterns are behind those. -/
theorem Full.applyOverrides (full : Full entries) {overrides : Overrides}
    (readable : Readable overrides.toEntries) :
    ∃ after known, ApiAdmission.applyOverrides overrides entries = .ok after ∧ Full after ∧
      (∀ place ∈ Settings.leafPlaces, (Tree.mapping after).at? place =
        (Tree.mapping (mergeEntries entries overrides.toEntries)).at? place) ∧
      Setting.excluded.GivenBy [.mapping (mergeEntries entries overrides.toEntries)] known ∧
      Setting.excluded.GivenBy [.mapping after] (known ++ overrides.excluded) := by
  obtain ⟨output, outputs⟩ := exists_record_of_said
    (full.said Setting.format.place (Settings.mem_places.mpr (by simp)))
  obtain ⟨remote, remotes⟩ := exists_record_of_said
    (full.said Setting.loading.place (Settings.mem_places.mpr (by simp)))
  have merged := full.merge readable overrides.distinct_toEntries
  obtain ⟨known, listed, extended⟩ := merged.extendPatterns_eq overrides.excluded
  rw [applyOverrides_eq overrides (fun _ => outputs) fun _ => remotes]
  by_cases none : overrides.excluded.isEmpty
  · refine ⟨_, known, if_pos none, merged, fun _ _ => rfl, listed, ?_⟩
    rw [List.isEmpty_iff.mp none, List.append_nil]
    exact listed
  · rw [if_neg none]
    have patterns := readable_patternLayer (known ++ overrides.excluded)
    have keys := distinct_patternLayer (known ++ overrides.excluded)
    refine ⟨_, known, extended, merged.merge patterns keys, ?_, listed, ?_⟩
    · intro place leaf
      refine (merged.at?_merge patterns keys (List.mem_append_left _ leaf)).trans ?_
      rw [at?_patternLayer _ place leaf, Option.none_or]
    · exact Setting.givenBy_written
        (merged.at?_merge patterns keys (Settings.mem_places.mpr (by simp)))

/-! ## The layers of a run -/

/-- The layers of settings of a run, each as the entries that it has. -/
structure Layers where
  user : List (String × Tree)
  project : List (String × Tree)
  environment : List (String × Tree)
  commandLine : List (String × Tree)

/-- Reads the layers of a run, and gives the world where the directory of the user's settings
exists. -/
def readLayers (world : World) (overrides : Overrides) : Except SettingsFault (Layers × World) := do
  let (directory, world) ← (world.openDirectory .settings).mapError .breakdown
  let user ← readSettingsFile world .user (directory.child "config.json")
  let project ← projectEntries world
  return (⟨user.getD [], project.getD [], environmentEntries world, overrides.toEntries⟩, world)

namespace Layers

/-- The layers, the one that counts most first. -/
def inOrder (layers : Layers) : List Tree :=
  [.mapping layers.commandLine, .mapping layers.environment, .mapping layers.project,
    .mapping layers.user]

/-- Every layer is readable on its own. -/
structure Valid (layers : Layers) : Prop where
  user : Readable layers.user
  project : Readable layers.project
  environment : Readable layers.environment
  commandLine : Readable layers.commandLine

end Layers

theorem distinct_environmentEntries (world : World) :
    (Tree.mapping (environmentEntries world)).Distinct := by
  unfold environmentEntries
  cases presentValue? world "OASGATE_LEVEL" <;>
    cases presentValue? world "OASGATE_REMOTE_REFS" <;>
    cases presentValue? world "OASGATE_REMOTE_TIMEOUT" <;>
    simp [Tree.distinct_mapping_iff]

theorem at?_exclude_environmentEntries (world : World) :
    (Tree.mapping (environmentEntries world)).at? Setting.excluded.place = none := by
  unfold environmentEntries
  cases presentValue? world "OASGATE_LEVEL" <;>
    cases presentValue? world "OASGATE_REMOTE_REFS" <;>
    cases presentValue? world "OASGATE_REMOTE_TIMEOUT" <;> rfl

theorem distinct_of_parse {text : String} {tree : Tree} (parses : parseAs .json text = .ok tree) :
    tree.Distinct := by
  unfold parseAs at parses
  cases reads : Json.read text with
  | error fault => simp [reads, Except.mapError] at parses
  | ok found =>
    rw [reads] at parses
    cases parses
    exact Json.distinct_of_read reads

theorem distinct_of_readSettingsFile {world : World} {file : SettingsFile} {path : Path}
    {found : Option (List (String × Tree))}
    (reads : readSettingsFile world file path = .ok found) :
    (Tree.mapping (found.getD [])).Distinct := by
  unfold readSettingsFile at reads
  obtain ⟨present, -, reads⟩ := bind_eq_ok_iff.mp reads
  split at reads
  · cases reads
    simp [Tree.distinct_mapping_iff]
  · dsimp only at reads
    split at reads
    · obtain ⟨text, -, reads⟩ := bind_eq_ok_iff.mp reads
      split at reads
      case h_1 entries parses =>
        cases reads
        exact distinct_of_parse parses
      all_goals cases reads
    all_goals cases reads

section Run

variable {world after : World} {overrides : Overrides} {layers : Layers}

theorem readLayers_eq_ok_iff :
    readLayers world overrides = .ok (layers, after) ↔
      ∃ directory user project, world.openDirectory .settings = .ok (directory, after) ∧
        readSettingsFile after .user (directory.child "config.json") = .ok user ∧
        projectEntries after = .ok project ∧
        layers =
          ⟨user.getD [], project.getD [], environmentEntries after, overrides.toEntries⟩ := by
  unfold readLayers
  simp only [bind_eq_ok_iff, mapError_eq_ok_iff]
  constructor
  · rintro ⟨⟨directory, opened⟩, opens, user, readsUser, project, readsProject, given⟩
    cases given
    exact ⟨directory, user, project, opens, readsUser, readsProject, rfl⟩
  · rintro ⟨directory, user, project, opens, readsUser, readsProject, rfl⟩
    exact ⟨_, opens, user, readsUser, project, readsProject, rfl⟩

theorem distinct_of_readLayers (reads : readLayers world overrides = .ok (layers, after)) :
    ∀ layer ∈ [layers.commandLine, layers.environment, layers.project],
      (Tree.mapping layer).Distinct := by
  obtain ⟨directory, user, project, -, -, readsProject, rfl⟩ := readLayers_eq_ok_iff.mp reads
  simp only [List.forall_mem_cons]
  exact ⟨overrides.distinct_toEntries, distinct_environmentEntries after,
    distinct_of_readSettingsFile readsProject, nofun⟩

theorem userSettings_of_readLayers {settings : Settings}
    (reads : readLayers world overrides = .ok (layers, after))
    (readable : Settings.ofEntries layers.user = .ok settings) :
    userSettings world = .ok (settings, after) := by
  obtain ⟨directory, user, project, opens, readsUser, -, rfl⟩ := readLayers_eq_ok_iff.mp reads
  unfold userSettings
  refine bind_eq_ok_iff.mpr ⟨_, mapError_eq_ok_iff.mpr opens, bind_eq_ok_iff.mpr ⟨_, readsUser, ?_⟩⟩
  cases user with
  | none =>
    cases readable
    rfl
  | some entries =>
    replace readable : Settings.ofEntries entries = .ok settings := readable
    simp only [readable]
    rfl

/-- **Which layer the settings of a run come from.**  If every layer is readable on its own, there
are settings.  Each single setting is what the first layer that says it says, the command line
before the environment, the project and the user; the ignore patterns are those of the project or
else of the user, with those of the command line behind them. -/
theorem resolveSettings_of_valid (reads : readLayers world overrides = .ok (layers, after))
    (valid : layers.Valid) :
    ∃ settings configured, resolveSettings world overrides = .ok (settings, after) ∧
      settings.LeavesFrom layers.inOrder ∧
      Setting.excluded.GivenBy [.mapping layers.project, .mapping layers.user] configured ∧
      settings.excluded = configured ++ overrides.excluded := by
  obtain ⟨user, readsUser⟩ := valid.user
  obtain ⟨-, userLeaves, userPatterns⟩ := Settings.ofEntries_eq_ok_iff.mp readsUser
  have resolved := userSettings_of_readLayers reads readsUser
  have keys := distinct_of_readLayers reads
  obtain ⟨_, _, project, -, -, readsProject, rfl⟩ := readLayers_eq_ok_iff.mp reads
  have below : Full (mergeEntries (mergeEntries user.toEntries (project.getD []))
      (environmentEntries after)) :=
    (user.full_toEntries.merge valid.project (keys _ (by simp))).merge valid.environment
      (keys _ (by simp))
  obtain ⟨entries, configured, applied, full, leaves, patterns, behind⟩ :=
    below.applyOverrides valid.commandLine
  obtain ⟨settings, readsAll⟩ := full.readable
  obtain ⟨-, settingsLeaves, settingsPatterns⟩ := Settings.ofEntries_eq_ok_iff.mp readsAll
  have readable : ∀ layer ∈ [overrides.toEntries, environmentEntries after, project.getD []],
      Readable layer := by
    simp only [List.forall_mem_cons]
    exact ⟨valid.commandLine, valid.environment, valid.project, nofun⟩
  have first := (user.full_toEntries.mergeLayers readable keys).2
  refine ⟨settings, configured, ?resolves, ?single, ?listed, settingsPatterns.unique behind⟩
  case resolves =>
    unfold resolveSettings
    refine bind_eq_ok_iff.mpr ⟨_, resolved, bind_eq_ok_iff.mpr ⟨_, readsProject, ?_⟩⟩
    refine bind_eq_ok_iff.mpr ⟨entries, mapError_eq_ok_iff.mpr applied, ?_⟩
    simp only [readsAll]
    rfl
  case single =>
    have above : settings.LeavesFrom ([.mapping overrides.toEntries,
        .mapping (environmentEntries after), .mapping (project.getD [])] ++
        [.mapping user.toEntries]) := by
      refine settingsLeaves.congr fun place leaf => ?_
      rw [List.findSome?_singleton, leaves place leaf]
      exact first place (List.mem_append_left _ leaf)
    exact userLeaves.of_written above
  case listed =>
    have written : Setting.excluded.GivenBy ([.mapping (project.getD [])] ++
        [.mapping user.toEntries]) configured := by
      refine patterns.congr ?_
      rw [List.findSome?_singleton]
      refine (first _ (Settings.mem_places.mpr (by simp))).trans ?_
      simp only [List.map_cons, List.cons_append, List.findSome?_cons,
        overrides.at?_exclude_toEntries, at?_exclude_environmentEntries]
      rfl
    exact written.of_written rfl userPatterns

end Run

/-! ## A run with four layers -/

theorem readSettingsFile_of_leads {world : World} {file : SettingsFile} {path : Path}
    {content : List UInt8} {characters : List Char} {entries : List (String × Tree)}
    (leads : world.files.Leads path (.file content))
    (decodes : Utf8.decode content = .ok characters)
    (parses : parseAs .json (String.ofList (Text.normalizeNewlines characters)) =
      .ok (.mapping entries)) : readSettingsFile world file path = .ok (some entries) := by
  have present : world.files.isFile path = .ok true := leads.satisfies Entry.isFile
  unfold readSettingsFile
  refine bind_eq_ok_iff.mpr ⟨true, mapError_eq_ok_iff.mpr present, ?_⟩
  simp only [leads.readText decodes, Bool.not_true, Bool.false_eq_true, if_false]
  refine bind_eq_ok_iff.mpr ⟨_, rfl, ?_⟩
  rw [parses]
  rfl

/-- The settings of a user, as they are written. -/
def userText : String := "\x7b\"validation_level\": 0, \"exclude\": [\"*.tmp\"]\x7d"

/-- The settings of a project, as they are written. -/
def projectText : String := "\x7b\"remote_refs\": \x7b\"timeout\": 5\x7d\x7d"

/-- A file system with settings of a user and of a project. -/
def layeredFiles : FileSystem where
  root := .directory [
    ("home", .directory [(".config", .directory [("oasgate", .directory [
      ("config.json", .file (asciiBytes userText))])])]),
    ("work", .directory [("oasgate.json", .file (asciiBytes projectText))])]
  workingDirectory := ["work"]

/-- A world with settings in files and in the environment. -/
def layeredWorld : World where
  files := layeredFiles
  environment := [("HOME", "/home"), ("OASGATE_REMOTE_REFS", "off")]
  network := []
  standardInput := ""
  terminal := false
  systemName := "Linux"
  homes := []

/-- A command line that sets the format, loads remote references and leaves out some files. -/
def layeredOverrides : Overrides := ⟨none, some "plain", some true, ["*.bak"]⟩

/-- What the layers say. -/
def layeredLayers : Layers where
  user := [("validation_level", .integer 0), ("exclude", .list [.text "*.tmp"])]
  project := [("remote_refs", .mapping [("timeout", .integer 5)])]
  environment := [("remote_refs", .mapping [("enabled", .boolean false)])]
  commandLine := [("output", .mapping [("format", .text "plain")]),
    ("remote_refs", .mapping [("enabled", .boolean true)])]

theorem readLayers_layeredWorld :
    readLayers layeredWorld layeredOverrides = .ok (layeredLayers, layeredWorld) := by
  have directory : layeredFiles.Leads ⟨"/", ["home", ".config", "oasgate"]⟩
      (.directory [("config.json", .file (asciiBytes userText))]) :=
    ⟨by decide, by decide, by decide, nofun, rfl⟩
  have makes := directory.makeDirectories rfl (by decide) (by decide)
  have userFile : layeredFiles.Leads ⟨"/", ["home", ".config", "oasgate", "config.json"]⟩
      (.file (asciiBytes userText)) := ⟨by decide, by decide, by decide, nofun, rfl⟩
  have userDecodes : Utf8.decode (asciiBytes userText) = .ok userText.toList := rfl
  have projectFile : layeredFiles.Leads ⟨"/", ["work", "oasgate.json"]⟩
      (.file (asciiBytes projectText)) := ⟨by decide, by decide, by decide, nofun, rfl⟩
  have projectDecodes : Utf8.decode (asciiBytes projectText) = .ok projectText.toList := rfl
  have readsUser : readSettingsFile layeredWorld .user
      ⟨"/", ["home", ".config", "oasgate", "config.json"]⟩ = .ok (some layeredLayers.user) :=
    readSettingsFile_of_leads userFile userDecodes rfl
  have readsProject : projectEntries layeredWorld = .ok (some layeredLayers.project) :=
    readSettingsFile_of_leads projectFile projectDecodes rfl
  refine readLayers_eq_ok_iff.mpr ⟨⟨"/", ["home", ".config", "oasgate"]⟩, some layeredLayers.user,
    some layeredLayers.project, ?_, readsUser, readsProject, rfl⟩
  unfold World.openDirectory
  exact bind_eq_ok_iff.mpr ⟨_, rfl, bind_eq_ok_iff.mpr ⟨_, makes, rfl⟩⟩

/-- The user has the level and a pattern, the project the timeout, and the command line the rest;
what it says about loading comes before what the environment says. -/
theorem resolveSettings_layeredWorld :
    readLayers layeredWorld layeredOverrides = .ok (layeredLayers, layeredWorld) ∧
      layeredLayers.Valid ∧
      ∃ settings, resolveSettings layeredWorld layeredOverrides = .ok (settings, layeredWorld) ∧
        settings.level = .parseOnly ∧ settings.format = .plain ∧ settings.remote.enabled = true ∧
        settings.remote.timeout = .ofInteger 5 ∧ settings.cache = CacheSettings.default ∧
        settings.excluded = ["*.tmp", "*.bak"] := by
  have valid : layeredLayers.Valid := ⟨⟨_, rfl⟩, ⟨_, rfl⟩, ⟨_, rfl⟩, ⟨_, rfl⟩⟩
  obtain ⟨settings, configured, resolves, leaves, listed, patterns⟩ :=
    resolveSettings_of_valid readLayers_layeredWorld valid
  have known : Setting.excluded.GivenBy
      [.mapping layeredLayers.project, .mapping layeredLayers.user] ["*.tmp"] := rfl
  refine ⟨readLayers_layeredWorld, valid, settings, resolves, (Except.ok.inj leaves.level).symm,
    (Except.ok.inj leaves.format).symm, (Except.ok.inj leaves.loading).symm,
    (Except.ok.inj leaves.timeout).symm, ?_, ?_⟩
  · have keeping : settings.cache.enabled = CacheSettings.default.enabled := leaves.keeping
    have lifetime : settings.cache.lifetime = CacheSettings.default.lifetime := leaves.lifetime
    cases caching : settings.cache with
    | mk enabled seconds =>
      rw [caching] at keeping lifetime
      exact congr (congrArg CacheSettings.mk keeping) lifetime
  · rw [patterns, listed.unique known]
    rfl

end ApiAdmission
