import ApiAdmission.Proofs.Settings.Resolution

/-!
# The format and the other settings

The format that the command line sets has no part in any other setting, nor in whether there are
settings at all (`resolveSettings_format`): up to the end, the entries with one format are those
with the other, but for what stands under the format.
-/

namespace ApiAdmission

set_option autoImplicit false

open Record
open ApiAdmission.Tree (lookup? insertEntry)

/-- Entries that are the same but for the two formats that they set. -/
structure AlikeBut (format other : String) (entries others : List (String × Tree)) : Prop where
  same : ∀ key, key ≠ "output" → lookup? key entries = lookup? key others
  output : ∃ nested,
    lookup? "output" entries = some (.mapping (insertEntry "format" (.text format) nested)) ∧
    lookup? "output" others = some (.mapping (insertEntry "format" (.text other) nested))

section Entries

variable {format other : String} {entries others after : List (String × Tree)}

theorem AlikeBut.insert (alike : AlikeBut format other entries others) {key : String}
    (beside : key ≠ "output") (value : Tree) :
    AlikeBut format other (insertEntry key value entries) (insertEntry key value others) := by
  obtain ⟨same, nested, output, otherOutput⟩ := alike
  refine ⟨fun name notOutput => ?_, nested, ?_, ?_⟩
  · rw [Tree.lookup?_insertEntry, Tree.lookup?_insertEntry, same name notOutput]
  · rw [Tree.lookup?_insertEntry, if_neg (Ne.symm beside), output]
  · rw [Tree.lookup?_insertEntry, if_neg (Ne.symm beside), otherOutput]

theorem AlikeBut.setInside (alike : AlikeBut format other entries others) {outer inner : String}
    (beside : outer ≠ "output") {value : Tree}
    (sets : ApiAdmission.setInside outer inner value entries = .ok after) :
    ∃ otherAfter, ApiAdmission.setInside outer inner value others = .ok otherAfter ∧
      AlikeBut format other after otherAfter := by
  unfold ApiAdmission.setInside at sets ⊢
  rw [← alike.same outer beside]
  split at sets
  · cases sets
    exact ⟨_, rfl, alike.insert beside _⟩
  · cases sets

theorem AlikeBut.extendPatterns (alike : AlikeBut format other entries others)
    {more : List String} (extended : ApiAdmission.extendPatterns more entries = .ok after) :
    ∃ otherAfter, ApiAdmission.extendPatterns more others = .ok otherAfter ∧
      AlikeBut format other after otherAfter := by
  have beside : "exclude" ≠ "output" := by decide
  unfold ApiAdmission.extendPatterns at extended ⊢
  rw [← alike.same _ beside]
  dsimp only at extended ⊢
  split at extended
  case isTrue truthy =>
    obtain ⟨known, patterns, given⟩ := bind_eq_ok_iff.mp extended
    cases given
    rw [if_pos truthy]
    exact ⟨_, bind_eq_ok_iff.mpr ⟨known, patterns, rfl⟩, alike.insert beside _⟩
  case isFalse empty =>
    cases extended
    rw [if_neg empty]
    exact ⟨_, rfl, alike.insert beside _⟩

/-- The command line sets its format alone. -/
theorem alikeBut_of_setInside
    (sets : ApiAdmission.setInside "output" "format" (.text format) entries = .ok after)
    (other : String) :
    ∃ otherAfter, ApiAdmission.setInside "output" "format" (.text other) entries = .ok otherAfter ∧
      AlikeBut format other after otherAfter := by
  unfold ApiAdmission.setInside at sets ⊢
  split at sets
  case h_1 nested stored =>
    cases sets
    refine ⟨_, rfl, fun key beside => ?_, nested, ?_, ?_⟩
    · simp [Tree.lookup?_insertEntry, beside]
    · simp [Tree.lookup?_insertEntry]
    · simp [Tree.lookup?_insertEntry]
  case h_2 => cases sets

theorem alikeBut_of_applyOverrides {overrides : Overrides}
    (applied : applyOverrides { overrides with format := some format } entries = .ok after)
    (other : String) :
    ∃ otherAfter,
      applyOverrides { overrides with format := some other } entries = .ok otherAfter ∧
      AlikeBut format other after otherAfter := by
  obtain ⟨level, _, remote, patterns⟩ := overrides
  obtain ⟨formatted, sets, applied⟩ := bind_eq_ok_iff.mp applied
  obtain ⟨otherFormatted, otherSets, alike⟩ := alikeBut_of_setInside sets other
  have last : ∀ {below otherBelow : List (String × Tree)}, AlikeBut format other below otherBelow →
      (if patterns.isEmpty then pure below else extendPatterns patterns below) = Except.ok after →
      ∃ otherAfter, (if patterns.isEmpty then pure otherBelow
        else extendPatterns patterns otherBelow) = Except.ok otherAfter ∧
        AlikeBut format other after otherAfter := by
    intro below otherBelow alike given
    split at given
    case isTrue none =>
      cases given
      rw [if_pos none]
      exact ⟨_, rfl, alike⟩
    case isFalse some =>
      rw [if_neg some]
      exact alike.extendPatterns given
  cases remote with
  | none =>
    obtain ⟨otherAfter, otherApplied, alike⟩ := last alike applied
    exact ⟨otherAfter, bind_eq_ok_iff.mpr ⟨_, otherSets, otherApplied⟩, alike⟩
  | some enabled =>
    obtain ⟨loaded, loads, applied⟩ := bind_eq_ok_iff.mp applied
    obtain ⟨otherLoaded, otherLoads, alike⟩ := alike.setInside (by decide) loads
    obtain ⟨otherAfter, otherApplied, alike⟩ := last alike applied
    exact ⟨otherAfter, bind_eq_ok_iff.mpr ⟨_, otherSets,
      bind_eq_ok_iff.mpr ⟨_, otherLoads, otherApplied⟩⟩, alike⟩

/-! ## Settings -/

theorem AlikeBut.at?_eq (alike : AlikeBut format other entries others) {key : String}
    (beside : key ≠ "output") (rest : List String) :
    (Tree.mapping entries).at? (key :: rest) = (Tree.mapping others).at? (key :: rest) := by
  show (lookup? key entries).bind _ = (lookup? key others).bind _
  rw [alike.same key beside]

/-- What is read from entries that differ in the format differs in the format alone. -/
theorem AlikeBut.ofEntries {format other : OutputFormat}
    (alike : AlikeBut format.name other.name entries others) {settings : Settings}
    (reads : Settings.ofEntries entries = .ok settings) :
    settings.format = format ∧
      Settings.ofEntries others = .ok { settings with format := other } := by
  obtain ⟨records, leaves, listed⟩ := Settings.ofEntries_eq_ok_iff.mp reads
  obtain ⟨nested, output, otherOutput⟩ := alike.output
  have record : ∀ {key}, key ≠ "output" → HasRecord entries key → HasRecord others key := by
    intro key beside record value found
    exact record value ((alike.same key beside).trans found)
  have otherRecord : HasRecord others "output" := by
    intro value found
    exact ⟨_, Option.some.inj (found.symm.trans otherOutput)⟩
  have given : ∀ {α : Type} {setting : Setting α} {value : α} {key rest},
      setting.place = key :: rest → key ≠ "output" →
      setting.GivenBy [.mapping entries] value → setting.GivenBy [.mapping others] value := by
    intro α setting value key rest place beside given
    refine given.congr ?_
    rw [List.findSome?_singleton, List.findSome?_singleton, place, alike.at?_eq beside]
  have written : (Tree.mapping entries).at? Setting.format.place =
      some (Setting.format.write format) := by
    rw [Setting.format, at?_pair, entriesUnder_of_mapping output, Tree.lookup?_insertEntry]
    rfl
  have otherWritten : (Tree.mapping others).at? Setting.format.place =
      some (Setting.format.write other) := by
    rw [Setting.format, at?_pair, entriesUnder_of_mapping otherOutput, Tree.lookup?_insertEntry]
    rfl
  refine ⟨leaves.format.unique (Setting.givenBy_written written), Settings.ofEntries_eq_ok_iff.mpr
    ⟨⟨otherRecord, record (by decide) records.remote, record (by decide) records.cache⟩, ?_,
      given rfl (by decide) listed⟩⟩
  exact {
    level := given rfl (by decide) leaves.level
    format := Setting.givenBy_written otherWritten
    loading := given rfl (by decide) leaves.loading
    timeout := given rfl (by decide) leaves.timeout
    keeping := given rfl (by decide) leaves.keeping
    lifetime := given rfl (by decide) leaves.lifetime }

end Entries

/-- **The format has no part in the other settings.** -/
theorem resolveSettings_format {world after : World} {overrides : Overrides} {settings : Settings}
    {format : OutputFormat}
    (resolves : resolveSettings world { overrides with format := some format.name } =
      .ok (settings, after)) (other : OutputFormat) :
    settings.format = format ∧
      resolveSettings world { overrides with format := some other.name } =
        .ok ({ settings with format := other }, after) := by
  unfold resolveSettings at resolves ⊢
  obtain ⟨⟨user, opened⟩, readsUser, resolves⟩ := bind_eq_ok_iff.mp resolves
  obtain ⟨project, readsProject, resolves⟩ := bind_eq_ok_iff.mp resolves
  obtain ⟨entries, applied, resolves⟩ := bind_eq_ok_iff.mp resolves
  obtain ⟨others, otherApplied, alike⟩ :=
    alikeBut_of_applyOverrides (mapError_eq_ok_iff.mp applied) other.name
  cases reads : Settings.ofEntries entries with
  | error complaints =>
    simp only [reads] at resolves
    cases resolves
  | ok found =>
    simp only [reads] at resolves
    cases resolves
    obtain ⟨same, otherReads⟩ := alike.ofEntries reads
    refine ⟨same, bind_eq_ok_iff.mpr ⟨_, readsUser, bind_eq_ok_iff.mpr ⟨_, readsProject,
      bind_eq_ok_iff.mpr ⟨_, mapError_eq_ok_iff.mpr otherApplied, ?_⟩⟩⟩⟩
    simp only [otherReads]
    rfl

end ApiAdmission
