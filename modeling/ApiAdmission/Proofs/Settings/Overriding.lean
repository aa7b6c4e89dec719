import ApiAdmission.Proofs.Settings.Resolution

/-!
# The command line over any entries

The command line is put over entries that nobody has read as settings before, so that anything may
stand at any key of them.  It finds what it needs if there are mappings where it sets something
inside one, and if its ignore patterns are put behind something that has members (`Overrides.Fits`).
If not, it breaks down, and this is the only way in which it does
(`applyOverrides_eq_error_iff`).

Where it fits, what comes of it is read as settings exactly if the entries hold mappings where
settings are grouped, and the single settings and the ignore patterns can be read
(`exists_applyOverrides_iff`).  The ignore patterns are not read before those of the command line
stand behind them, so a text, a mapping or nothing passes for a list of texts there.
-/

namespace ApiAdmission

set_option autoImplicit false

open Record
open ApiAdmission.Tree (lookup? insertEntry)

/-- The ignore patterns that the command line finds: the members of what stands there, and none if
that counts as false. -/
def knownPatterns (entries : List (String × Tree)) : Except Breakdown (List Tree) :=
  let old := (lookup? "exclude" entries).getD .null
  if old.isTruthy then old.elements else .ok []

/-- A text passes for the list of its characters. -/
example : knownPatterns [("exclude", .text "ab")] = .ok [.text "a", .text "b"] := rfl

namespace Overrides

/-- Entries in which the command line finds what it needs. -/
structure Fits (overrides : Overrides) (entries : List (String × Tree)) : Prop where
  output : overrides.format.isSome → ∃ nested, lookup? "output" entries = some (.mapping nested)
  remote : overrides.remote.isSome →
    ∃ nested, lookup? "remote_refs" entries = some (.mapping nested)
  patterns : overrides.excluded ≠ [] → ∃ items, knownPatterns entries = .ok items

/-- Settings that come of entries with the command line over them. -/
structure Accepts (overrides : Overrides) (entries : List (String × Tree)) (settings : Settings) :
    Prop where
  fits : overrides.Fits entries
  records : HasRecords entries
  leaves : settings.LeavesFrom [.mapping overrides.toEntries, .mapping entries]
  patterns : ∃ known, settings.excluded = known ++ overrides.excluded ∧
    if overrides.excluded = [] then Setting.excluded.GivenBy [.mapping entries] known
    else knownPatterns entries = .ok (known.map .text)

end Overrides

variable {overrides : Overrides} {entries after : List (String × Tree)}

/-! ## Breaking down -/

section Breakdowns

variable {cause : Breakdown} {outer inner : String} {value : Option Tree}

/-- Sets a value inside the mapping under a key, if there is a value. -/
def setGiven (outer inner : String) (value : Option Tree) (entries : List (String × Tree)) :
    Except Breakdown (List (String × Tree)) :=
  match value with
  | some value => setInside outer inner value entries
  | none => .ok entries

theorem of_setGiven (sets : setGiven outer inner value entries = .ok after) :
    (value.isSome → ∃ nested, lookup? outer entries = some (.mapping nested)) ∧
      ∀ key, key ≠ outer → lookup? key after = lookup? key entries := by
  cases value with
  | none =>
    cases sets
    exact ⟨nofun, fun _ _ => rfl⟩
  | some value =>
    unfold setGiven setInside at sets
    dsimp only at sets
    split at sets
    case h_1 nested found =>
      cases sets
      refine ⟨fun _ => ⟨nested, found⟩, fun key beside => ?_⟩
      rw [Tree.lookup?_insertEntry, if_neg beside]
    case h_2 => cases sets

theorem eq_wrongKind_of_setGiven (fails : setGiven outer inner value entries = .error cause) :
    cause = .wrongKind := by
  cases value with
  | none => cases fails
  | some value =>
    unfold setGiven setInside at fails
    dsimp only at fails
    split at fails <;> cases fails
    rfl

theorem eq_wrongKind_of_knownPatterns (fails : knownPatterns entries = .error cause) :
    cause = .wrongKind := by
  unfold knownPatterns at fails
  dsimp only at fails
  split at fails
  · generalize (lookup? "exclude" entries).getD .null = old at fails
    cases old <;> cases fails <;> rfl
  · cases fails

theorem extendPatterns_eq (more : List String) (entries : List (String × Tree)) :
    extendPatterns more entries = (knownPatterns entries).map fun items =>
      insertEntry "exclude" (.list (items ++ more.map .text)) entries := by
  unfold extendPatterns knownPatterns
  dsimp only
  split
  · cases ((lookup? "exclude" entries).getD .null).elements <;> rfl
  · rfl

/-- The ignore patterns depend on nothing but what stands under their key. -/
theorem knownPatterns_congr (same : lookup? "exclude" after = lookup? "exclude" entries) :
    knownPatterns after = knownPatterns entries := by
  rw [knownPatterns, same, knownPatterns]

/-- The entries with the level of the command line. -/
def setLevel (level : Option Int) (entries : List (String × Tree)) : List (String × Tree) :=
  match level with
  | some level => insertEntry "validation_level" (.integer level) entries
  | none => entries

theorem lookup?_setLevel (level : Option Int) {key : String} (beside : key ≠ "validation_level") :
    lookup? key (setLevel level entries) = lookup? key entries := by
  cases level with
  | none => rfl
  | some level => exact (Tree.lookup?_insertEntry key).trans (if_neg beside)

/-- The command line sets one thing after the other. -/
theorem applyOverrides_eq_steps (overrides : Overrides) (entries : List (String × Tree)) :
    applyOverrides overrides entries =
      (do
        let entries := setLevel overrides.level entries
        let entries ← setGiven "output" "format" (overrides.format.map .text) entries
        let entries ← setGiven "remote_refs" "enabled" (overrides.remote.map .boolean) entries
        if overrides.excluded.isEmpty then .ok entries
        else extendPatterns overrides.excluded entries) := by
  obtain ⟨level, format, enabled, patterns⟩ := overrides
  cases level <;> cases format <;> cases enabled <;> rfl

/-- The command line can be put over entries only if it fits them. -/
theorem fits_of_applyOverrides (applied : applyOverrides overrides entries = .ok after) :
    overrides.Fits entries := by
  rw [applyOverrides_eq_steps] at applied
  obtain ⟨formatted, sets, applied⟩ := bind_eq_ok_iff.mp applied
  obtain ⟨changed, loads, extended⟩ := bind_eq_ok_iff.mp applied
  obtain ⟨output, sameFormatted⟩ := of_setGiven sets
  obtain ⟨remote, sameChanged⟩ := of_setGiven loads
  rw [Option.isSome_map] at output remote
  rw [lookup?_setLevel _ (by decide)] at output
  rw [sameFormatted _ (by decide), lookup?_setLevel _ (by decide)] at remote
  refine ⟨output, remote, fun given => ?_⟩
  rw [if_neg (by simpa using given), extendPatterns_eq, map_eq_ok_iff] at extended
  obtain ⟨items, known, -⟩ := extended
  refine ⟨items, (knownPatterns_congr ?_).symm.trans known⟩
  rw [sameChanged _ (by decide), sameFormatted _ (by decide), lookup?_setLevel _ (by decide)]

theorem eq_wrongKind_of_applyOverrides (fails : applyOverrides overrides entries = .error cause) :
    cause = .wrongKind := by
  rw [applyOverrides_eq_steps] at fails
  rcases bind_eq_error_iff.mp fails with sets | ⟨formatted, -, fails⟩
  · exact eq_wrongKind_of_setGiven sets
  rcases bind_eq_error_iff.mp fails with loads | ⟨changed, -, fails⟩
  · exact eq_wrongKind_of_setGiven loads
  split at fails
  · cases fails
  · rw [extendPatterns_eq, map_eq_error_iff] at fails
    exact eq_wrongKind_of_knownPatterns fails

end Breakdowns

/-! ## What comes of the entries -/

theorem lookup?_output_toEntries (overrides : Overrides) :
    lookup? "output" overrides.toEntries =
      overrides.format.map fun format => .mapping [("format", .text format)] := by
  obtain ⟨level, format, enabled, _⟩ := overrides
  cases level <;> cases format <;> cases enabled <;> rfl

theorem lookup?_remote_toEntries (overrides : Overrides) :
    lookup? "remote_refs" overrides.toEntries =
      overrides.remote.map fun enabled => .mapping [("enabled", .boolean enabled)] := by
  obtain ⟨level, format, enabled, _⟩ := overrides
  cases level <;> cases format <;> cases enabled <;> rfl

theorem lookup?_cache_toEntries (overrides : Overrides) :
    lookup? "cache" overrides.toEntries = none := by
  obtain ⟨level, format, enabled, _⟩ := overrides
  cases level <;> cases format <;> cases enabled <;> rfl

/-- The command line sets no mapping where a single setting is said. -/
theorem Overrides.plain_toEntries (overrides : Overrides) {place : List String}
    (leaf : place ∈ Settings.leafPlaces) (nested : List (String × Tree)) :
    (Tree.mapping overrides.toEntries).at? place ≠ some (.mapping nested) := by
  intro found
  obtain ⟨level, format, enabled, _⟩ := overrides
  simp only [Settings.leafPlaces, List.mem_cons, List.not_mem_nil, or_false] at leaf
  rcases leaf with rfl | rfl | rfl | rfl | rfl | rfl <;>
    cases level <;> cases format <;> cases enabled <;> cases found

theorem hasRecords_congr
    (output : HasRecord after "output" ↔ HasRecord entries "output")
    (remote : HasRecord after "remote_refs" ↔ HasRecord entries "remote_refs")
    (cache : HasRecord after "cache" ↔ HasRecord entries "cache") :
    HasRecords after ↔ HasRecords entries :=
  ⟨fun given => ⟨output.mp given.output, remote.mp given.remote, cache.mp given.cache⟩,
    fun given => ⟨output.mpr given.output, remote.mpr given.remote, cache.mpr given.cache⟩⟩

namespace Overrides.Fits

variable (fits : overrides.Fits entries)
include fits

theorem output_into : MergesInto entries overrides.toEntries "output" := by
  intro value added
  rw [lookup?_output_toEntries, Option.map_eq_some_iff] at added
  obtain ⟨format, given, rfl⟩ := added
  exact ⟨⟨_, rfl⟩, fits.output (by rw [given]; rfl)⟩

theorem remote_into : MergesInto entries overrides.toEntries "remote_refs" := by
  intro value added
  rw [lookup?_remote_toEntries, Option.map_eq_some_iff] at added
  obtain ⟨enabled, given, rfl⟩ := added
  exact ⟨⟨_, rfl⟩, fits.remote (by rw [given]; rfl)⟩

omit fits in
theorem cache_into : MergesInto entries overrides.toEntries "cache" := by
  intro value added
  rw [lookup?_cache_toEntries] at added
  cases added

/-- What the command line sets comes before what the entries say. -/
theorem at?_merge {place : List String} (leaf : place ∈ Settings.leafPlaces) :
    (Tree.mapping (mergeEntries entries overrides.toEntries)).at? place =
      ((Tree.mapping overrides.toEntries).at? place).or ((Tree.mapping entries).at? place) := by
  have distinct := overrides.distinct_toEntries
  have plain := overrides.plain_toEntries leaf
  have pair : ∀ outer inner, place = [outer, inner] →
      MergesInto entries overrides.toEntries outer →
      (Tree.mapping (mergeEntries entries overrides.toEntries)).at? place =
        ((Tree.mapping overrides.toEntries).at? place).or ((Tree.mapping entries).at? place) := by
    rintro outer inner rfl into
    exact at?_merge_into distinct.keys (keys_entriesUnder distinct outer) into plain
  simp only [Settings.leafPlaces, List.mem_cons, List.not_mem_nil, or_false] at leaf
  rcases leaf with rfl | rfl | rfl | rfl | rfl | rfl
  · simp only [Setting.level, at?_single] at plain ⊢
    exact lookup?_merge_over distinct.keys plain
  · exact pair _ _ rfl fits.output_into
  · exact pair _ _ rfl fits.remote_into
  · exact pair _ _ rfl fits.remote_into
  · exact pair _ _ rfl cache_into
  · exact pair _ _ rfl cache_into

theorem hasRecords_iff :
    HasRecords (mergeEntries entries overrides.toEntries) ↔ HasRecords entries := by
  have keys := overrides.distinct_toEntries.keys
  exact hasRecords_congr (hasRecord_merge_iff keys fits.output_into)
    (hasRecord_merge_iff keys fits.remote_into) (hasRecord_merge_iff keys cache_into)

/-- Without ignore patterns, the command line is one more layer. -/
theorem applyOverrides_merge :
    applyOverrides overrides entries =
      if overrides.excluded.isEmpty then .ok (mergeEntries entries overrides.toEntries)
      else extendPatterns overrides.excluded (mergeEntries entries overrides.toEntries) :=
  applyOverrides_eq overrides (fun given => lookup?_entriesUnder (fits.output given))
    fun given => lookup?_entriesUnder (fits.remote given)

end Overrides.Fits

section Reading

variable {settings : Settings}

theorem lookup?_exclude_merge (overrides : Overrides) (entries : List (String × Tree)) :
    lookup? "exclude" (mergeEntries entries overrides.toEntries) = lookup? "exclude" entries := by
  have none := overrides.at?_exclude_toEntries
  rw [Setting.excluded, at?_single] at none
  rw [lookup?_mergeEntries overrides.distinct_toEntries.keys, none]

theorem extendPatterns_merge (more : List String) :
    extendPatterns more (mergeEntries entries overrides.toEntries) =
      (knownPatterns entries).map fun items => insertEntry "exclude"
        (.list (items ++ more.map .text)) (mergeEntries entries overrides.toEntries) := by
  rw [extendPatterns_eq, knownPatterns_congr (lookup?_exclude_merge overrides entries)]

theorem leavesFrom_merge_iff (fits : overrides.Fits entries) :
    settings.LeavesFrom [.mapping (mergeEntries entries overrides.toEntries)] ↔
      settings.LeavesFrom [.mapping overrides.toEntries, .mapping entries] := by
  have same : ∀ place ∈ Settings.leafPlaces,
      ([.mapping (mergeEntries entries overrides.toEntries)].findSome? fun tree : Tree =>
        tree.at? place) =
      [.mapping overrides.toEntries, .mapping entries].findSome? fun tree : Tree =>
        tree.at? place := by
    intro place leaf
    rw [List.findSome?_singleton, fits.at?_merge leaf, List.findSome?_cons,
      List.findSome?_singleton]
    cases (Tree.mapping overrides.toEntries).at? place <;> rfl
  exact ⟨.congr same, .congr fun place leaf => (same place leaf).symm⟩

theorem givenBy_exclude_merge_iff {patterns : List String} :
    Setting.excluded.GivenBy [.mapping (mergeEntries entries overrides.toEntries)] patterns ↔
      Setting.excluded.GivenBy [.mapping entries] patterns := by
  simp only [Setting.givenBy_singleton_iff, Setting.excluded, at?_single,
    lookup?_exclude_merge]

/-- What stands under the key of the ignore patterns has no part in anything else. -/
theorem leavesFrom_insert_iff (value : Tree) :
    settings.LeavesFrom [.mapping (insertEntry "exclude" value entries)] ↔
      settings.LeavesFrom [.mapping entries] := by
  have same : ∀ place ∈ Settings.leafPlaces,
      ([.mapping (insertEntry "exclude" value entries)].findSome? fun tree : Tree =>
        tree.at? place) = [.mapping entries].findSome? fun tree : Tree => tree.at? place := by
    simp [Settings.leafPlaces, Setting.level, Setting.format, Setting.loading, Setting.timeout,
      Setting.keeping, Setting.lifetime, at?_single, at?_pair, Tree.entriesUnder,
      Tree.lookup?_insertEntry]
  exact ⟨.congr same, .congr fun place leaf => (same place leaf).symm⟩

theorem hasRecords_insert_iff (value : Tree) :
    HasRecords (insertEntry "exclude" value entries) ↔ HasRecords entries := by
  have each : ∀ key, key ≠ "exclude" →
      (HasRecord (insertEntry "exclude" value entries) key ↔ HasRecord entries key) := by
    intro key beside
    rw [HasRecord, HasRecord, Tree.lookup?_insertEntry, if_neg beside]
  exact hasRecords_congr (each _ (by decide)) (each _ (by decide)) (each _ (by decide))

/-- Items with texts behind them are texts exactly if the items are. -/
theorem givenBy_extended_iff {items : List Tree} {more patterns : List String} :
    Setting.excluded.GivenBy
        [.mapping (insertEntry "exclude" (.list (items ++ more.map .text)) entries)] patterns ↔
      ∃ known, patterns = known ++ more ∧ items = known.map .text := by
  have texts : Function.Injective Tree.text := fun _ _ => Tree.text.inj
  simp only [Setting.givenBy_singleton_iff, Setting.excluded, at?_single,
    Tree.lookup?_insertEntry, if_true, readTexts_eq_ok_iff, Tree.list.injEq]
  constructor
  · intro same
    obtain ⟨known, rest, rfl, ofItems, ofMore⟩ := List.append_eq_map_iff.mp same
    obtain rfl := List.map_injective_iff.mpr texts ofMore
    exact ⟨known, rfl, ofItems.symm⟩
  · rintro ⟨known, rfl, rfl⟩
    exact List.map_append.symm

/-- What is read without ignore patterns of the command line. -/
theorem ofEntries_merge_iff (fits : overrides.Fits entries) :
    Settings.ofEntries (mergeEntries entries overrides.toEntries) = .ok settings ↔
      HasRecords entries ∧ settings.LeavesFrom [.mapping overrides.toEntries, .mapping entries] ∧
        Setting.excluded.GivenBy [.mapping entries] settings.excluded := by
  rw [Settings.ofEntries_eq_ok_iff, fits.hasRecords_iff, leavesFrom_merge_iff fits,
    givenBy_exclude_merge_iff]

/-- What is read with the ignore patterns of the command line behind some items. -/
theorem ofEntries_extended_iff (fits : overrides.Fits entries) {items : List Tree} :
    Settings.ofEntries (insertEntry "exclude" (.list (items ++ overrides.excluded.map .text))
        (mergeEntries entries overrides.toEntries)) = .ok settings ↔
      HasRecords entries ∧ settings.LeavesFrom [.mapping overrides.toEntries, .mapping entries] ∧
        ∃ known, settings.excluded = known ++ overrides.excluded ∧ items = known.map .text := by
  rw [Settings.ofEntries_eq_ok_iff, hasRecords_insert_iff, fits.hasRecords_iff,
    leavesFrom_insert_iff, leavesFrom_merge_iff fits, givenBy_extended_iff]

/-- **What comes of entries with the command line over them.**  They are read as settings exactly if
the command line fits them, there are mappings where settings are grouped, and what the command line
and the entries say can be read. -/
theorem exists_applyOverrides_iff :
    (∃ after, applyOverrides overrides entries = .ok after ∧
        Settings.ofEntries after = .ok settings) ↔
      overrides.Accepts entries settings := by
  constructor
  · rintro ⟨after, applied, reads⟩
    have fits := fits_of_applyOverrides applied
    rw [fits.applyOverrides_merge] at applied
    split at applied
    case isTrue empty =>
      have empty : overrides.excluded = [] := List.isEmpty_iff.mp empty
      cases applied
      obtain ⟨records, leaves, listed⟩ := (ofEntries_merge_iff fits).mp reads
      exact ⟨fits, records, leaves, settings.excluded, by simp [empty], by rwa [if_pos empty]⟩
    case isFalse more =>
      rw [extendPatterns_merge, map_eq_ok_iff] at applied
      obtain ⟨items, found, rfl⟩ := applied
      obtain ⟨records, leaves, known, behind, rfl⟩ := (ofEntries_extended_iff fits).mp reads
      exact ⟨fits, records, leaves, known, behind, by rwa [if_neg (by simpa using more)]⟩
  · rintro ⟨fits, records, leaves, known, behind, listed⟩
    rw [fits.applyOverrides_merge]
    by_cases empty : overrides.excluded = []
    · rw [if_pos empty] at listed
      rw [if_pos (List.isEmpty_iff.mpr empty)]
      rw [empty, List.append_nil] at behind
      exact ⟨_, rfl, (ofEntries_merge_iff fits).mpr ⟨records, leaves, by rwa [behind]⟩⟩
    · rw [if_neg empty] at listed
      rw [if_neg (by simpa using empty), extendPatterns_merge, listed]
      exact ⟨_, rfl, (ofEntries_extended_iff fits).mpr ⟨records, leaves, known, behind, rfl⟩⟩

/-- **When the command line breaks down.** -/
theorem applyOverrides_eq_error_iff {cause : Breakdown} :
    applyOverrides overrides entries = .error cause ↔
      cause = .wrongKind ∧ ¬overrides.Fits entries := by
  constructor
  · intro fails
    refine ⟨eq_wrongKind_of_applyOverrides fails, fun fits => ?_⟩
    rw [fits.applyOverrides_merge] at fails
    split at fails
    case isTrue => cases fails
    case isFalse more =>
      obtain ⟨items, known⟩ := fits.patterns (by simpa using more)
      rw [extendPatterns_merge, known] at fails
      cases fails
  · rintro ⟨rfl, misfit⟩
    cases applied : applyOverrides overrides entries with
    | ok after => exact absurd (fits_of_applyOverrides applied) misfit
    | error cause => rw [eq_wrongKind_of_applyOverrides applied]

end Reading

end ApiAdmission
