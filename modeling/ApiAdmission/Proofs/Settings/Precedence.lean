import ApiAdmission.Proofs.Json.Distinct
import ApiAdmission.Proofs.Settings.Reading

/-!
# Which layer settings come from

The settings of a run come from four layers: the file of the user, the file of the project, the
environment and the command line.  If each of them is readable on its own, then the run has
settings, and each single setting is what the first layer that says anything at its place says
there, the command line first and the user last; ignore patterns of the command line stand behind
those of the files (`resolveSettings_of_valid`).

The layers are merged over the written settings of the user, where every place has a value.  What is
merged over such entries leaves a value at every place, and this value is the first one
(`Full.merge`).
-/

namespace ApiAdmission

set_option autoImplicit false

open Record
open ApiAdmission.Tree (lookup? insertEntry)

/-- A layer that is readable on its own. -/
def Readable (entries : List (String × Tree)) : Prop :=
  ∃ settings, Settings.ofEntries entries = .ok settings

/-- Where the single settings are said. -/
def Settings.leafPlaces : List (List String) :=
  [Setting.level.place, Setting.format.place, Setting.loading.place, Setting.timeout.place,
    Setting.keeping.place, Setting.lifetime.place]

/-- Where all settings are said, the ignore patterns included. -/
def Settings.places : List (List String) := leafPlaces ++ [Setting.excluded.place]

theorem Settings.mem_places {place : List String} :
    place ∈ places ↔ place = Setting.level.place ∨ place = Setting.format.place ∨
      place = Setting.loading.place ∨ place = Setting.timeout.place ∨
      place = Setting.keeping.place ∨ place = Setting.lifetime.place ∨
      place = Setting.excluded.place := by
  simp [places, leafPlaces]

/-- Entries that are readable and say every setting. -/
structure Full (entries : List (String × Tree)) : Prop where
  readable : Readable entries
  said : ∀ place ∈ Settings.places, ((Tree.mapping entries).at? place).isSome

/-! ## Places of layers -/

namespace Setting

variable {α : Type} {setting : Setting α} {value : α}

theorem GivenBy.plain {layer : Tree} (given : setting.GivenBy [layer] value)
    (entries : List (String × Tree)) : layer.at? setting.place ≠ some (.mapping entries) := by
  intro found
  rw [givenBy_singleton_iff, found] at given
  exact setting.refuses _ _ given

/-- What is readable at the place of a setting in two layers is so in the layer put together. -/
theorem exists_givenBy_or {above below together : Tree}
    (first : together.at? setting.place =
      (above.at? setting.place).or (below.at? setting.place))
    {added under : α} (upper : setting.GivenBy [above] added)
    (lower : setting.GivenBy [below] under) :
    ∃ value, setting.GivenBy [together] value := by
  rw [givenBy_singleton_iff] at upper lower
  simp only [givenBy_singleton_iff, first]
  cases said : above.at? setting.place with
  | none => exact ⟨under, lower⟩
  | some tree =>
    rw [said] at upper
    exact ⟨added, upper⟩

theorem GivenBy.congr {layers others : List Tree}
    (same : layers.findSome? (·.at? setting.place) = others.findSome? (·.at? setting.place))
    (given : setting.GivenBy layers value) : setting.GivenBy others value := by
  rw [GivenBy, ← same]
  exact given

theorem GivenBy.unique {layers : List Tree} {other : α} (given : setting.GivenBy layers value)
    (again : setting.GivenBy layers other) : value = other := by
  unfold GivenBy at given again
  split at given
  case h_1 said found =>
    rw [found] at again
    exact Except.ok.inj (given.symm.trans again)
  case h_2 none =>
    rw [none] at again
    exact given.trans again.symm

/-- Below other layers, a layer in which a setting is written may stand for the one it is from. -/
theorem GivenBy.of_written {above : List Tree} {layer written : Tree} {known : α}
    (given : setting.GivenBy (above ++ [written]) value)
    (stored : written.at? setting.place = some (setting.write known))
    (source : setting.GivenBy [layer] known) : setting.GivenBy (above ++ [layer]) value := by
  rw [GivenBy, List.findSome?_append] at given ⊢
  cases first : above.findSome? (·.at? setting.place) with
  | some said => rwa [first] at given
  | none =>
    simp only [first, Option.none_or, List.findSome?_cons, stored, setting.read_write] at given
    rw [Option.none_or, ← Except.ok.inj given]
    exact source

end Setting

variable {entries base added : List (String × Tree)}

theorem Readable.plain (readable : Readable entries) {place : List String}
    (known : place ∈ Settings.places) (nested : List (String × Tree)) :
    (Tree.mapping entries).at? place ≠ some (.mapping nested) := by
  obtain ⟨settings, reads⟩ := readable
  obtain ⟨-, leaves, excluded⟩ := Settings.ofEntries_eq_ok_iff.mp reads
  rcases Settings.mem_places.mp known with rfl | rfl | rfl | rfl | rfl | rfl | rfl
  · exact leaves.level.plain nested
  · exact leaves.format.plain nested
  · exact leaves.loading.plain nested
  · exact leaves.timeout.plain nested
  · exact leaves.keeping.plain nested
  · exact leaves.lifetime.plain nested
  · exact excluded.plain nested

theorem exists_record_of_said {outer inner : String}
    (said : ((Tree.mapping entries).at? [outer, inner]).isSome) :
    ∃ nested, lookup? outer entries = some (.mapping nested) := by
  rw [at?_pair, Tree.entriesUnder] at said
  cases found : lookup? outer entries with
  | none => simp [found, lookup?] at said
  | some value =>
    cases value with
    | mapping nested => exact ⟨nested, rfl⟩
    | _ => simp [found, Tree.entries, lookup?] at said

theorem keys_entriesUnder (distinct : (Tree.mapping entries).Distinct) (key : String) :
    ((Tree.entriesUnder key entries).map Prod.fst).Nodup := by
  rw [Tree.entriesUnder]
  cases found : lookup? key entries with
  | none => exact List.nodup_nil
  | some value =>
    cases value with
    | mapping nested => exact (distinct.of_mem (Tree.mem_of_lookup? found)).keys
    | _ => exact List.nodup_nil

/-! ## Merging over full entries -/

/-- Over full entries, what a readable layer says at the place of a setting comes first. -/
theorem Full.at?_merge (full : Full base) (readable : Readable added)
    (distinct : (Tree.mapping added).Distinct) {place : List String}
    (known : place ∈ Settings.places) :
    (Tree.mapping (mergeEntries base added)).at? place =
      ((Tree.mapping added).at? place).or ((Tree.mapping base).at? place) := by
  obtain ⟨settings, reads⟩ := readable
  obtain ⟨records, -, -⟩ := Settings.ofEntries_eq_ok_iff.mp reads
  have plain := full.readable.plain known
  have said := full.said place known
  have pair : ∀ outer inner, place = [outer, inner] → HasRecord added outer →
      (Tree.mapping (mergeEntries base added)).at? place =
        ((Tree.mapping added).at? place).or ((Tree.mapping base).at? place) := by
    rintro outer inner rfl record
    obtain ⟨nested, old⟩ := exists_record_of_said said
    exact at?_merge_pair distinct.keys (keys_entriesUnder distinct outer) old record plain
  rcases Settings.mem_places.mp known with rfl | rfl | rfl | rfl | rfl | rfl | rfl
  · exact at?_merge_single distinct.keys plain
  · exact pair _ _ rfl records.output
  · exact pair _ _ rfl records.remote
  · exact pair _ _ rfl records.remote
  · exact pair _ _ rfl records.cache
  · exact pair _ _ rfl records.cache
  · exact at?_merge_single distinct.keys plain

/-- **A readable layer over full entries gives full entries.** -/
theorem Full.merge (full : Full base) (readable : Readable added)
    (distinct : (Tree.mapping added).Distinct) : Full (mergeEntries base added) := by
  have first : ∀ place ∈ Settings.places, _ := fun _ => full.at?_merge readable distinct
  have said : ∀ place ∈ Settings.places,
      ((Tree.mapping (mergeEntries base added)).at? place).isSome := by
    intro place known
    rw [first place known, Option.isSome_or, full.said place known, Bool.or_true]
  have record : ∀ outer inner, [outer, inner] ∈ Settings.places →
      HasRecord (mergeEntries base added) outer := by
    intro outer inner known value found
    obtain ⟨nested, stored⟩ := exists_record_of_said (said _ known)
    exact ⟨nested, Option.some.inj (found.symm.trans stored)⟩
  refine ⟨?_, said⟩
  obtain ⟨upper, readsOver⟩ := readable
  obtain ⟨lower, readsBase⟩ := full.readable
  obtain ⟨-, above, aboveExcluded⟩ := Settings.ofEntries_eq_ok_iff.mp readsOver
  obtain ⟨-, below, belowExcluded⟩ := Settings.ofEntries_eq_ok_iff.mp readsBase
  have given : ∀ {α : Type} {setting : Setting α} {upper lower : α},
      setting.place ∈ Settings.places → setting.GivenBy [.mapping added] upper →
      setting.GivenBy [.mapping base] lower →
      ∃ value, setting.GivenBy [.mapping (mergeEntries base added)] value :=
    fun known => Setting.exists_givenBy_or (first _ known)
  obtain ⟨level, leveled⟩ := given (Settings.mem_places.mpr (by simp)) above.level below.level
  obtain ⟨format, formatted⟩ := given (Settings.mem_places.mpr (by simp)) above.format below.format
  obtain ⟨enabled, loading⟩ := given (Settings.mem_places.mpr (by simp)) above.loading below.loading
  obtain ⟨timeout, timed⟩ := given (Settings.mem_places.mpr (by simp)) above.timeout below.timeout
  obtain ⟨kept, keeping⟩ := given (Settings.mem_places.mpr (by simp)) above.keeping below.keeping
  obtain ⟨lifetime, lasting⟩ := given (Settings.mem_places.mpr (by simp)) above.lifetime
    below.lifetime
  obtain ⟨patterns, listed⟩ := given (Settings.mem_places.mpr (by simp)) aboveExcluded belowExcluded
  refine ⟨⟨level, format, ⟨enabled, timeout⟩, ⟨kept, lifetime⟩, patterns⟩,
    Settings.ofEntries_eq_ok_iff.mpr ⟨⟨?_, ?_, ?_⟩,
      ⟨leveled, formatted, loading, timed, keeping, lasting⟩, listed⟩⟩
  · exact record "output" "format" (Settings.mem_places.mpr (by simp [Setting.format]))
  · exact record "remote_refs" "enabled" (Settings.mem_places.mpr (by simp [Setting.loading]))
  · exact record "cache" "enabled" (Settings.mem_places.mpr (by simp [Setting.keeping]))

/-! ## Written settings -/

theorem Setting.givenBy_written {α : Type} {setting : Setting α} {value : α} {layer : Tree}
    (stored : layer.at? setting.place = some (setting.write value)) :
    setting.GivenBy [layer] value := by
  rw [givenBy_singleton_iff, stored]
  exact setting.read_write value

/-- Written settings are read as they are. -/
theorem Settings.ofEntries_toEntries (settings : Settings) :
    Settings.ofEntries settings.toEntries = .ok settings := by
  have record : ∀ {key nested}, lookup? key settings.toEntries = some (.mapping nested) →
      HasRecord settings.toEntries key := by
    intro key nested found value stored
    exact ⟨nested, Option.some.inj (stored.symm.trans found)⟩
  refine Settings.ofEntries_eq_ok_iff.mpr
    ⟨⟨record rfl, record rfl, record rfl⟩, ?_, Setting.givenBy_written rfl⟩
  constructor <;> exact Setting.givenBy_written rfl

/-- In written settings every place has a value. -/
theorem Settings.full_toEntries (settings : Settings) : Full settings.toEntries := by
  refine ⟨⟨settings, settings.ofEntries_toEntries⟩, fun place known => ?_⟩
  rcases mem_places.mp known with rfl | rfl | rfl | rfl | rfl | rfl | rfl <;> rfl

/-- Below other layers, written settings may stand for the layer that they come from. -/
theorem Settings.LeavesFrom.of_written {settings known : Settings} {above : List Tree}
    {layer : Tree}
    (source : known.LeavesFrom [layer])
    (given : settings.LeavesFrom (above ++ [.mapping known.toEntries])) :
    settings.LeavesFrom (above ++ [layer]) where
  level := given.level.of_written rfl source.level
  format := given.format.of_written rfl source.format
  loading := given.loading.of_written rfl source.loading
  timeout := given.timeout.of_written rfl source.timeout
  keeping := given.keeping.of_written rfl source.keeping
  lifetime := given.lifetime.of_written rfl source.lifetime

/-- Single settings are the same from layers that say the same at their places. -/
theorem Settings.LeavesFrom.congr {settings : Settings} {layers others : List Tree}
    (same : ∀ place ∈ leafPlaces,
      (layers.findSome? fun tree => tree.at? place) = others.findSome? fun tree => tree.at? place)
    (given : settings.LeavesFrom layers) : settings.LeavesFrom others where
  level := given.level.congr (same _ (by simp [leafPlaces]))
  format := given.format.congr (same _ (by simp [leafPlaces]))
  loading := given.loading.congr (same _ (by simp [leafPlaces]))
  timeout := given.timeout.congr (same _ (by simp [leafPlaces]))
  keeping := given.keeping.congr (same _ (by simp [leafPlaces]))
  lifetime := given.lifetime.congr (same _ (by simp [leafPlaces]))

/-! ## Layers over one another -/

/-- Entries with layers over them, the uppermost first. -/
def mergeLayers (base : List (String × Tree)) (layers : List (List (String × Tree))) :
    List (String × Tree) :=
  layers.foldr (fun added below => mergeEntries below added) base

/-- **What layers over full entries say at the place of a setting.** -/
theorem Full.mergeLayers (full : Full base) {layers : List (List (String × Tree))}
    (readable : ∀ layer ∈ layers, Readable layer)
    (distinct : ∀ layer ∈ layers, (Tree.mapping layer).Distinct) :
    Full (mergeLayers base layers) ∧
      ∀ place ∈ Settings.places, (Tree.mapping (mergeLayers base layers)).at? place =
        (layers.map Tree.mapping ++ [Tree.mapping base]).findSome? fun tree =>
          tree.at? place := by
  induction layers with
  | nil =>
    refine ⟨full, fun place _ => ?_⟩
    show (Tree.mapping base).at? place = _
    rw [List.map_nil, List.nil_append, List.findSome?_singleton]
  | cons added rest ih =>
    obtain ⟨readsOver, readsRest⟩ := List.forall_mem_cons.mp readable
    obtain ⟨keysOver, keysRest⟩ := List.forall_mem_cons.mp distinct
    obtain ⟨below, first⟩ := ih readsRest keysRest
    refine ⟨below.merge readsOver keysOver, fun place known => ?_⟩
    show (Tree.mapping (mergeEntries (ApiAdmission.mergeLayers base rest) added)).at? place = _
    rw [below.at?_merge readsOver keysOver known, first place known, List.map_cons,
      List.cons_append, List.findSome?_cons]
    cases (Tree.mapping added).at? place <;> rfl

end ApiAdmission
