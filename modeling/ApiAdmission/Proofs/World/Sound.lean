import ApiAdmission.Proofs.World.Lookup
import Mathlib.Data.List.Perm.Subperm

/-!
# Sound file systems

In a sound file system the names of one directory are different, each of them can be the name of an
entry, and the working directory is a directory (`FileSystem.Sound`).

Names lead to no more places than there are entries, so a list of different places is no longer than
their number (`Entry.length_le_count`).
-/

namespace ApiAdmission

set_option autoImplicit false

namespace FileSystem

/-- A name that an entry can have. -/
structure IsEntryName (name : String) : Prop where
  plain : IsPlain name
  noNull : '\x00' ∉ name.toList

instance (name : String) : Decidable (IsEntryName name) :=
  decidable_of_iff (IsPlain name ∧ '\x00' ∉ name.toList)
    ⟨fun ⟨plain, noNull⟩ => ⟨plain, noNull⟩, fun proper => ⟨proper.plain, proper.noNull⟩⟩

end FileSystem

namespace Entry

open ApiAdmission.FileSystem (IsEntryName)

/-! ## Names -/

mutual
/-- Whether the entries below an entry have names that they can have, different ones in each
directory. -/
def wellNamed : Entry → Bool
  | .directory entries => decide (entries.map Prod.fst).Nodup && wellNamedIn entries
  | .file _ | .link _ => true
termination_by structural entry => entry

/-- Whether named entries, and those below them, have such names. -/
def wellNamedIn : List (String × Entry) → Bool
  | [] => true
  | (name, entry) :: rest => decide (IsEntryName name) && wellNamed entry && wellNamedIn rest
termination_by structural entries => entries
end

theorem wellNamed_of_lookup? {entries : List (String × Entry)} {name : String} {entry : Entry}
    (named : wellNamedIn entries = true) (stored : lookup? name entries = some entry) :
    IsEntryName name ∧ entry.wellNamed = true := by
  induction entries with
  | nil => cases stored
  | cons first rest ih =>
    obtain ⟨other, next⟩ := first
    simp only [wellNamedIn, Bool.and_eq_true, decide_eq_true_eq] at named
    rw [lookup?] at stored
    split at stored
    case isTrue same =>
      cases stored
      exact eq_of_beq same ▸ named.1
    case isFalse => exact ih named.2 stored

/-- What is found below has such names too, and so has the way to it. -/
theorem wellNamed_of_descend? {entry below : Entry} {names : List String}
    (named : entry.wellNamed = true) (found : entry.descend? names = some below) :
    below.wellNamed = true ∧ ∀ name ∈ names, IsEntryName name := by
  induction names generalizing entry with
  | nil =>
    cases found
    exact ⟨named, fun _ member => (List.not_mem_nil member).elim⟩
  | cons name rest ih =>
    cases entry with
    | file | link => cases found
    | directory entries =>
      obtain ⟨next, stored, onward⟩ := Option.bind_eq_some_iff.mp found
      simp only [wellNamed, Bool.and_eq_true] at named
      obtain ⟨proper, namedNext⟩ := wellNamed_of_lookup? named.2 stored
      obtain ⟨namedBelow, others⟩ := ih namedNext onward
      exact ⟨namedBelow, List.forall_mem_cons.mpr ⟨proper, others⟩⟩

theorem exists_lookup? {entries : List (String × Entry)} {name : String}
    (member : name ∈ entries.map Prod.fst) : ∃ entry, lookup? name entries = some entry := by
  induction entries with
  | nil => cases member
  | cons first rest ih =>
    obtain ⟨other, entry⟩ := first
    rw [lookup?]
    split
    case isTrue => exact ⟨entry, rfl⟩
    case isFalse new =>
      rcases List.mem_cons.mp member with rfl | later
      · exact absurd (beq_self_eq_true _) new
      · exact ih later

theorem mem_of_lookup? {entries : List (String × Entry)} {name : String} {entry : Entry}
    (stored : lookup? name entries = some entry) : name ∈ entries.map Prod.fst := by
  induction entries with
  | nil => cases stored
  | cons first rest ih =>
    obtain ⟨other, next⟩ := first
    rw [lookup?] at stored
    split at stored
    case isTrue same => exact eq_of_beq same ▸ List.mem_cons_self
    case isFalse => exact List.mem_cons_of_mem _ (ih stored)

theorem descend?_concat {entry : Entry} {names : List String} {name : String}
    {entries : List (String × Entry)} (here : entry.descend? names = some (.directory entries)) :
    entry.descend? (names ++ [name]) = lookup? name entries := by
  rw [descend?_append, here]
  show (lookup? name entries).bind some = _
  exact Option.bind_fun_some _

/-- What leads to a directory has led to one before the last name. -/
theorem descend?_dropLast {entry : Entry} {names : List String} {entries : List (String × Entry)}
    (here : entry.descend? names = some (.directory entries)) :
    ∃ above, entry.descend? names.dropLast = some (.directory above) := by
  rcases List.eq_nil_or_concat names with rfl | ⟨before, last, rfl⟩
  · exact ⟨entries, here⟩
  · rw [List.concat_eq_append] at here
    rw [List.concat_eq_append, List.dropLast_concat]
    obtain ⟨above, found, _⟩ := of_descend?_append here
    exact ⟨above, found⟩

/-! ## Counting places -/

mutual
/-- The names that lead to the entries below and including an entry. -/
def places : Entry → List (List String)
  | .directory entries => [] :: placesIn entries
  | .file _ | .link _ => [[]]
termination_by structural entry => entry

/-- The names that lead to named entries and to those below them. -/
def placesIn : List (String × Entry) → List (List String)
  | [] => []
  | (name, entry) :: rest => (places entry).map (name :: ·) ++ placesIn rest
termination_by structural entries => entries
end

mutual
theorem length_places : (entry : Entry) → entry.places.length = entry.count
  | .file _ | .link _ => by simp [places, count]
  | .directory entries => by
    rw [places, count, List.length_cons, length_placesIn entries, Nat.add_comm]

theorem length_placesIn : (entries : List (String × Entry)) →
    (placesIn entries).length = countIn entries
  | [] => rfl
  | (_, entry) :: rest => by
    rw [placesIn, countIn, List.length_append, List.length_map, length_places entry,
      length_placesIn rest]
end

theorem places_of_lookup? {entries : List (String × Entry)} {name : String} {entry : Entry}
    (stored : lookup? name entries = some entry) {names : List String}
    (there : names ∈ entry.places) : name :: names ∈ placesIn entries := by
  induction entries with
  | nil => cases stored
  | cons first rest ih =>
    obtain ⟨other, next⟩ := first
    rw [placesIn, List.mem_append]
    rw [lookup?] at stored
    split at stored
    case isTrue same =>
      cases stored
      exact .inl (eq_of_beq same ▸ List.mem_map_of_mem there)
    case isFalse => exact .inr (ih stored)

theorem mem_places {entry below : Entry} {names : List String}
    (found : entry.descend? names = some below) : names ∈ entry.places := by
  induction names generalizing entry with
  | nil => cases entry <;> simp [places]
  | cons name rest ih =>
    cases entry with
    | file | link => cases found
    | directory entries =>
      obtain ⟨next, stored, onward⟩ := Option.bind_eq_some_iff.mp found
      exact List.mem_cons_of_mem _ (places_of_lookup? stored (ih onward))

/-- Different names that lead to entries are no more than the entries. -/
theorem length_le_count {entry : Entry} {found : List (List String)} (nodup : found.Nodup)
    (lead : ∀ names ∈ found, ∃ below, entry.descend? names = some below) :
    found.length ≤ entry.count := by
  rw [← length_places]
  refine (nodup.subperm fun names member => ?_).length_le
  obtain ⟨below, leads⟩ := lead names member
  exact mem_places leads

end Entry

namespace FileSystem

/-- A file system whose entries have names that they can have, and whose working directory is a
directory. -/
structure Sound (files : FileSystem) : Prop where
  named : files.root.wellNamed = true
  start : ∃ entries, files.root.descend? files.workingDirectory = some (.directory entries)

variable {files : FileSystem}

theorem Sound.isEntryName (sound : files.Sound) {names : List String} {entry : Entry}
    (found : files.root.descend? names = some entry) : ∀ name ∈ names, IsEntryName name :=
  (Entry.wellNamed_of_descend? sound.named found).2

/-- The names in a directory are different. -/
theorem Sound.nodup (sound : files.Sound) {names : List String}
    {entries : List (String × Entry)}
    (found : files.root.descend? names = some (.directory entries)) :
    (entries.map Prod.fst).Nodup := by
  have named := (Entry.wellNamed_of_descend? sound.named found).1
  simp only [Entry.wellNamed, Bool.and_eq_true, decide_eq_true_eq] at named
  exact named.1

/-- The root of a sound file system is a directory. -/
theorem Sound.root_directory (sound : files.Sound) :
    ∃ entries, files.root = .directory entries := by
  obtain ⟨entries, found⟩ := sound.start
  cases names : files.workingDirectory with
  | nil =>
    rw [names] at found
    exact ⟨entries, Option.some.inj found⟩
  | cons name rest =>
    rw [names, ← List.nil_append (name :: rest)] at found
    obtain ⟨above, here, _⟩ := Entry.of_descend?_append found
    exact ⟨above, Option.some.inj here⟩

/-- Where the names of a path are looked up from is a directory. -/
theorem Sound.startOf_directory (sound : files.Sound) (path : Path) :
    ∃ entries, files.root.descend? (files.startOf path) = some (.directory entries) := by
  unfold startOf
  split
  · obtain ⟨entries, root⟩ := sound.root_directory
    exact ⟨entries, congrArg some root⟩
  · exact sound.start

end FileSystem

end ApiAdmission
