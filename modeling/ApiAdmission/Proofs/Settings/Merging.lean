import ApiAdmission.Proofs.Tree.Entries
import ApiAdmission.Settings.Layer

/-!
# Merged layers

What stands under a key of merged entries is a matter of what stands under that key in each of them
(`lookup?_mergeEntries`).  So a value that a layer has at a place comes before the one below, and
everything beside it stays, as long as the layers agree on where there are mappings
(`at?_merge_single`, `at?_merge_pair`).
-/

namespace ApiAdmission

set_option autoImplicit false

open ApiAdmission.Tree (lookup? insertEntry)

/-- The value at a place of a tree: under one key after the other. -/
def Tree.at? (tree : Tree) : List String → Option Tree
  | [] => some tree
  | key :: rest => (tree.get? key).bind fun value => value.at? rest

/-- The entries of the mapping under a key, and none where there is no mapping. -/
def Tree.entriesUnder (key : String) (entries : List (String × Tree)) : List (String × Tree) :=
  ((lookup? key entries).map Tree.entries).getD []

/-- What stands under a key is a mapping, if anything does. -/
def HasRecord (entries : List (String × Tree)) (key : String) : Prop :=
  ∀ value, lookup? key entries = some value → ∃ nested, value = .mapping nested

variable {key outer inner : String} {base other below : List (String × Tree)}

theorem at?_single (key : String) (entries : List (String × Tree)) :
    (Tree.mapping entries).at? [key] = lookup? key entries := by
  show (lookup? key entries).bind _ = _
  cases lookup? key entries <;> rfl

theorem at?_pair (outer inner : String) (entries : List (String × Tree)) :
    (Tree.mapping entries).at? [outer, inner] =
      lookup? inner (Tree.entriesUnder outer entries) := by
  show (lookup? outer entries).bind _ = _
  unfold Tree.entriesUnder
  cases lookup? outer entries with
  | none => rfl
  | some value =>
    cases value with
    | mapping nested => exact at?_single inner nested
    | _ => rfl

theorem entriesUnder_of_mapping {entries nested : List (String × Tree)}
    (found : lookup? key entries = some (.mapping nested)) :
    Tree.entriesUnder key entries = nested := by
  rw [Tree.entriesUnder, found]
  rfl

theorem lookup?_entriesUnder {entries : List (String × Tree)}
    (record : ∃ nested, lookup? key entries = some (.mapping nested)) :
    lookup? key entries = some (.mapping (Tree.entriesUnder key entries)) := by
  obtain ⟨nested, found⟩ := record
  rw [entriesUnder_of_mapping found, found]

/-! ## Merging -/

/-- What is no mapping is replaced by what a layer puts over it. -/
theorem mergeValue_of_plain {old : Option Tree} (plain : ∀ entries, old ≠ some (.mapping entries))
    (value : Tree) : mergeValue old value = value := by
  cases value with
  | mapping entries =>
    unfold mergeValue
    split
    case h_1 known => exact absurd rfl (plain known)
    case h_2 => rfl
  | _ => rfl

/-- **What is under a key of merged entries**: what the layer makes of the value there, or that
value itself where the layer has none. -/
theorem lookup?_mergeEntries (distinct : (other.map Prod.fst).Nodup) (key : String) :
    lookup? key (mergeEntries base other) =
      match lookup? key other with
      | some value => some (mergeValue (lookup? key base) value)
      | none => lookup? key base := by
  induction other generalizing base with
  | nil => rfl
  | cons entry rest ih =>
    obtain ⟨name, value⟩ := entry
    rw [List.map_cons, List.nodup_cons] at distinct
    rw [mergeEntries, ih distinct.2, Tree.lookup?_insertEntry, lookup?]
    by_cases same : key = name
    · subst same
      simp [Tree.lookup?_eq_none distinct.1]
    · simp [same, Ne.symm same]

theorem lookup?_merge_plain (distinct : (other.map Prod.fst).Nodup)
    (plain : ∀ entries, lookup? key base ≠ some (.mapping entries)) :
    lookup? key (mergeEntries base other) = (lookup? key other).or (lookup? key base) := by
  rw [lookup?_mergeEntries distinct]
  cases lookup? key other with
  | none => rfl
  | some value => exact congrArg some (mergeValue_of_plain plain value)

/-- A value under one key comes before the one below, if that is no mapping. -/
theorem at?_merge_single (distinct : (other.map Prod.fst).Nodup)
    (plain : ∀ entries, (Tree.mapping base).at? [key] ≠ some (.mapping entries)) :
    (Tree.mapping (mergeEntries base other)).at? [key] =
      ((Tree.mapping other).at? [key]).or ((Tree.mapping base).at? [key]) := by
  simp only [at?_single] at plain ⊢
  exact lookup?_merge_plain distinct plain

/-- A mapping with what a layer has in a mapping under the same key, if it has anything there. -/
theorem lookup?_merge_record (distinct : (other.map Prod.fst).Nodup)
    (old : lookup? outer base = some (.mapping below)) (record : HasRecord other outer) :
    lookup? outer (mergeEntries base other) =
      some (.mapping (mergeEntries below (Tree.entriesUnder outer other))) := by
  rw [lookup?_mergeEntries distinct, old, Tree.entriesUnder]
  cases added : lookup? outer other with
  | none => rfl
  | some value =>
    obtain ⟨above, rfl⟩ := record value added
    rfl

/-- A value under two keys comes before the one below, if there are mappings under the first key and
the one below is no mapping. -/
theorem at?_merge_pair (distinct : (other.map Prod.fst).Nodup)
    (inside : ((Tree.entriesUnder outer other).map Prod.fst).Nodup)
    (old : lookup? outer base = some (.mapping below)) (record : HasRecord other outer)
    (plain : ∀ entries, (Tree.mapping base).at? [outer, inner] ≠ some (.mapping entries)) :
    (Tree.mapping (mergeEntries base other)).at? [outer, inner] =
      ((Tree.mapping other).at? [outer, inner]).or ((Tree.mapping base).at? [outer, inner]) := by
  have merged := lookup?_merge_record distinct old record
  simp only [at?_pair, entriesUnder_of_mapping old] at plain ⊢
  rw [entriesUnder_of_mapping merged]
  exact lookup?_merge_plain inside plain

/-! ## Layers that win -/

/-- What a layer has under a key, if anything, is a mapping, and it is merged into another. -/
def MergesInto (base other : List (String × Tree)) (key : String) : Prop :=
  ∀ value, lookup? key other = some value →
    (∃ above, value = .mapping above) ∧ ∃ below, lookup? key base = some (.mapping below)

/-- What is no mapping replaces whatever is below. -/
theorem mergeValue_over {value : Tree} (plain : ∀ entries, value ≠ .mapping entries)
    (old : Option Tree) : mergeValue old value = value := by
  cases value with
  | mapping entries => exact absurd rfl (plain entries)
  | _ => rfl

theorem lookup?_merge_over (distinct : (other.map Prod.fst).Nodup)
    (plain : ∀ entries, lookup? key other ≠ some (.mapping entries)) :
    lookup? key (mergeEntries base other) = (lookup? key other).or (lookup? key base) := by
  rw [lookup?_mergeEntries distinct]
  cases added : lookup? key other with
  | none => rfl
  | some value =>
    refine congrArg some (mergeValue_over ?_ _)
    rintro entries rfl
    exact plain entries added

/-- A value under two keys that is no mapping comes before whatever is below, if it is merged into a
mapping. -/
theorem at?_merge_into (distinct : (other.map Prod.fst).Nodup)
    (inside : ((Tree.entriesUnder outer other).map Prod.fst).Nodup)
    (into : MergesInto base other outer)
    (plain : ∀ entries, (Tree.mapping other).at? [outer, inner] ≠ some (.mapping entries)) :
    (Tree.mapping (mergeEntries base other)).at? [outer, inner] =
      ((Tree.mapping other).at? [outer, inner]).or ((Tree.mapping base).at? [outer, inner]) := by
  simp only [at?_pair] at plain ⊢
  cases added : lookup? outer other with
  | none =>
    have same : lookup? outer (mergeEntries base other) = lookup? outer base := by
      rw [lookup?_mergeEntries distinct, added]
    simp [Tree.entriesUnder, same, added, lookup?]
  | some value =>
    obtain ⟨⟨above, rfl⟩, below, old⟩ := into value added
    have record : HasRecord other outer := fun _ found =>
      ⟨above, Option.some.inj (found.symm.trans added)⟩
    rw [entriesUnder_of_mapping (lookup?_merge_record distinct old record),
      entriesUnder_of_mapping old]
    exact lookup?_merge_over inside plain

/-- Merging mappings into mappings changes nothing about where there are mappings. -/
theorem hasRecord_merge_iff (distinct : (other.map Prod.fst).Nodup)
    (into : MergesInto base other key) :
    HasRecord (mergeEntries base other) key ↔ HasRecord base key := by
  unfold HasRecord
  cases added : lookup? key other with
  | none => rw [lookup?_mergeEntries distinct, added]
  | some value =>
    obtain ⟨⟨above, rfl⟩, below, old⟩ := into value added
    rw [lookup?_mergeEntries distinct, added, old]
    simp [mergeValue]

end ApiAdmission
