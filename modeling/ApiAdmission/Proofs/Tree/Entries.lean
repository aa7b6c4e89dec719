import ApiAdmission.Tree.Basic

/-!
# Entries with distinct keys

What is stored under a key is found there, and nothing else changes (`lookup?_insertEntry`).
Entries that are stored one after the other hold every key once (`nodup_collectEntries`), so in a
tree that is built in this way all mappings do, at any depth (`Distinct`).
-/

namespace ApiAdmission.Tree

set_option autoImplicit false

variable {key : String} {value : Tree} {entries : List (String × Tree)}

theorem lookup?_insertEntry (other : String) :
    lookup? other (insertEntry key value entries) =
      if other = key then some value else lookup? other entries := by
  induction entries with
  | nil =>
    by_cases asked : other = key
    · simp [insertEntry, lookup?, asked]
    · simp [insertEntry, lookup?, asked, Ne.symm asked]
  | cons entry rest ih =>
    obtain ⟨name, old⟩ := entry
    rw [insertEntry]
    by_cases same : name = key
    · subst same
      by_cases asked : other = name
      · simp [lookup?, asked]
      · simp [lookup?, asked, Ne.symm asked]
    · by_cases asked : other = name
      · subst asked
        simp [lookup?, same]
      · simp [lookup?, same, Ne.symm asked, ih]

theorem lookup?_eq_none (absent : key ∉ entries.map Prod.fst) : lookup? key entries = none := by
  induction entries with
  | nil => rfl
  | cons entry rest ih =>
    rw [List.map_cons, List.mem_cons, not_or] at absent
    rw [lookup?, if_neg (by simpa using Ne.symm absent.1), ih absent.2]

theorem mem_of_lookup? (found : lookup? key entries = some value) : (key, value) ∈ entries := by
  induction entries with
  | nil => cases found
  | cons entry rest ih =>
    obtain ⟨name, stored⟩ := entry
    rw [lookup?] at found
    split at found
    case isTrue same =>
      cases found
      rw [← eq_of_beq same]
      exact List.mem_cons_self
    case isFalse => exact List.mem_cons_of_mem _ (ih found)

theorem lookup?_append (others : List (String × Tree)) :
    lookup? key (entries ++ others) = (lookup? key entries).or (lookup? key others) := by
  induction entries with
  | nil => rfl
  | cons entry rest ih =>
    obtain ⟨name, stored⟩ := entry
    rw [List.cons_append, lookup?, lookup?, ih]
    split <;> rfl

/-- Where no key is repeated, every value is found under its key. -/
theorem lookup?_of_mem (distinct : (entries.map Prod.fst).Nodup) (member : (key, value) ∈ entries) :
    lookup? key entries = some value := by
  induction entries with
  | nil => cases member
  | cons entry rest ih =>
    obtain ⟨name, stored⟩ := entry
    rw [List.map_cons, List.nodup_cons] at distinct
    rw [lookup?]
    rcases List.mem_cons.mp member with here | later
    · cases here
      simp
    · have other : name ≠ key := by
        rintro rfl
        exact distinct.1 (List.mem_map.mpr ⟨_, later, rfl⟩)
      rw [if_neg (by simpa using other), ih distinct.2 later]

theorem lookup?_eq_some_iff_mem (distinct : (entries.map Prod.fst).Nodup) :
    lookup? key entries = some value ↔ (key, value) ∈ entries :=
  ⟨mem_of_lookup?, lookup?_of_mem distinct⟩

section Keys

variable {α : Type} {stored : α} {pairs : List (String × α)}

theorem keys_insertEntry :
    (insertEntry key stored pairs).map Prod.fst =
      if key ∈ pairs.map Prod.fst then pairs.map Prod.fst else pairs.map Prod.fst ++ [key] := by
  induction pairs with
  | nil => rfl
  | cons pair rest ih =>
    obtain ⟨name, old⟩ := pair
    rw [insertEntry]
    by_cases same : name = key
    · simp [same]
    · simp only [same, beq_iff_eq, if_false, List.map_cons, ih, List.mem_cons, Ne.symm same,
        false_or]
      split <;> rfl

theorem nodup_insertEntry (distinct : (pairs.map Prod.fst).Nodup) :
    ((insertEntry key stored pairs).map Prod.fst).Nodup := by
  rw [keys_insertEntry]
  split
  case isTrue => exact distinct
  case isFalse new =>
    refine List.nodup_append.mpr ⟨distinct, by simp, ?_⟩
    intro name member other here same
    exact new (List.mem_singleton.mp here ▸ same ▸ member)

theorem nodup_collectEntries (pairs : List (String × α)) :
    ((collectEntries pairs).map Prod.fst).Nodup := by
  suffices onward : ∀ known : List (String × α), (known.map Prod.fst).Nodup →
      ((pairs.foldl (fun entries pair => insertEntry pair.1 pair.2 entries) known).map
        Prod.fst).Nodup from onward [] List.nodup_nil
  induction pairs with
  | nil => exact fun _ distinct => distinct
  | cons pair rest ih => exact fun known distinct => ih _ (nodup_insertEntry distinct)

/-- A stored value is one of those that were stored before, or the new one. -/
theorem of_mem_insertEntry {entry : String × α} (member : entry ∈ insertEntry key stored pairs) :
    entry.2 = stored ∨ entry ∈ pairs := by
  induction pairs with
  | nil =>
    cases List.mem_singleton.mp member
    exact .inl rfl
  | cons pair rest ih =>
    obtain ⟨name, old⟩ := pair
    rw [insertEntry] at member
    split at member
    · rcases List.mem_cons.mp member with rfl | later
      · exact .inl rfl
      · exact .inr (List.mem_cons_of_mem _ later)
    · rcases List.mem_cons.mp member with rfl | later
      · exact .inr List.mem_cons_self
      · exact (ih later).imp id (List.mem_cons_of_mem _)

theorem of_mem_collectEntries {entry : String × α} (member : entry ∈ collectEntries pairs) :
    ∃ pair ∈ pairs, entry.2 = pair.2 := by
  suffices onward : ∀ known : List (String × α),
      entry ∈ pairs.foldl (fun entries pair => insertEntry pair.1 pair.2 entries) known →
      entry ∈ known ∨ ∃ pair ∈ pairs, entry.2 = pair.2 from
    (onward [] member).resolve_left List.not_mem_nil
  clear member
  induction pairs with
  | nil => exact fun _ member => .inl member
  | cons pair rest ih =>
    intro known member
    rcases ih _ member with before | ⟨other, later, same⟩
    · rcases of_mem_insertEntry before with new | old
      · exact .inr ⟨pair, List.mem_cons_self, new⟩
      · exact .inl old
    · exact .inr ⟨other, List.mem_cons_of_mem _ later, same⟩

end Keys

/-! ## Trees whose mappings have distinct keys -/

/-- Every mapping of a tree, at any depth of lists and mappings, holds each key once. -/
inductive Distinct : Tree → Prop where
  | mapping {entries : List (String × Tree)} (keys : (entries.map Prod.fst).Nodup)
      (values : ∀ entry ∈ entries, Distinct entry.2) : Distinct (.mapping entries)
  | list {items : List Tree} (members : ∀ item ∈ items, Distinct item) : Distinct (.list items)
  | other {tree : Tree} (noMapping : ∀ entries, tree ≠ .mapping entries)
      (noList : ∀ items, tree ≠ .list items) : Distinct tree

theorem Distinct.keys {entries : List (String × Tree)} (distinct : Distinct (.mapping entries)) :
    (entries.map Prod.fst).Nodup := by
  cases distinct with
  | mapping keys => exact keys
  | other noMapping => exact absurd rfl (noMapping entries)

theorem Distinct.of_mem {entries : List (String × Tree)} (distinct : Distinct (.mapping entries))
    {entry : String × Tree} (member : entry ∈ entries) : Distinct entry.2 := by
  cases distinct with
  | mapping _ values => exact values entry member
  | other noMapping => exact absurd rfl (noMapping entries)

theorem distinct_mapping_iff {entries : List (String × Tree)} :
    Distinct (.mapping entries) ↔
      (entries.map Prod.fst).Nodup ∧ ∀ entry ∈ entries, Distinct entry.2 :=
  ⟨fun distinct => ⟨distinct.keys, fun _ => distinct.of_mem⟩,
    fun ⟨keys, values⟩ => .mapping keys values⟩

@[simp] theorem distinct_text (value : String) : Distinct (.text value) := .other nofun nofun

@[simp] theorem distinct_boolean (value : Bool) : Distinct (.boolean value) := .other nofun nofun

@[simp] theorem distinct_integer (value : Int) : Distinct (.integer value) := .other nofun nofun

/-- Entries that are collected from values with distinct keys have distinct keys. -/
theorem Distinct.of_collected {pairs : List (String × Tree)}
    (values : ∀ pair ∈ pairs, Distinct pair.2) : Distinct (.mapping (collectEntries pairs)) := by
  refine .mapping (nodup_collectEntries pairs) fun entry member => ?_
  obtain ⟨pair, here, same⟩ := of_mem_collectEntries member
  exact same ▸ values pair here

end ApiAdmission.Tree
