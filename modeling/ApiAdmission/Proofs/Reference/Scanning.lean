import ApiAdmission.Proofs.Reference.Collecting
import ApiAdmission.Proofs.Reference.LeftReferences
import Mathlib.Data.List.Lex

/-!
# What the scan for references lists

A reference stands at a position of a tree: the numbers of the entries and items that lead to it
from the top (`Occurs`).  The scan lists the references of all positions that it comes to, each
position once, in the order of the positions.  It does not go into what is stored under the key of
references, so the references that are written there are hidden from it (`scan_enumerates`).

The replacement of references does go there: a mapping under that key is no reference, and is
expanded like any other.  So there are references that are tried without success, and that are not
in the list of those which an operator has to look after (`hidden_reference_is_tried`).
-/

namespace ApiAdmission.Reference

set_option autoImplicit false

/-! ## Positions -/

/-- A reference stands at a position of a tree that is come to through entries with certain keys
only, and through all items of lists. -/
inductive Occurs (through : String → Bool) (reference : String) : List Nat → Tree → Prop where
  /-- It is stored under the key of references. -/
  | here {entries : List (String × Tree)} {index : Nat}
      (stored : entries[index]? = some (key, .text reference)) :
      Occurs through reference [index] (.mapping entries)
  /-- It stands in the value of an entry. -/
  | entry {entries : List (String × Tree)} {index : Nat} {name : String} {value : Tree}
      {position : List Nat} (stored : entries[index]? = some (name, value))
      (passes : through name = true) (inside : Occurs through reference position value) :
      Occurs through reference (index :: position) (.mapping entries)
  /-- It stands in an item. -/
  | item {items : List Tree} {index : Nat} {item : Tree} {position : List Nat}
      (stored : items[index]? = some item) (inside : Occurs through reference position item) :
      Occurs through reference (index :: position) (.list items)

/-- A reference is written at a position, whatever the keys are that lead there. -/
abbrev WrittenAt (tree : Tree) (position : List Nat) (reference : String) : Prop :=
  Occurs (fun _ => true) reference position tree

/-- A reference is written at a position, and not inside of what stands under the key of
references. -/
abbrev Visible (tree : Tree) (position : List Nat) (reference : String) : Prop :=
  Occurs (· != key) reference position tree

/-- Texts are those at the positions where there is one, each position once and from the first
position to the last. -/
def Enumerates (occurs : List Nat → String → Prop) (texts : List String) : Prop :=
  ∃ listing : List (List Nat × String), listing.map Prod.snd = texts ∧
    (listing.map Prod.fst).Pairwise (· < ·) ∧
    ∀ position text, (position, text) ∈ listing ↔ occurs position text

theorem Enumerates.mem_iff {occurs : List Nat → String → Prop} {texts : List String}
    (listed : Enumerates occurs texts) {text : String} :
    text ∈ texts ↔ ∃ position, occurs position text := by
  obtain ⟨listing, rfl, _, complete⟩ := listed
  simp only [List.mem_map, Prod.exists, exists_eq_right, complete]

/-- What is listed of a larger family of positions is listed completely if nothing is missing. -/
theorem enumerates_iff_of_enumerates {some all : List Nat → String → Prop} {texts : List String}
    (listed : Enumerates some texts)
    (among : ∀ position text, some position text → all position text) :
    Enumerates all texts ↔ ∀ position text, all position text → some position text := by
  obtain ⟨listing, same, ordered, complete⟩ := listed
  constructor
  · rintro ⟨other, sameOther, orderedOther, completeOther⟩ position text occurs
    have subset : listing ⊆ other := fun entry member =>
      (completeOther _ _).mpr (among _ _ ((complete entry.1 entry.2).mp member))
    have once : listing.Nodup := .of_map Prod.fst (ordered.imp fun less => ne_of_lt less)
    have equal : other.length ≤ listing.length := by
      rw [← List.length_map Prod.snd, sameOther, ← same, List.length_map]
    have permuted := (once.subperm subset).perm_of_length_le equal
    exact (complete _ _).mp (permuted.mem_iff.mpr ((completeOther _ _).mpr occurs))
  · exact fun nothingMissing => ⟨listing, same, ordered, fun position text =>
      (complete _ _).trans ⟨among _ _, nothingMissing _ _⟩⟩

/-! ## The positions that are come to -/

section Listing

variable {through : String → Bool} {reference : String}

theorem Occurs.ne_nil {position : List Nat} {tree : Tree}
    (occurs : Occurs through reference position tree) : position ≠ [] := by
  cases occurs <;> nofun

mutual
/-- The references of a tree with their positions. -/
def listing (through : String → Bool) : Tree → List (List Nat × String)
  | .mapping entries => listingInEntries through 0 entries
  | .list items => listingInItems through 0 items
  | _ => []
termination_by structural tree => tree

/-- The references in items with their positions, where the items are counted from a number. -/
def listingInItems (through : String → Bool) (index : Nat) : List Tree → List (List Nat × String)
  | [] => []
  | item :: rest =>
    (listing through item).map (Prod.map (index :: ·) id) ++ listingInItems through (index + 1) rest
termination_by structural items => items

/-- The references in entries with their positions, where the entries are counted from a number. -/
def listingInEntries (through : String → Bool) (index : Nat) :
    List (String × Tree) → List (List Nat × String)
  | [] => []
  | (name, value) :: rest =>
    (if name == key then value.text?.toList.map fun reference => ([index], reference) else []) ++
      (if through name then (listing through value).map (Prod.map (index :: ·) id) else []) ++
      listingInEntries through (index + 1) rest
termination_by structural entries => entries
end

mutual
/-- The scan goes through all entries but those under the key of references. -/
theorem map_snd_listing : (tree : Tree) →
    (listing (· != key) tree).map Prod.snd = references tree
  | .mapping entries => map_snd_listingInEntries 0 entries
  | .list items => map_snd_listingInItems 0 items
  | .null | .boolean _ | .integer _ | .number _ | .text _ | .bytes _ | .moment _ | .pair _ _
  | .set _ => rfl

theorem map_snd_listingInItems : (index : Nat) → (items : List Tree) →
    (listingInItems (· != key) index items).map Prod.snd = referencesInItems items
  | _, [] => rfl
  | index, item :: rest => by
    rw [listingInItems, referencesInItems, List.map_append, List.map_map,
      ← map_snd_listing item, ← map_snd_listingInItems (index + 1) rest]
    rfl

theorem map_snd_listingInEntries : (index : Nat) → (entries : List (String × Tree)) →
    (listingInEntries (· != key) index entries).map Prod.snd = referencesInEntries entries
  | _, [] => rfl
  | index, (name, value) :: rest => by
    rw [listingInEntries, referencesInEntries, List.map_append, List.map_append,
      map_snd_listingInEntries (index + 1) rest]
    by_cases same : name = key
    · simp [same, Function.comp_def]
    · simp [same, ← map_snd_listing value]
end

theorem mem_map_cons_iff {index : Nat} {position : List Nat} {listing : List (List Nat × String)} :
    (position, reference) ∈ listing.map (Prod.map (index :: ·) id) ↔
      ∃ rest, position = index :: rest ∧ (rest, reference) ∈ listing := by
  simp only [List.mem_map, Prod.exists, Prod.map_apply, id_eq, Prod.mk.injEq]
  constructor
  · rintro ⟨rest, _, member, rfl, rfl⟩
    exact ⟨rest, rfl, member⟩
  · rintro ⟨rest, rfl, member⟩
    exact ⟨rest, reference, member, rfl, rfl⟩

theorem mem_stored_iff {name : String} {value : Tree} {index : Nat} {position : List Nat} :
    (position, reference) ∈
        (if name == key then value.text?.toList.map fun reference => ([index], reference) else []) ↔
      name = key ∧ value = .text reference ∧ position = [index] := by
  by_cases same : name = key
  · cases value <;> simp [same, Tree.text?, and_comm, eq_comm]
  · simp [same]

theorem mem_entered_iff {name : String} {value : Tree} {index : Nat} {position : List Nat}
    (inside : ∀ position,
      (position, reference) ∈ listing through value ↔ Occurs through reference position value) :
    (position, reference) ∈
        (if through name then (listing through value).map (Prod.map (index :: ·) id) else []) ↔
      through name = true ∧
        ∃ rest, position = index :: rest ∧ Occurs through reference rest value := by
  cases through name <;> simp [mem_map_cons_iff, inside]

mutual
theorem mem_listing_iff : (tree : Tree) → (position : List Nat) →
    ((position, reference) ∈ listing through tree ↔ Occurs through reference position tree)
  | .mapping entries, position => by
    rw [listing, mem_listingInEntries_iff 0 entries]
    simp only [Nat.zero_add]
    constructor
    · rintro ⟨index, name, value, stored, ⟨rfl, rfl, rfl⟩ | ⟨passes, rest, rfl, inside⟩⟩
      · exact .here stored
      · exact .entry stored passes inside
    · rintro (stored | ⟨stored, passes, inside⟩)
      · exact ⟨_, _, _, stored, .inl ⟨rfl, rfl, rfl⟩⟩
      · exact ⟨_, _, _, stored, .inr ⟨passes, _, rfl, inside⟩⟩
  | .list items, position => by
    rw [listing, mem_listingInItems_iff 0 items]
    simp only [Nat.zero_add]
    constructor
    · rintro ⟨index, item, rest, stored, rfl, inside⟩
      exact .item stored inside
    · rintro (_ | _ | ⟨stored, inside⟩)
      exact ⟨_, _, _, stored, rfl, inside⟩
  | .null, _ | .boolean _, _ | .integer _, _ | .number _, _ | .text _, _ | .bytes _, _
  | .moment _, _ | .pair _ _, _ | .set _, _ => iff_of_false List.not_mem_nil nofun

theorem mem_listingInItems_iff : (index : Nat) → (items : List Tree) → (position : List Nat) →
    ((position, reference) ∈ listingInItems through index items ↔
      ∃ offset item rest, items[offset]? = some item ∧ position = (index + offset) :: rest ∧
        Occurs through reference rest item)
  | _, [], _ => by simp [listingInItems]
  | index, item :: rest, position => by
    rw [listingInItems, List.mem_append, mem_map_cons_iff, mem_listingInItems_iff (index + 1) rest]
    refine .trans (or_congr ?_ ?_) Nat.or_exists_add_one
    · simp [mem_listing_iff item]
    · simp [Nat.add_assoc, Nat.add_comm 1]

theorem mem_listingInEntries_iff : (index : Nat) → (entries : List (String × Tree)) →
    (position : List Nat) →
    ((position, reference) ∈ listingInEntries through index entries ↔
      ∃ offset name value, entries[offset]? = some (name, value) ∧
        ((name = key ∧ value = .text reference ∧ position = [index + offset]) ∨
          (through name = true ∧ ∃ rest, position = (index + offset) :: rest ∧
            Occurs through reference rest value)))
  | _, [], _ => by simp [listingInEntries]
  | index, (name, value) :: rest, position => by
    rw [listingInEntries, List.mem_append, mem_listingInEntries_iff (index + 1) rest]
    refine .trans (or_congr ?_ ?_) Nat.or_exists_add_one
    · rw [List.mem_append, mem_stored_iff, mem_entered_iff (mem_listing_iff value)]
      simp
    · simp [Nat.add_assoc, Nat.add_comm 1]
end

/-- Positions stay in their order when they are put below one entry or item. -/
theorem pairwise_map_cons {index : Nat} {listing : List (List Nat × String)}
    (ordered : (listing.map Prod.fst).Pairwise (· < ·)) :
    ((listing.map (Prod.map (index :: ·) id)).map Prod.fst).Pairwise (· < ·) := by
  rw [List.pairwise_map] at ordered
  rw [List.pairwise_map, List.pairwise_map]
  exact ordered.imp fun less => List.cons_lt_cons_iff.mpr (.inr ⟨rfl, less⟩)

/-- What is below one item comes before what is below the next ones. -/
theorem lt_of_mem_listingInItems {index : Nat} {items : List Tree} {start position : List Nat}
    (later : position ∈ (listingInItems through (index + 1) items).map Prod.fst) :
    index :: start < position := by
  obtain ⟨⟨_, reference⟩, member, rfl⟩ := List.mem_map.mp later
  obtain ⟨offset, _, _, _, rfl, _⟩ := (mem_listingInItems_iff _ _ _).mp member
  exact List.cons_lt_cons_iff.mpr (.inl (by omega))

/-- What is below one entry comes before what is below the next ones. -/
theorem lt_of_mem_listingInEntries {index : Nat} {entries : List (String × Tree)}
    {start position : List Nat}
    (later : position ∈ (listingInEntries through (index + 1) entries).map Prod.fst) :
    index :: start < position := by
  obtain ⟨⟨_, reference⟩, member, rfl⟩ := List.mem_map.mp later
  obtain ⟨offset, _, _, _, ⟨_, _, rfl⟩ | ⟨_, _, rfl, _⟩⟩ :=
    (mem_listingInEntries_iff _ _ _).mp member
  all_goals exact List.cons_lt_cons_iff.mpr (.inl (by omega))

mutual
theorem pairwise_listing : (tree : Tree) →
    ((listing through tree).map Prod.fst).Pairwise (· < ·)
  | .mapping entries => pairwise_listingInEntries 0 entries
  | .list items => pairwise_listingInItems 0 items
  | .null | .boolean _ | .integer _ | .number _ | .text _ | .bytes _ | .moment _ | .pair _ _
  | .set _ => .nil

theorem pairwise_listingInItems : (index : Nat) → (items : List Tree) →
    ((listingInItems through index items).map Prod.fst).Pairwise (· < ·)
  | _, [] => .nil
  | index, item :: rest => by
    rw [listingInItems, List.map_append, List.pairwise_append]
    refine ⟨pairwise_map_cons (pairwise_listing item), pairwise_listingInItems (index + 1) rest, ?_⟩
    intro first here later there
    obtain ⟨⟨_, reference⟩, member, rfl⟩ := List.mem_map.mp here
    obtain ⟨_, rfl, _⟩ := mem_map_cons_iff.mp member
    exact lt_of_mem_listingInItems there

theorem pairwise_listingInEntries : (index : Nat) → (entries : List (String × Tree)) →
    ((listingInEntries through index entries).map Prod.fst).Pairwise (· < ·)
  | _, [] => .nil
  | index, (name, value) :: rest => by
    rw [listingInEntries, List.map_append, List.map_append, List.pairwise_append,
      List.pairwise_append]
    refine ⟨⟨?_, ?_, ?_⟩, pairwise_listingInEntries (index + 1) rest, ?_⟩
    · split
      · cases value.text? <;> simp
      · exact .nil
    · split
      · exact pairwise_map_cons (pairwise_listing value)
      · exact .nil
    · intro first here later there
      obtain ⟨⟨_, reference⟩, member, rfl⟩ := List.mem_map.mp here
      obtain ⟨_, _, rfl⟩ := mem_stored_iff.mp member
      obtain ⟨⟨_, other⟩, memberOther, rfl⟩ := List.mem_map.mp there
      obtain ⟨_, rest, rfl, inside⟩ := (mem_entered_iff (mem_listing_iff value)).mp memberOther
      obtain ⟨below, further, rfl⟩ := List.exists_cons_of_ne_nil inside.ne_nil
      exact List.cons_lt_cons_iff.mpr (.inr ⟨rfl, List.nil_lt_cons below further⟩)
    · intro first here later there
      rcases List.mem_append.mp here with here | here <;>
        obtain ⟨⟨_, reference⟩, member, rfl⟩ := List.mem_map.mp here
      · obtain ⟨_, _, rfl⟩ := mem_stored_iff.mp member
        exact lt_of_mem_listingInEntries there
      · obtain ⟨_, rest, rfl, _⟩ := (mem_entered_iff (mem_listing_iff value)).mp member
        exact lt_of_mem_listingInEntries there
end

/-- The positions of a tree that are come to can be listed. -/
theorem enumerates_listing (through : String → Bool) (tree : Tree) :
    Enumerates (fun position reference => Occurs through reference position tree)
      ((listing through tree).map Prod.snd) :=
  ⟨listing through tree, rfl, pairwise_listing tree, fun _ _ => mem_listing_iff tree _⟩

end Listing

/-! ## The list of remote references -/

/-- Values of a kind that are added where they are new: each once, and in the order in which they
come first. -/
structure FirstSeen (keep : String → Bool) (values firsts : List String) : Prop where
  nodup : firsts.Nodup
  complete : ∀ value, value ∈ firsts ↔ value ∈ values ∧ keep value = true
  ordered : firsts.Pairwise fun first second => values.idxOf first < values.idxOf second

theorem FirstSeen.concat_known {keep : String → Bool} {values firsts : List String}
    (seen : FirstSeen keep values firsts) {last : String}
    (known : keep last = true → last ∈ firsts) : FirstSeen keep (values ++ [last]) firsts where
  nodup := seen.nodup
  complete value := by
    rw [seen.complete, List.mem_append, List.mem_singleton]
    constructor
    · exact fun ⟨member, kept⟩ => ⟨.inl member, kept⟩
    · rintro ⟨member | rfl, kept⟩
      · exact ⟨member, kept⟩
      · exact (seen.complete _).mp (known kept)
  ordered := by
    refine seen.ordered.imp_of_mem fun {first second} here there less => ?_
    rwa [List.idxOf_append_of_mem ((seen.complete _).mp here).1,
      List.idxOf_append_of_mem ((seen.complete _).mp there).1]

theorem FirstSeen.concat_new {keep : String → Bool} {values firsts : List String}
    (seen : FirstSeen keep values firsts) {last : String} (kept : keep last = true)
    (new : last ∉ firsts) : FirstSeen keep (values ++ [last]) (firsts ++ [last]) where
  nodup := by
    rw [← List.concat_eq_append]
    exact seen.nodup.concat new
  complete value := by
    rw [List.mem_append, List.mem_append, List.mem_singleton, seen.complete]
    constructor
    · rintro (⟨member, keeps⟩ | rfl)
      · exact ⟨.inl member, keeps⟩
      · exact ⟨.inr rfl, kept⟩
    · rintro ⟨member | rfl, keeps⟩
      · exact .inl ⟨member, keeps⟩
      · exact .inr rfl
  ordered := by
    have absent : last ∉ values := fun member => new ((seen.complete _).mpr ⟨member, kept⟩)
    rw [List.pairwise_append]
    refine ⟨seen.ordered.imp_of_mem fun {first second} here there less => ?_,
      List.pairwise_singleton _ _, fun first here second there => ?_⟩
    · rwa [List.idxOf_append_of_mem ((seen.complete _).mp here).1,
        List.idxOf_append_of_mem ((seen.complete _).mp there).1]
    · rw [List.mem_singleton.mp there, List.idxOf_append_of_notMem absent,
        List.idxOf_append_of_mem ((seen.complete _).mp here).1]
      exact Nat.lt_add_right _ (List.idxOf_lt_length_of_mem ((seen.complete _).mp here).1)

/-- Such values are what adding them one after the other comes to. -/
theorem firstSeen_foldl_addNew (keep : String → Bool) (values : List String) :
    FirstSeen keep values ((values.filter keep).foldl addNew []) := by
  induction values using List.reverseRecOn with
  | nil => exact ⟨.nil, by simp, .nil⟩
  | append_singleton values last ih =>
    rw [List.filter_append, List.foldl_append]
    cases kept : keep last with
    | false => simpa [kept] using ih.concat_known fun keeps => absurd keeps (by simp [kept])
    | true =>
      simp only [List.filter_cons, kept, List.filter_nil, if_true, List.foldl_cons, List.foldl_nil,
        addNew]
      split
      · rename_i known
        exact ih.concat_known fun _ => List.contains_iff_mem.mp known
      · rename_i new
        exact ih.concat_new kept fun member => new (List.contains_iff_mem.mpr member)

/-! ## The references that the replacement tries -/

theorem Occurs.mono {through other : String → Bool}
    (wider : ∀ name, through name = true → other name = true) {reference : String}
    {position : List Nat} {tree : Tree} (occurs : Occurs through reference position tree) :
    Occurs other reference position tree := by
  induction occurs with
  | here stored => exact .here stored
  | entry stored passes _ ih => exact .entry stored (wider _ passes) ih
  | item stored _ ih => exact .item stored ih

/-- The reference that a mapping is, is visible in it. -/
theorem visible_of_referenceOf? {entries : List (String × Tree)} {reference : String}
    (found : referenceOf? entries = some reference) :
    ∃ position, Visible (.mapping entries) position reference := by
  obtain ⟨value, stored, text⟩ := Option.bind_eq_some_iff.mp found
  obtain ⟨index, here⟩ := List.getElem?_of_mem (Tree.mem_of_lookup? stored)
  cases value <;> cases text
  exact ⟨[index], .here here⟩

/-- What is written in a node is written in the tree. -/
theorem written_of_inside {node tree : Tree} {reference : String} {position : List Nat}
    (inside : Inside node tree) (written : WrittenAt node position reference) :
    ∃ position, WrittenAt tree position reference := by
  induction inside with
  | here => exact ⟨position, written⟩
  | item member _ ih =>
    obtain ⟨position, occurs⟩ := ih
    obtain ⟨index, here⟩ := List.getElem?_of_mem member
    exact ⟨index :: position, .item here occurs⟩
  | entry member _ ih =>
    obtain ⟨position, occurs⟩ := ih
    obtain ⟨index, here⟩ := List.getElem?_of_mem member
    exact ⟨index :: position, .entry here rfl occurs⟩

/-- A local reference names the document that it stands in. -/
theorem cut_of_isLocal {reference : String} (here : isLocal reference = true) :
    (cut reference).1 = "" := by
  have start : ['#', '/'] <+: reference.toList := List.isPrefixOf_iff_prefix.mp here
  obtain ⟨rest, split⟩ := start
  simp [cut, ← split, Text.cutAt]

/-- An expansion tries to load the document of its reference and does not get it: there is none for
a reason, or finding it breaks down. -/
inductive Expansion.FailsToLoad (surroundings : Surroundings) (expansion : Expansion)
    (reference : String) : Prop where
  | noDocument {reason : String} {after : Memory} (refers : expansion.RefersBy reference)
      (leads : (lead surroundings expansion.place expansion.seen reference).run.run
        expansion.memory = (.ok (.noDocument reason), after))
  | breaksDown {failure : Failure} {after : Memory} (refers : expansion.RefersBy reference)
      (leads : (lead surroundings expansion.place expansion.seen reference).run.run
        expansion.memory = (.error failure, after))

section FailsToLoad

variable {surroundings : Surroundings} {expansion : Expansion} {reference : String}

theorem Expansion.FailsToLoad.refers (fails : expansion.FailsToLoad surroundings reference) :
    expansion.RefersBy reference := by
  cases fails <;> assumption

/-- A reference without its document is remote. -/
theorem Expansion.FailsToLoad.isRemote (fails : expansion.FailsToLoad surroundings reference)
    (faithful : expansion.memory.Faithful surroundings) : isRemote reference = true := by
  have unreached : reach surroundings expansion.place (cut reference).1 ≠
      .ok (.ok expansion.place) := by
    intro reaches
    cases fails with
    | noDocument _ leads =>
      have named := leadOf_eq_noDocument_iff.mp (lead_run_inv faithful leads).1
      cases reaches.symm.trans named
    | breaksDown _ leads =>
      have broken := leadOf_eq_error_iff.mp (lead_run_inv faithful leads).1
      cases reaches.symm.trans broken
  cases here : isLocal reference with
  | false => simp [Reference.isRemote, here]
  | true =>
    rw [cut_of_isLocal here] at unreached
    exact absurd rfl unreached

/-- A reference of the tree that fails to load is remote, and it is written there. -/
theorem Reaches.written {mode : Mode} {base : Option String} {tree : Tree}
    (reaches : Reaches surroundings mode (.whole base tree .empty) expansion)
    (own : expansion.place.root = tree) (fails : expansion.FailsToLoad surroundings reference) :
    isRemote reference = true ∧ ∃ position, WrittenAt tree position reference := by
  have placed := (Expansion.whole_placed surroundings base tree).of_reaches reaches
  obtain ⟨entries, piece, found⟩ := fails.refers
  obtain ⟨position, visible⟩ := visible_of_referenceOf? found
  have inside : Inside (.mapping entries) tree := own ▸ placed.inside _ (piece ▸ .here)
  exact ⟨fails.isRemote placed.faithful, written_of_inside inside (visible.mono fun _ _ => rfl)⟩

end FailsToLoad

/-! ## What the scan lists -/

/-- **The scan lists what is visible.**  It enumerates the references that are written outside of
what stands under the key of references, and so all that are written if none is hidden there.  The
remote ones are listed once each, in the order in which they come first.  A reference of the tree
that the replacement of references fails to load is remote, and it is among these if it is
visible. -/
theorem scan_enumerates (tree : Tree) :
    Enumerates (Visible tree) (references tree) ∧
    (Enumerates (WrittenAt tree) (references tree) ↔
      ∀ position reference, WrittenAt tree position reference → Visible tree position reference) ∧
    FirstSeen isRemote (references tree) (remoteReferences tree) ∧
    ∀ surroundings mode base expansion reference,
      Reaches surroundings mode (.whole base tree .empty) expansion →
      expansion.place.root = tree → expansion.FailsToLoad surroundings reference →
      isRemote reference = true ∧ (∃ position, WrittenAt tree position reference) ∧
        (reference ∈ remoteReferences tree ↔ ∃ position, Visible tree position reference) := by
  have visible : Enumerates (Visible tree) (references tree) :=
    map_snd_listing tree ▸ enumerates_listing _ tree
  have firsts := firstSeen_foldl_addNew isRemote (references tree)
  refine ⟨visible, enumerates_iff_of_enumerates visible fun _ _ => Occurs.mono fun _ _ => rfl,
    firsts, ?_⟩
  intro surroundings mode base expansion reference reaches own fails
  obtain ⟨remote, written⟩ := reaches.written own fails
  refine ⟨remote, written, ?_⟩
  show reference ∈ ((references tree).filter isRemote).foldl addNew [] ↔ _
  rw [firsts.complete, and_iff_left remote]
  exact visible.mem_iff

/-! ## A visible reference and a hidden one -/

/-- A mapping that is a relative reference. -/
def relativeReference : Tree := .mapping [("$ref", .text "a.json")]

/-- Without a location, a relative reference does not get its document. -/
theorem failsToLoad_relativeReference (root : Tree) :
    Expansion.FailsToLoad ((sharedWorld none).surroundings true)
      ⟨⟨root, none⟩, [], .tree relativeReference, .empty⟩ "a.json" := by
  have document : (cut "a.json").1 = "a.json" := by decide +kernel
  have reaches : reach ((sharedWorld none).surroundings true) ⟨root, none⟩ (cut "a.json").1 =
      .ok (.error ("relative reference " ++ "a.json" ++
        " has no document location to resolve against")) := by
    have located : locate (sharedWorld none).files none "a.json" = .error (.noBase "a.json") := by
      have address : isWebAddress "a.json" = false := by decide +kernel
      have path : (Path.ofText "a.json").isAbsolute = false := by decide +kernel
      simp [locate, address, path]
    have named : ("a.json" == "") = false := by decide +kernel
    simp only [reach, document, named, Bool.false_eq_true, if_false, World.surroundings, located]
  obtain ⟨after, leads, _⟩ := lead_run (Memory.faithful_empty _) ⟨root, none⟩ [] "a.json"
  rw [leadOf_eq_noDocument_iff.mpr reaches] at leads
  exact .noDocument ⟨_, rfl, rfl⟩ leads

/-- A definition in which the reference stands under another key. -/
def visibleTree : Tree := .mapping [("a", relativeReference)]

/-- The reference fails to load, and it is listed. -/
theorem visible_reference_is_listed :
    (∃ expansion, Reaches ((sharedWorld none).surroundings true) .collecting
        (.whole none visibleTree .empty) expansion ∧ expansion.place.root = visibleTree ∧
      expansion.FailsToLoad ((sharedWorld none).surroundings true) "a.json") ∧
    "a.json" ∈ remoteReferences visibleTree := by
  have reaches : Reaches ((sharedWorld none).surroundings true) .collecting
      (.whole none visibleTree .empty)
      ⟨⟨visibleTree, none⟩, [], .tree relativeReference, .empty⟩ :=
    (Relation.ReflTransGen.single (.entries rfl)).tail .entry
  have fails := failsToLoad_relativeReference visibleTree
  obtain ⟨_, _, _, tried⟩ := scan_enumerates visibleTree
  obtain ⟨_, _, listed⟩ := tried _ _ _ _ _ reaches rfl fails
  have visible : Visible visibleTree [0, 0] "a.json" :=
    .entry rfl (by decide +kernel) (.here rfl)
  exact ⟨⟨_, reaches, rfl, fails⟩, listed.mpr ⟨[0, 0], visible⟩⟩

/-- A definition in which the reference stands under the key of references. -/
def hiddenTree : Tree := .mapping [("$ref", relativeReference)]

/-- The reference is written there, and the replacement of references tries it and fails to load
it; but it is not listed. -/
theorem hidden_reference_is_tried :
    WrittenAt hiddenTree [0, 0] "a.json" ∧
    ¬ Enumerates (WrittenAt hiddenTree) (references hiddenTree) ∧
    (∃ expansion, Reaches ((sharedWorld none).surroundings true) .collecting
        (.whole none hiddenTree .empty) expansion ∧ expansion.place.root = hiddenTree ∧
      expansion.FailsToLoad ((sharedWorld none).surroundings true) "a.json") ∧
    "a.json" ∉ remoteReferences hiddenTree := by
  have written : WrittenAt hiddenTree [0, 0] "a.json" := .entry rfl rfl (.here rfl)
  have reaches : Reaches ((sharedWorld none).surroundings true) .collecting
      (.whole none hiddenTree .empty) ⟨⟨hiddenTree, none⟩, [], .tree relativeReference, .empty⟩ :=
    (Relation.ReflTransGen.single (.entries rfl)).tail .entry
  have empty : references hiddenTree = [] := by decide +kernel
  refine ⟨written, fun listed => ?_,
    ⟨_, reaches, rfl, failsToLoad_relativeReference hiddenTree⟩, by decide +kernel⟩
  have member := listed.mem_iff.mpr ⟨_, written⟩
  rw [empty] at member
  cases member

end ApiAdmission.Reference
