import ApiAdmission.Proofs.Settings.Merging

/-!
# Merged layers, place by place

A layer overrides the entries that it is merged over place by place, however deep they are nested
(`mergeEntries_overrides`).  Where the layer has a value, that value stands there, or, if there are
mappings on both sides, the merged mapping; below a value of the layer that is no mapping nothing is
left; and where a key is missing in a mapping of the layer, what was there stays.

All this follows from one equation for the values that the layer has, `at?_mergeValue`, and one for
the keys that it lacks, `at?_mergeValue_of_absent`.  The order of keys follows from storing them one
after the other, and a layer that has been merged changes nothing a second time
(`mergeValue_twice`).
-/

namespace ApiAdmission

set_option autoImplicit false

open ApiAdmission.Tree (lookup? insertEntry Distinct)

variable {key : String} {place front rest : List String} {old : Option Tree} {value added : Tree}
  {base other : List (String × Tree)}

/-! ## Places -/

theorem Tree.at?_append (tree : Tree) (front rest : List String) :
    tree.at? (front ++ rest) = (tree.at? front).bind fun value => value.at? rest := by
  induction front generalizing tree with
  | nil => rfl
  | cons key front ih =>
    show (tree.get? key).bind _ = ((tree.get? key).bind _).bind _
    rw [Option.bind_assoc]
    exact Option.bind_congr fun value _ => ih value

theorem Tree.get?_of_plain {tree : Tree} (plain : ∀ entries, tree ≠ .mapping entries)
    (key : String) : tree.get? key = none := by
  cases tree with
  | mapping entries => exact absurd rfl (plain entries)
  | _ => rfl

theorem Tree.at?_of_plain {tree : Tree} (plain : ∀ entries, tree ≠ .mapping entries)
    (more : place ≠ []) : tree.at? place = none := by
  cases place with
  | nil => exact absurd rfl more
  | cons key rest =>
    rw [Tree.at?, Tree.get?_of_plain plain]
    rfl

/-- What has a value under a key is a mapping. -/
theorem Tree.exists_of_at?_cons {tree : Tree} (found : tree.at? (key :: rest) = some value) :
    ∃ entries inner, tree = .mapping entries ∧ lookup? key entries = some inner ∧
      inner.at? rest = some value := by
  rw [Tree.at?] at found
  obtain ⟨inner, here, onward⟩ := Option.bind_eq_some_iff.mp found
  cases tree with
  | mapping entries => exact ⟨entries, inner, rfl, here, onward⟩
  | _ => cases here

theorem Tree.Distinct.of_lookup? (distinct : Distinct (.mapping other))
    (found : lookup? key other = some value) : value.Distinct :=
  distinct.of_mem (Tree.mem_of_lookup? found)

/-- What stands in a tree with distinct keys has distinct keys. -/
theorem Tree.Distinct.of_at? {tree : Tree} (distinct : tree.Distinct)
    (found : tree.at? place = some value) : value.Distinct := by
  induction place generalizing tree with
  | nil =>
    cases found
    exact distinct
  | cons key rest ih =>
    obtain ⟨entries, inner, rfl, here, onward⟩ := Tree.exists_of_at?_cons found
    exact ih (distinct.of_lookup? here) onward

/-! ## What a layer makes of a place -/

theorem mergeValue_none (value : Tree) : mergeValue none value = value := by
  cases value <;> rfl

/-- A step into a merged mapping: the layer merges its own value under the key into the one that is
there, and where it has none it leaves what is there. -/
theorem at?_mergeValue_cons (distinct : (other.map Prod.fst).Nodup) :
    (mergeValue old (.mapping other)).at? (key :: rest) =
      match lookup? key other with
      | some value => (mergeValue (old.bind fun tree => tree.get? key) value).at? rest
      | none => old.bind fun tree => tree.at? (key :: rest) := by
  -- Only a mapping is merged into; anything else has nothing under the key either.
  by_cases known : ∃ base, old = some (.mapping base)
  · obtain ⟨base, rfl⟩ := known
    show (lookup? key (mergeEntries base other)).bind _ = _
    rw [lookup?_mergeEntries distinct]
    cases lookup? key other <;> rfl
  · have plain : ∀ entries, old ≠ some (.mapping entries) :=
      fun entries same => known ⟨entries, same⟩
    have nothing : (old.bind fun tree => tree.get? key) = none := by
      refine Option.bind_eq_none_iff.mpr fun tree here => Tree.get?_of_plain ?_ key
      rintro entries rfl
      exact plain entries here
    rw [mergeValue_of_plain plain]
    show (lookup? key other).bind _ = _
    cases lookup? key other with
    | some value =>
      show value.at? rest = (mergeValue (old.bind _) value).at? rest
      rw [nothing, mergeValue_none]
    | none =>
      show none = old.bind fun tree => (tree.get? key).bind _
      rw [← Option.bind_assoc, nothing]
      rfl

/-- **Where a layer has a value**, it merges that value into what is there. -/
theorem at?_mergeValue (distinct : added.Distinct) (found : added.at? place = some value) :
    (mergeValue old added).at? place =
      some (mergeValue (old.bind fun tree => tree.at? place) value) := by
  induction place generalizing old added with
  | nil =>
    cases found
    show some _ = some (mergeValue (old.bind some) value)
    rw [Option.bind_fun_some]
  | cons key rest ih =>
    obtain ⟨entries, inner, rfl, here, onward⟩ := Tree.exists_of_at?_cons found
    rw [at?_mergeValue_cons distinct.keys, here]
    show (mergeValue _ inner).at? rest = _
    rw [ih (distinct.of_lookup? here) onward, Option.bind_assoc]
    rfl

/-- **Where a key is missing in a mapping of a layer**, what is there stays. -/
theorem at?_mergeValue_of_absent (distinct : added.Distinct)
    (found : added.at? front = some (.mapping other)) (absent : lookup? key other = none) :
    (mergeValue old added).at? (front ++ key :: rest) =
      old.bind fun tree => tree.at? (front ++ key :: rest) := by
  have keys := (distinct.of_at? found).keys
  rw [Tree.at?_append, at?_mergeValue distinct found, Option.bind_some,
    at?_mergeValue_cons keys, absent]
  simp only [Tree.at?_append, Option.bind_assoc]

/-! ## The order of keys -/

/-- **The keys of merged entries**: the old ones in their order, and the new ones behind them in the
order of the layer. -/
theorem keys_mergeEntries (distinct : (other.map Prod.fst).Nodup) :
    (mergeEntries base other).map Prod.fst =
      base.map Prod.fst ++ (other.map Prod.fst).filter (· ∉ base.map Prod.fst) := by
  induction other generalizing base with
  | nil => simp [mergeEntries]
  | cons entry rest ih =>
    obtain ⟨name, value⟩ := entry
    rw [List.map_cons, List.nodup_cons] at distinct
    rw [mergeEntries, ih distinct.2, Tree.keys_insertEntry, List.map_cons]
    by_cases known : name ∈ base.map Prod.fst
    · rw [if_pos known, List.filter_cons_of_neg (by simpa using known)]
    · rw [if_neg known, List.filter_cons_of_pos (by simpa using known), List.append_assoc,
        List.singleton_append]
      -- The key that has just been stored is not among the ones that follow.
      refine congrArg (base.map Prod.fst ++ name :: ·) (List.filter_congr fun later member => ?_)
      have apart : later ≠ name := by
        rintro rfl
        exact distinct.1 member
      simp [apart]

/-! ## Merging twice -/

theorem insertEntry_of_lookup? (found : lookup? key base = some value) :
    insertEntry key value base = base := by
  induction base with
  | nil => cases found
  | cons entry rest ih =>
    obtain ⟨name, stored⟩ := entry
    rw [lookup?] at found
    rw [insertEntry]
    split at found
    case isTrue same =>
      cases found
      rw [if_pos same]
    case isFalse other => rw [if_neg other, ih found]

/-- Entries stay as they are if each value of a layer is merged into them already. -/
theorem mergeEntries_of_settled
    (settled : ∀ entry ∈ other, ∃ known, lookup? entry.1 base = some known ∧
      mergeValue (some known) entry.2 = known) :
    mergeEntries base other = base := by
  induction other with
  | nil => rfl
  | cons entry rest ih =>
    obtain ⟨⟨known, found, same⟩, later⟩ := List.forall_mem_cons.mp settled
    rw [mergeEntries, found, same, insertEntry_of_lookup? found, ih later]

/-- **A value that has been merged changes nothing a second time.** -/
theorem mergeValue_twice (distinct : added.Distinct) (old : Option Tree) :
    mergeValue (some (mergeValue old added)) added = mergeValue old added := by
  induction distinct generalizing old with
  | @mapping entries keys values ih =>
    have found : ∀ entry ∈ entries, lookup? entry.1 entries = some entry.2 :=
      fun entry member => Tree.lookup?_of_mem keys member
    by_cases known : ∃ base, old = some (.mapping base)
    · obtain ⟨base, rfl⟩ := known
      refine congrArg Tree.mapping (mergeEntries_of_settled fun entry member => ?_)
      refine ⟨_, ?_, ih entry member (lookup? entry.1 base)⟩
      rw [lookup?_mergeEntries keys, found entry member]
    · rw [mergeValue_of_plain fun base same => known ⟨base, same⟩]
      refine congrArg Tree.mapping (mergeEntries_of_settled fun entry member => ?_)
      refine ⟨entry.2, found entry member, ?_⟩
      simpa only [mergeValue_none] using ih entry member none
  | list members => rfl
  | other noMapping noList => simp only [mergeValue_over noMapping]

/-! ## Together -/

/-- **A layer overrides entries place by place.**  At every place, merged entries have the value of
the layer, if it is no mapping or is put over no mapping; the merged mapping, if both have one;
nothing, below a value of the layer that is no mapping; and what was there, if a key on the way is
missing in a mapping of the layer.  Where mappings are merged, the old keys keep their order and the
new ones stand behind them in the order of the layer.  A layer that is merged a second time changes
nothing. -/
theorem mergeEntries_overrides (base : List (String × Tree))
    (distinct : (Tree.mapping other).Distinct) :
    (∀ place value, (Tree.mapping other).at? place = some value →
      (∀ entries, value ≠ .mapping entries) ∨
        (∀ entries, (Tree.mapping base).at? place ≠ some (.mapping entries)) →
      (Tree.mapping (mergeEntries base other)).at? place = some value) ∧
    (∀ place below above, (Tree.mapping base).at? place = some (.mapping below) →
      (Tree.mapping other).at? place = some (.mapping above) →
      (Tree.mapping (mergeEntries base other)).at? place =
        some (.mapping (mergeEntries below above)) ∧
      (mergeEntries below above).map Prod.fst =
        below.map Prod.fst ++ (above.map Prod.fst).filter (· ∉ below.map Prod.fst)) ∧
    (∀ front rest value, (Tree.mapping other).at? front = some value →
      (∀ entries, value ≠ .mapping entries) → rest ≠ [] →
      (Tree.mapping (mergeEntries base other)).at? (front ++ rest) = none) ∧
    (∀ front key rest entries, (Tree.mapping other).at? front = some (.mapping entries) →
      lookup? key entries = none →
      (Tree.mapping (mergeEntries base other)).at? (front ++ key :: rest) =
        (Tree.mapping base).at? (front ++ key :: rest)) ∧
    mergeEntries (mergeEntries base other) other = mergeEntries base other := by
  have merged : Tree.mapping (mergeEntries base other) =
      mergeValue (some (.mapping base)) (.mapping other) := rfl
  have overrides : ∀ place value, (Tree.mapping other).at? place = some value →
      (Tree.mapping (mergeEntries base other)).at? place =
        some (mergeValue ((Tree.mapping base).at? place) value) := by
    intro place value found
    rw [merged, at?_mergeValue distinct found]
    rfl
  refine ⟨?_, ?_, ?_, ?_, ?_⟩
  · intro place value found alone
    rw [overrides place value found]
    rcases alone with plain | nothingBelow
    · rw [mergeValue_over plain]
    · rw [mergeValue_of_plain nothingBelow]
  · intro place below above here there
    refine ⟨?_, keys_mergeEntries (distinct.of_at? there).keys⟩
    rw [overrides place _ there, here]
    rfl
  · intro front rest value found plain more
    rw [Tree.at?_append, overrides front value found, mergeValue_over plain]
    exact Tree.at?_of_plain plain more
  · intro front key rest entries found absent
    rw [merged, at?_mergeValue_of_absent distinct found absent]
    rfl
  · exact Tree.mapping.inj (mergeValue_twice distinct (some (.mapping base)))

/-- Entries in which a mapping stands under `cache`, another one inside it, and one under
`output`. -/
def lowerLayer : List (String × Tree) :=
  [("output", .mapping [("format", .text "json"), ("width", .integer 80)]),
    ("cache", .mapping [("enabled", .boolean true), ("ttl", .mapping [("days", .integer 1)])])]

/-- A layer with a number over a mapping, a mapping over a truth value, and a key of its own. -/
def upperLayer : List (String × Tree) :=
  [("cache", .mapping [("ttl", .integer 5), ("enabled", .mapping [("remote", .boolean false)])]),
    ("output", .mapping [("depth", .integer 2), ("format", .text "plain")])]

/-- The number replaces the mapping and what is inside it, the mapping replaces the truth value, the
width stays, and `depth` comes behind the keys that `output` has. -/
theorem mergeEntries_overrides_upperLayer :
    (Tree.mapping upperLayer).Distinct ∧
    (Tree.mapping (mergeEntries lowerLayer upperLayer)).at? ["cache", "ttl"] =
      some (.integer 5) ∧
    (Tree.mapping (mergeEntries lowerLayer upperLayer)).at? ["cache", "ttl", "days"] = none ∧
    (Tree.mapping (mergeEntries lowerLayer upperLayer)).at? ["cache", "enabled"] =
      some (.mapping [("remote", .boolean false)]) ∧
    (Tree.mapping (mergeEntries lowerLayer upperLayer)).at? ["output", "width"] =
      some (.integer 80) ∧
    (∃ entries, (Tree.mapping (mergeEntries lowerLayer upperLayer)).at? ["output"] =
      some (.mapping entries) ∧ entries.map Prod.fst = ["format", "width", "depth"]) ∧
    mergeEntries (mergeEntries lowerLayer upperLayer) upperLayer =
      mergeEntries lowerLayer upperLayer := by
  have distinct : (Tree.mapping upperLayer).Distinct := by
    simp [upperLayer, Tree.distinct_mapping_iff]
  obtain ⟨alone, both, below, absent, twice⟩ := mergeEntries_overrides lowerLayer distinct
  obtain ⟨output, keys⟩ := both ["output"] _ _ rfl rfl
  exact ⟨distinct, alone ["cache", "ttl"] _ rfl (.inl nofun),
    below ["cache", "ttl"] ["days"] _ rfl nofun nofun,
    alone ["cache", "enabled"] _ rfl (.inr nofun),
    absent ["output"] "width" [] _ rfl rfl, ⟨_, output, keys.trans rfl⟩, twice⟩

end ApiAdmission
