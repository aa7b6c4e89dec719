import ApiAdmission.Proofs.Outcome
import ApiAdmission.Proofs.Paths.Checks
import ApiAdmission.Proofs.Tree.Entries
import Mathlib.Data.List.Perm.Basic

/-!
# Paths that differ only by a slash at the end

`Clash` says on the mapping itself that a resource path and its sibling with a slash at the end
both declare a method.  The search for conflicts runs over the paths with a slash and stops at the
first that conflicts; `FirstClash` says which one that is, with the methods in common.  The checks
of paths report a conflict exactly if there is a clash, they report the first one and no other, and
the order of the keys does not decide whether there is one to report (`checks_report_clash`).

The keys of a mapping are distinct, which is the one condition.  A family that is not known has no
path items to read, so that its checks give nothing to report on unless the mapping is empty.
-/

namespace ApiAdmission

set_option autoImplicit false

/-! ## Clashes -/

/-- A resource path and the same path with a slash at the end both declare a method. -/
structure Clash (paths : List (String × Tree)) (path : String) (method : Method) : Prop where
  /-- Neither of the two keys is an extension. -/
  resources : isExtension path = false ∧ isExtension (path ++ "/") = false
  /-- Both keys are there, with items that declare the method. -/
  declared : ∃ item other, Tree.lookup? path paths = some item ∧
    Tree.lookup? (path ++ "/") paths = some other ∧ Declares item method ∧ Declares other method

/-- The first key with a slash at its end that clashes with the key without it, and all methods by
which the two clash, in the order in which the gateway names methods. -/
structure FirstClash (paths : List (String × Tree)) (path : String) (methods : List Method) :
    Prop where
  /-- No key that comes before clashes with its sibling. -/
  first : ∃ before other after, paths = before ++ (path ++ "/", other) :: after ∧
    ∀ earlier, earlier ++ "/" ∈ before.map Prod.fst →
      ∀ method ∈ Method.dispatched, ¬ Clash paths earlier method
  /-- There is a method in common. -/
  inhabited : methods ≠ []
  /-- The methods come in the order of the dispatched ones. -/
  ordered : methods.Sublist Method.dispatched
  /-- The methods are those by which the two keys clash. -/
  common : ∀ method, method ∈ methods ↔ method ∈ Method.dispatched ∧ Clash paths path method

section Clashes

variable {family : Family} {paths : List (String × Tree)}

theorem clash_iff (distinct : (paths.map Prod.fst).Nodup) {path : String} {item other : Tree}
    (bare : (path, item) ∈ paths) (slashed : (path ++ "/", other) ∈ paths)
    (resource : isExtension path = false) {method : Method} :
    Clash paths path method ↔ Declares item method ∧ Declares other method := by
  have here := Tree.lookup?_of_mem distinct bare
  have there := Tree.lookup?_of_mem distinct slashed
  constructor
  · rintro ⟨_, first, second, found, foundSlashed, both⟩
    rw [here, Option.some_inj] at found
    rw [there, Option.some_inj] at foundSlashed
    exact found ▸ foundSlashed ▸ both
  · exact fun both => ⟨⟨resource, (isExtension_append_slash path).trans resource⟩,
      item, other, here, there, both⟩

theorem clash_congr {others : List (String × Tree)} (same : paths.Perm others)
    (distinct : (paths.map Prod.fst).Nodup) {path : String} {method : Method} :
    Clash paths path method ↔ Clash others path method := by
  have distinctOthers := (same.map Prod.fst).nodup_iff.mp distinct
  have found (key : String) (value : Tree) :
      Tree.lookup? key paths = some value ↔ Tree.lookup? key others = some value := by
    rw [Tree.lookup?_eq_some_iff_mem distinct, Tree.lookup?_eq_some_iff_mem distinctOthers,
      same.mem_iff]
  constructor
  · rintro ⟨resources, item, other, bare, slashed, both⟩
    exact ⟨resources, item, other, (found _ _).mp bare, (found _ _).mp slashed, both⟩
  · rintro ⟨resources, item, other, bare, slashed, both⟩
    exact ⟨resources, item, other, (found _ _).mpr bare, (found _ _).mpr slashed, both⟩

/-! ## The search for a conflict -/

theorem mem_commonMethods_iff (known : family ≠ .unknown) {path sibling : String}
    {item other : Tree} {method : Method} :
    method ∈ commonMethods (.ofItem family.methods path item)
        (.ofItem family.methods sibling other) ↔
      method ∈ Method.dispatched ∧ Declares other method ∧ Declares item method := by
  simp only [commonMethods, List.mem_filter, Bool.and_eq_true, PathEntry.declares,
    List.contains_eq_mem, decide_eq_true_eq, mem_operations_iff]
  refine and_congr_right fun dispatched => ?_
  simp [mem_methods_of_dispatched known dispatched, and_comm]

/-- Dispatched methods in their order are settled by which ones they are. -/
theorem eq_of_dispatched {first second : List Method} (ordered : first.Sublist Method.dispatched)
    (orderedSecond : second.Sublist Method.dispatched)
    (same : ∀ method, method ∈ first ↔ method ∈ second) : first = second := by
  have once : Method.dispatched.Nodup := by decide
  exact (once.perm_iff_eq_of_sublist ordered orderedSecond).mp
    ((List.perm_ext_iff_of_nodup (ordered.nodup once) (orderedSecond.nodup once)).mpr same)

theorem conflict?_eq_some_iff {entries : List PathEntry} {entry : PathEntry}
    {finding : Diagnostic} :
    conflict? entries entry = some finding ↔
      ∃ stripped sibling, entry.path = stripped ++ "/" ∧
        entries.find? (fun other => other.path == stripped) = some sibling ∧
        commonMethods entry sibling ≠ [] ∧
        finding = duplicatePath sibling.path entry.path (commonMethods entry sibling) := by
  simp only [conflict?, Option.bind_eq_bind, Option.bind_eq_some_iff, withoutSlash?_eq_some_iff]
  constructor
  · rintro ⟨stripped, ends, sibling, found, conflict⟩
    split at conflict
    · cases conflict
    · rename_i common
      cases conflict
      exact ⟨stripped, sibling, ends, found, by simpa [List.isEmpty_iff] using common, rfl⟩
  · rintro ⟨stripped, sibling, ends, found, common, rfl⟩
    exact ⟨stripped, ends, sibling, found, if_neg (by simpa [List.isEmpty_iff] using common)⟩

/-- What one path of a mapping conflicts by: the path without the slash is there, and there are
methods in common. -/
theorem conflict?_ofItem_eq_some_iff {path : String} {other : Tree} {finding : Diagnostic}
    (resource : isExtension path = false) :
    conflict? (pathEntries family paths) (.ofItem family.methods path other) = some finding ↔
      ∃ stripped item, path = stripped ++ "/" ∧ Tree.lookup? stripped paths = some item ∧
        commonMethods (.ofItem family.methods path other)
          (.ofItem family.methods stripped item) ≠ [] ∧
        finding = duplicatePath stripped path (commonMethods (.ofItem family.methods path other)
          (.ofItem family.methods stripped item)) := by
  rw [conflict?_eq_some_iff]
  change (∃ stripped sibling, path = stripped ++ "/" ∧ _) ↔ _
  constructor
  · rintro ⟨stripped, sibling, rfl, found, rest⟩
    rw [find_pathEntries ((isExtension_append_slash stripped).symm.trans resource)] at found
    obtain ⟨item, here, rfl⟩ := Option.map_eq_some_iff.mp found
    exact ⟨stripped, item, rfl, here, rest⟩
  · rintro ⟨stripped, item, rfl, here, rest⟩
    refine ⟨stripped, .ofItem family.methods stripped item, rfl, ?_, rest⟩
    rw [find_pathEntries ((isExtension_append_slash stripped).symm.trans resource), here]
    rfl

/-- The search over the entries is a search over the mapping that passes extensions over. -/
theorem findDuplicatePath_pathEntries :
    findDuplicatePath (pathEntries family paths) = paths.findSome? fun entry =>
      if isExtension entry.1 then none
      else conflict? (pathEntries family paths) (.ofItem family.methods entry.1 entry.2) := by
  rw [findDuplicatePath]
  generalize conflict? (pathEntries family paths) = conflict
  induction paths with
  | nil => rfl
  | cons entry rest ih =>
    obtain ⟨path, item⟩ := entry
    rw [pathEntries_cons, List.findSome?_cons]
    cases isExtension path with
    | true => simpa using ih
    | false => simp [List.findSome?_cons, ih]

/-- A path conflicts exactly where it clashes by a dispatched method. -/
theorem conflict?_ofItem_eq_none_iff (distinct : (paths.map Prod.fst).Nodup)
    (known : family ≠ .unknown) {path : String} {other : Tree} (member : (path, other) ∈ paths) :
    (if isExtension path then none
      else conflict? (pathEntries family paths) (.ofItem family.methods path other)) = none ↔
      ∀ bare, path = bare ++ "/" → ∀ method ∈ Method.dispatched, ¬ Clash paths bare method := by
  constructor
  · rintro free bare rfl method dispatched clash
    obtain ⟨item, _, found, _, _⟩ := clash.declared
    have both := (clash_iff distinct (Tree.mem_of_lookup? found) member clash.resources.1).mp clash
    have shared : method ∈ commonMethods (.ofItem family.methods (bare ++ "/") other)
        (.ofItem family.methods bare item) :=
      (mem_commonMethods_iff known).mpr ⟨dispatched, both⟩
    rw [clash.resources.2, if_neg Bool.false_ne_true] at free
    have conflict := (conflict?_ofItem_eq_some_iff clash.resources.2).mpr
      ⟨bare, item, rfl, found, List.ne_nil_of_mem shared, rfl⟩
    rw [free] at conflict
    cases conflict
  · intro free
    cases resource : isExtension path with
    | true => rfl
    | false =>
      rw [if_neg Bool.false_ne_true, Option.eq_none_iff_forall_ne_some]
      intro finding conflict
      obtain ⟨bare, item, rfl, found, common, -⟩ :=
        (conflict?_ofItem_eq_some_iff resource).mp conflict
      obtain ⟨method, shared⟩ := List.exists_mem_of_ne_nil _ common
      obtain ⟨dispatched, both⟩ := (mem_commonMethods_iff known).mp shared
      exact free bare rfl method dispatched ((clash_iff distinct (Tree.mem_of_lookup? found) member
        ((isExtension_append_slash bare).symm.trans resource)).mpr both)

/-- The search finds the first clash, with its methods. -/
theorem findDuplicatePath_eq_some_iff (distinct : (paths.map Prod.fst).Nodup)
    (known : family ≠ .unknown) {finding : Diagnostic} :
    findDuplicatePath (pathEntries family paths) = some finding ↔
      ∃ path methods, FirstClash paths path methods ∧
        finding = duplicatePath path (path ++ "/") methods := by
  rw [findDuplicatePath_pathEntries, List.findSome?_eq_some_iff]
  constructor
  · rintro ⟨before, ⟨path, other⟩, after, split, conflict, none⟩
    have member : (path, other) ∈ paths := by simp [split]
    cases resource : isExtension path with
    | true => simp [resource] at conflict
    | false =>
      rw [resource, if_neg Bool.false_ne_true] at conflict
      obtain ⟨bare, item, rfl, found, common, rfl⟩ :=
        (conflict?_ofItem_eq_some_iff resource).mp conflict
      refine ⟨bare, _, ⟨⟨before, other, after, split, ?_⟩, common, List.filter_sublist, ?_⟩, rfl⟩
      · intro earlier key
        obtain ⟨⟨_, first⟩, here, rfl⟩ := List.mem_map.mp key
        have passed := none _ here
        exact (conflict?_ofItem_eq_none_iff distinct known (by simp [split, here])).mp passed _ rfl
      · intro method
        rw [mem_commonMethods_iff known, clash_iff distinct (Tree.mem_of_lookup? found) member
          ((isExtension_append_slash bare).symm.trans resource)]
  · rintro ⟨path, methods, ⟨⟨before, other, after, split, free⟩, inhabited, ordered, common⟩, rfl⟩
    have member : (path ++ "/", other) ∈ paths := by simp [split]
    obtain ⟨method, here⟩ := List.exists_mem_of_ne_nil _ inhabited
    obtain ⟨⟨bare, slashed⟩, item, _, found, -⟩ := ((common method).mp here).2
    have same : commonMethods (.ofItem family.methods (path ++ "/") other)
        (.ofItem family.methods path item) = methods :=
      eq_of_dispatched List.filter_sublist ordered fun method =>
        (mem_commonMethods_iff known).trans <| .trans
          (and_congr_right' (clash_iff distinct (Tree.mem_of_lookup? found) member bare).symm)
          (common method).symm
    refine ⟨before, (path ++ "/", other), after, split, ?_, ?_⟩
    · rw [if_neg (by simpa using slashed)]
      refine (conflict?_ofItem_eq_some_iff slashed).mpr ⟨path, item, rfl, found, ?_, ?_⟩
      · rwa [same]
      · rw [same]
    · rintro ⟨key, first⟩ here
      refine (conflict?_ofItem_eq_none_iff distinct known (by simp [split, here])).mpr ?_
      rintro earlier rfl
      exact free earlier (List.mem_map.mpr ⟨_, here, rfl⟩)

/-- The search finds something exactly if there is a clash. -/
theorem findDuplicatePath_ne_none_iff (distinct : (paths.map Prod.fst).Nodup)
    (known : family ≠ .unknown) :
    findDuplicatePath (pathEntries family paths) ≠ none ↔
      ∃ path, ∃ method ∈ Method.dispatched, Clash paths path method := by
  rw [Ne, findDuplicatePath_eq_none_iff known]
  push Not
  constructor
  · rintro ⟨path, item, other, found, member, resource, method, dispatched, both⟩
    exact ⟨path, method, dispatched,
      (clash_iff distinct (Tree.mem_of_lookup? found) member resource).mpr both⟩
  · rintro ⟨path, method, dispatched, clash⟩
    obtain ⟨item, other, found, foundSlashed, both⟩ := clash.declared
    exact ⟨path, item, other, found, Tree.mem_of_lookup? foundSlashed, clash.resources.1, method,
      dispatched, both⟩

end Clashes

/-! ## What the checks report -/

/-- What the other checks find has another code. -/
theorem code_ne_duplicatePath {entries : List PathEntry} {finding : Diagnostic}
    (member : finding ∈ checkEmptyPaths entries ++ checkOperations entries) :
    finding.code ≠ .duplicatePath := by
  rcases List.mem_append.mp member with empty | operations
  · unfold checkEmptyPaths at empty
    split at empty
    · cases List.mem_singleton.mp empty
      nofun
    · cases empty
  · obtain ⟨entry, _, found⟩ := List.mem_flatMap.mp operations
    rcases List.mem_append.mp found with none | empty
    · split at none
      · cases List.mem_singleton.mp none
        nofun
      · cases none
    · obtain ⟨method, _, rfl⟩ := List.mem_map.mp empty
      nofun

/-- The conflicts among all findings are what the search finds. -/
theorem filter_checkPaths (entries : List PathEntry) :
    (checkPaths entries).filter (fun finding => finding.code == .duplicatePath) =
      (findDuplicatePath entries).toList := by
  have others : (checkEmptyPaths entries ++ checkOperations entries).filter
      (fun finding => finding.code == .duplicatePath) = [] := by
    rw [List.filter_eq_nil_iff]
    exact fun finding member same => code_ne_duplicatePath member (eq_of_beq same)
  rw [checkPaths, List.filter_append, others, List.nil_append, List.filter_eq_self]
  intro finding member
  obtain ⟨entry, _, conflict⟩ := List.exists_of_findSome?_eq_some (Option.mem_toList.mp member)
  obtain ⟨_, _, _, _, _, rfl⟩ := conflict?_eq_some_iff.mp conflict
  rfl

/-- A conflict is reported exactly if the search finds one. -/
theorem reports_conflict_iff (entries : List PathEntry) :
    (∃ finding ∈ checkPaths entries, finding.code = .duplicatePath) ↔
      findDuplicatePath entries ≠ none := by
  rw [Ne, ← Option.toList_eq_nil_iff, ← filter_checkPaths, List.filter_eq_nil_iff]
  simp

/-- Paths are read if the family is known, or if there are none. -/
theorem readPathEntries_eq_ok_iff {family : Family} {paths : List (String × Tree)}
    {entries : List PathEntry} :
    readPathEntries family (some paths) = .ok entries ↔
      (family ≠ .unknown ∨ paths = []) ∧ pathEntries family paths = entries := by
  cases paths with
  | nil => simp [readPathEntries, pathEntries]
  | cons first rest => cases family <;> simp [readPathEntries]

/-- Paths that are read could be those of a known family. -/
theorem exists_known {family : Family} {paths : List (String × Tree)}
    (readable : family ≠ .unknown ∨ paths = []) :
    ∃ known : Family, known ≠ .unknown ∧ pathEntries family paths = pathEntries known paths := by
  rcases readable with known | rfl
  · exact ⟨family, known, rfl⟩
  · exact ⟨.openapi3, nofun, rfl⟩

/-- **Paths that differ only by a slash at the end are reported exactly if they clash.**  The
checks give their findings for every mapping of a known family.  Among them there is a conflict
exactly if some path and its sibling with the slash both declare a dispatched method; there is at
most one, which names the first such key with a slash, its sibling and all methods in common; and
the order of the keys does not decide whether there is one. -/
theorem checks_report_clash {family : Family} {paths : List (String × Tree)}
    (distinct : (paths.map Prod.fst).Nodup) :
    (family = .unknown ∧ paths ≠ [] →
      (readPathEntries family (some paths)).map checkPaths = .error Family.noRules) ∧
    (family ≠ .unknown ∨ paths = [] →
      ∃ findings, (readPathEntries family (some paths)).map checkPaths = .ok findings ∧
        ((∃ finding ∈ findings, finding.code = .duplicatePath) ↔
          ∃ path, ∃ method ∈ Method.dispatched, Clash paths path method) ∧
        (findings.filter fun finding => finding.code == .duplicatePath).length ≤ 1 ∧
        (∀ finding ∈ findings, finding.code = .duplicatePath →
          ∃ path methods, FirstClash paths path methods ∧
            finding = duplicatePath path (path ++ "/") methods) ∧
        ∀ others, others.Perm paths →
          ∃ otherFindings, (readPathEntries family (some others)).map checkPaths =
              .ok otherFindings ∧
            ((∃ finding ∈ otherFindings, finding.code = .duplicatePath) ↔
              ∃ finding ∈ findings, finding.code = .duplicatePath)) := by
  have reports {others : List (String × Tree)} (keys : (others.map Prod.fst).Nodup)
      (readable : family ≠ .unknown ∨ others = []) :
      (∃ finding ∈ checkPaths (pathEntries family others), finding.code = .duplicatePath) ↔
        ∃ path, ∃ method ∈ Method.dispatched, Clash others path method := by
    obtain ⟨known, isKnown, same⟩ := exists_known readable
    rw [same, reports_conflict_iff, findDuplicatePath_ne_none_iff keys isKnown]
  have given {others : List (String × Tree)} (readable : family ≠ .unknown ∨ others = []) :
      (readPathEntries family (some others)).map checkPaths =
        .ok (checkPaths (pathEntries family others)) := by
    rw [readPathEntries_eq_ok_iff.mpr ⟨readable, rfl⟩]
    rfl
  refine ⟨?_, fun readable => ⟨_, given readable, reports distinct readable, ?_, ?_, ?_⟩⟩
  · rintro ⟨rfl, inhabited⟩
    cases paths with
    | nil => exact absurd rfl inhabited
    | cons first rest => rfl
  · rw [filter_checkPaths]
    cases findDuplicatePath (pathEntries family paths) <;> simp
  · intro finding member conflict
    obtain ⟨known, isKnown, same⟩ := exists_known readable
    have found : finding ∈ (checkPaths (pathEntries family paths)).filter
        (fun finding => finding.code == .duplicatePath) :=
      List.mem_filter.mpr ⟨member, beq_iff_eq.mpr conflict⟩
    rw [filter_checkPaths, Option.mem_toList, same] at found
    exact (findDuplicatePath_eq_some_iff distinct isKnown).mp found
  · intro others order
    have readableOthers := readable.imp_right fun empty => (empty ▸ order).eq_nil
    have keys := (order.map Prod.fst).nodup_iff.mpr distinct
    refine ⟨_, given readableOthers, ?_⟩
    rw [reports keys readableOthers, reports distinct readable]
    simp only [clash_congr order keys]

/-- Three paths of which each differs from the next by a slash. -/
def slashChain : List (String × Tree) :=
  ["/a//", "/a/", "/a"].map fun path => (path, .mapping [("get", .mapping [])])

example : (readPathEntries .openapi3 (some slashChain)).map checkPaths =
    .ok [duplicatePath "/a/" "/a//" [.get]] := by decide +kernel

/-- A conflict of the three paths is reported in whichever order they come. -/
theorem slashChain_reported : (slashChain.map Prod.fst).Nodup ∧
    ∀ others, others.Perm slashChain →
      ∃ findings, (readPathEntries .openapi3 (some others)).map checkPaths = .ok findings ∧
        ∃ finding ∈ findings, finding.code = .duplicatePath := by
  have distinct : (slashChain.map Prod.fst).Nodup := by decide +kernel
  have clash : Clash slashChain "/a" .get :=
    ⟨by decide +kernel, .mapping [("get", .mapping [])], .mapping [("get", .mapping [])],
      by decide +kernel, by decide +kernel, ⟨_, .mapping [], rfl, by decide +kernel, nofun⟩,
      ⟨_, .mapping [], rfl, by decide +kernel, nofun⟩⟩
  have known : Family.openapi3 ≠ .unknown := nofun
  obtain ⟨_, _, reported, _, _, inAnyOrder⟩ := (checks_report_clash distinct).2 (.inl known)
  refine ⟨distinct, fun others order => ?_⟩
  obtain ⟨findings, given, same⟩ := inAnyOrder others order
  exact ⟨findings, given, same.mpr (reported.mpr ⟨"/a", .get, by decide, clash⟩)⟩

end ApiAdmission
