import ApiAdmission.Paths.Check
import Mathlib.Logic.Basic

/-!
# Resource paths that violate nothing

The checks of resource paths speak about entries; `SoundPaths` says on the mapping itself what they
ask for: there is a resource path, every one is a mapping that declares a method and leaves none
empty, and no two that differ only by a slash at the end declare a common one of the methods by
which the gateway tells resources apart.  The checks find nothing exactly then
(`checkPaths_eq_nil_iff`), and whatever they find is an error of theirs (`of_mem_checkPaths`).
-/

namespace ApiAdmission

set_option autoImplicit false

/-! ## What a violation looks like -/

theorem of_mem_checkEntry {entry : PathEntry} {finding : Diagnostic}
    (member : finding ∈ checkEntry entry) :
    finding.severity = .error ∧ finding.source = .semanticCheck := by
  rcases List.mem_append.mp member with none | empty
  · split at none
    · cases List.mem_singleton.mp none
      exact ⟨rfl, rfl⟩
    · cases none
  · obtain ⟨method, _, rfl⟩ := List.mem_map.mp empty
    exact ⟨rfl, rfl⟩

theorem of_conflict {entries : List PathEntry} {entry : PathEntry} {finding : Diagnostic}
    (conflict : conflict? entries entry = some finding) :
    finding.severity = .error ∧ finding.source = .semanticCheck := by
  simp only [conflict?, Option.bind_eq_bind, Option.bind_eq_some_iff] at conflict
  obtain ⟨stripped, _, sibling, _, found⟩ := conflict
  split at found
  · cases found
  · cases found
    exact ⟨rfl, rfl⟩

/-- Every violation is an error that the checks of paths found. -/
theorem of_mem_checkPaths {entries : List PathEntry} {finding : Diagnostic}
    (member : finding ∈ checkPaths entries) :
    finding.severity = .error ∧ finding.source = .semanticCheck := by
  rcases List.mem_append.mp member with member | duplicate
  · rcases List.mem_append.mp member with empty | operations
    · unfold checkEmptyPaths at empty
      split at empty
      · cases List.mem_singleton.mp empty
        exact ⟨rfl, rfl⟩
      · cases empty
    · obtain ⟨entry, _, found⟩ := List.mem_flatMap.mp operations
      exact of_mem_checkEntry found
  · obtain ⟨entry, _, found⟩ := List.exists_of_findSome?_eq_some (Option.mem_toList.mp duplicate)
    exact of_conflict found

/-! ## Paths and their items -/

/-- An item is a mapping that holds a value under the key of a method. -/
def Declares (item : Tree) (method : Method) : Prop :=
  ∃ entries operation, item = .mapping entries ∧
    Tree.lookup? method.name entries = some operation ∧ operation ≠ .null

/-- An item is a mapping that holds nothing under the key of a method. -/
def LeavesEmpty (item : Tree) (method : Method) : Prop :=
  ∃ entries, item = .mapping entries ∧ Tree.lookup? method.name entries = some .null

/-- A `paths` mapping whose resource paths violate nothing. -/
structure SoundPaths (family : Family) (paths : List (String × Tree)) : Prop where
  /-- There is a resource path. -/
  inhabited : ∃ entry ∈ paths, isExtension entry.1 = false
  /-- Every resource path declares a method of the family. -/
  declares : ∀ path item, (path, item) ∈ paths → isExtension path = false →
    ∃ method ∈ family.methods, Declares item method
  /-- No resource path leaves a method of the family empty. -/
  noneEmpty : ∀ path item, (path, item) ∈ paths → isExtension path = false →
    ∀ method ∈ family.methods, ¬ LeavesEmpty item method
  /-- No two resource paths that differ by a slash at the end declare a common method. -/
  distinct : ∀ path item other, Tree.lookup? path paths = some item →
    (path ++ "/", other) ∈ paths → isExtension path = false →
    ∀ method ∈ Method.dispatched, ¬ (Declares item method ∧ Declares other method)

theorem mem_operations_iff {methods : List Method} {path : String} {item : Tree}
    {method : Method} :
    method ∈ (PathEntry.ofItem methods path item).operations ↔
      method ∈ methods ∧ Declares item method := by
  simp only [PathEntry.ofItem, List.mem_filter, Declares]
  refine and_congr_right fun _ => ?_
  cases item <;> simp [Tree.get?, Option.any_eq_true]

theorem mem_emptyOperations_iff {methods : List Method} {path : String} {item : Tree}
    {method : Method} :
    method ∈ (PathEntry.ofItem methods path item).emptyOperations ↔
      method ∈ methods ∧ LeavesEmpty item method := by
  simp only [PathEntry.ofItem, List.mem_filter, LeavesEmpty]
  refine and_congr_right fun _ => ?_
  cases item <;> simp [Tree.get?]

theorem pathEntries_cons {family : Family} {path : String} {item : Tree}
    {paths : List (String × Tree)} :
    pathEntries family ((path, item) :: paths) =
      if isExtension path then pathEntries family paths
      else PathEntry.ofItem family.methods path item :: pathEntries family paths := by
  cases extension : isExtension path <;> simp [pathEntries, extension]

theorem mem_pathEntries_iff {family : Family} {paths : List (String × Tree)} {entry : PathEntry} :
    entry ∈ pathEntries family paths ↔
      ∃ path item, (path, item) ∈ paths ∧ isExtension path = false ∧
        PathEntry.ofItem family.methods path item = entry := by
  simp only [pathEntries, List.mem_map, List.mem_filter, Prod.exists, Bool.not_eq_true']
  constructor
  · rintro ⟨path, item, ⟨member, resource⟩, rfl⟩
    exact ⟨path, item, member, resource, rfl⟩
  · rintro ⟨path, item, member, resource, rfl⟩
    exact ⟨path, item, ⟨member, resource⟩, rfl⟩

/-- The entry of a resource path is found by its path. -/
theorem find_pathEntries {family : Family} {paths : List (String × Tree)} {path : String}
    (resource : isExtension path = false) :
    (pathEntries family paths).find? (fun entry => entry.path == path) =
      (Tree.lookup? path paths).map (PathEntry.ofItem family.methods path) := by
  induction paths with
  | nil => rfl
  | cons first rest ih =>
    obtain ⟨name, item⟩ := first
    rw [pathEntries_cons, Tree.lookup?]
    by_cases same : name = path
    · subst same
      simp [resource, PathEntry.ofItem]
    · cases isExtension name <;> simp [same, PathEntry.ofItem, ih]

/-! ## A slash at the end -/

theorem withoutSlash?_eq_some_iff {path stripped : String} :
    withoutSlash? path = some stripped ↔ path = stripped ++ "/" := by
  constructor
  · intro cut
    unfold withoutSlash? at cut
    split at cut
    case h_1 rest reversed =>
      cases cut
      apply String.toList_injective
      rw [← List.reverse_reverse path.toList, reversed]
      simp
    case h_2 => cases cut
  · rintro rfl
    simp [withoutSlash?]

/-- A slash at the end makes no extension of a path and no path of an extension. -/
theorem isExtension_append_slash (path : String) :
    isExtension (path ++ "/") = isExtension path := by
  simp only [isExtension, Text.startsWith, String.toList_append]
  rcases path.toList with _ | ⟨first, _ | ⟨second, rest⟩⟩
  · rfl
  · simp [List.isPrefixOf]
  · simp [List.isPrefixOf]

theorem conflict?_eq_none_iff {entries : List PathEntry} {entry : PathEntry} :
    conflict? entries entry = none ↔
      ∀ stripped sibling, entry.path = stripped ++ "/" →
        entries.find? (fun other => other.path == stripped) = some sibling →
        commonMethods entry sibling = [] := by
  simp only [conflict?, Option.bind_eq_bind, Option.bind_eq_none_iff, withoutSlash?_eq_some_iff,
    ite_eq_left_iff, reduceCtorEq, imp_false, not_not, List.isEmpty_iff]
  exact ⟨fun free stripped sibling ends found => free stripped ends sibling found,
    fun free stripped ends sibling found => free stripped sibling ends found⟩

/-- The dispatched methods belong to both families. -/
theorem mem_methods_of_dispatched {family : Family} (known : family ≠ .unknown) {method : Method}
    (dispatched : method ∈ Method.dispatched) : method ∈ family.methods := by
  cases family with
  | unknown => exact absurd rfl known
  | swagger2 | openapi3 =>
    revert method
    decide

theorem commonMethods_eq_nil_iff {family : Family} (known : family ≠ .unknown)
    {path sibling : String} {item other : Tree} :
    commonMethods (.ofItem family.methods path item) (.ofItem family.methods sibling other) = [] ↔
      ∀ method ∈ Method.dispatched, ¬ (Declares item method ∧ Declares other method) := by
  simp only [commonMethods, List.filter_eq_nil_iff, Bool.and_eq_true, PathEntry.declares,
    List.contains_eq_mem, decide_eq_true_eq, mem_operations_iff]
  refine forall₂_congr fun method dispatched => not_congr ?_
  simp [mem_methods_of_dispatched known dispatched]

/-! ## Nothing is found -/

theorem checkEntry_eq_nil_iff {methods : List Method} {path : String} {item : Tree} :
    checkEntry (.ofItem methods path item) = [] ↔
      (∃ method ∈ methods, Declares item method) ∧ ∀ method ∈ methods, ¬ LeavesEmpty item method := by
  have declared : (PathEntry.ofItem methods path item).operations ≠ [] ↔
      ∃ method ∈ methods, Declares item method := by
    rw [Ne, List.eq_nil_iff_forall_not_mem, not_forall]
    simp only [not_not, mem_operations_iff]
  have filled : (PathEntry.ofItem methods path item).emptyOperations = [] ↔
      ∀ method ∈ methods, ¬ LeavesEmpty item method := by
    rw [List.eq_nil_iff_forall_not_mem]
    simp only [mem_emptyOperations_iff, not_and]
  rw [← declared, ← filled, checkEntry, List.append_eq_nil_iff, List.map_eq_nil_iff]
  simp [List.isEmpty_iff]

section CheckPaths

variable {family : Family} {paths : List (String × Tree)}

theorem checkEmptyPaths_eq_nil_iff :
    checkEmptyPaths (pathEntries family paths) = [] ↔
      ∃ entry ∈ paths, isExtension entry.1 = false := by
  have found : (pathEntries family paths).isEmpty = false ↔
      ∃ entry ∈ paths, isExtension entry.1 = false := by
    rw [List.isEmpty_eq_false_iff_exists_mem]
    simp only [mem_pathEntries_iff]
    constructor
    · rintro ⟨_, path, item, member, resource, rfl⟩
      exact ⟨(path, item), member, resource⟩
    · rintro ⟨⟨path, item⟩, member, resource⟩
      exact ⟨_, path, item, member, resource, rfl⟩
  rw [← found, checkEmptyPaths]
  cases (pathEntries family paths).isEmpty <;> simp

theorem checkOperations_eq_nil_iff :
    checkOperations (pathEntries family paths) = [] ↔
      ∀ path item, (path, item) ∈ paths → isExtension path = false →
        (∃ method ∈ family.methods, Declares item method) ∧
          ∀ method ∈ family.methods, ¬ LeavesEmpty item method := by
  simp only [checkOperations, List.flatMap_eq_nil_iff, mem_pathEntries_iff]
  constructor
  · intro free path item member resource
    exact checkEntry_eq_nil_iff.mp (free _ ⟨path, item, member, resource, rfl⟩)
  · rintro free _ ⟨path, item, member, resource, rfl⟩
    exact checkEntry_eq_nil_iff.mpr (free path item member resource)

/-- A conflict is found from the path with the slash; stated from the path without it. -/
theorem findDuplicatePath_eq_none_iff (known : family ≠ .unknown) :
    findDuplicatePath (pathEntries family paths) = none ↔
      ∀ path item other, Tree.lookup? path paths = some item → (path ++ "/", other) ∈ paths →
        isExtension path = false →
        ∀ method ∈ Method.dispatched, ¬ (Declares item method ∧ Declares other method) := by
  simp only [findDuplicatePath, List.findSome?_eq_none_iff, conflict?_eq_none_iff,
    mem_pathEntries_iff]
  constructor
  · intro free path item other found member resource
    have slashed := (isExtension_append_slash path).trans resource
    have common := free _ ⟨path ++ "/", other, member, slashed, rfl⟩ path
      (.ofItem family.methods path item) rfl (by rw [find_pathEntries resource, found]; rfl)
    intro method dispatched both
    exact (commonMethods_eq_nil_iff known).mp common method dispatched both.symm
  · rintro free _ ⟨path, other, member, resource, rfl⟩ stripped sibling ends found
    change path = stripped ++ "/" at ends
    subst ends
    have bare := (isExtension_append_slash stripped).symm.trans resource
    rw [find_pathEntries bare] at found
    obtain ⟨item, here, rfl⟩ := Option.map_eq_some_iff.mp found
    refine (commonMethods_eq_nil_iff known).mpr fun method dispatched both => ?_
    exact free stripped item other here member bare method dispatched both.symm

/-- **The checks find nothing exactly when the paths violate nothing.** -/
theorem checkPaths_eq_nil_iff (known : family ≠ .unknown) :
    checkPaths (pathEntries family paths) = [] ↔ SoundPaths family paths := by
  rw [checkPaths, List.append_eq_nil_iff, List.append_eq_nil_iff, checkEmptyPaths_eq_nil_iff,
    checkOperations_eq_nil_iff, Option.toList_eq_nil_iff, findDuplicatePath_eq_none_iff known]
  constructor
  · rintro ⟨⟨inhabited, methods⟩, distinct⟩
    exact ⟨inhabited, fun path item member resource => (methods path item member resource).1,
      fun path item member resource => (methods path item member resource).2, distinct⟩
  · intro sound
    exact ⟨⟨sound.inhabited, fun path item member resource =>
      ⟨sound.declares path item member resource, sound.noneEmpty path item member resource⟩⟩,
      sound.distinct⟩

end CheckPaths

end ApiAdmission
