import ApiAdmission.Proofs.Source.Trips

/-!
# What a trip finds

An entry that a trip passes over yields no file, and leads to no directory but one that has been
listed.  What a trip finds is wanted (`Visits.wanted`): it is a file, or a link to one, that is in
sight and not excluded.  The paths found are increasing when they are compared name by name, and all of them
come before the entry where the trip ends (`Visits.increasing`).
-/

namespace ApiAdmission.Source

set_option autoImplicit false

/-! ## Entries that a walk may meet -/

section Entries

variable (files : FileSystem) (patterns : List Ignore.Pattern) (root : Path)

/-- Each of some names is one in the directory that the names before it lead to. -/
def Listed (names : List String) : Prop :=
  ∀ above name rest, names = above ++ name :: rest →
    ∃ real entries, files.lookup (root.extend above) = .ok (real, .directory entries) ∧
      name ∈ entries.map Prod.fst

/-- Names that lead to a directory and that no pattern describes. -/
structure Opens (names real : List String) : Prop where
  there : ∃ entries, files.lookup (root.extend names) = .ok (real, .directory entries)
  kept : Ignore.ignores patterns (Text.join "/" names ++ "/") = false

/-- Names that lead to a file and that no pattern describes. -/
structure Yields (names : List String) : Prop where
  isFile : ∃ real content, files.lookup (root.extend names) = .ok (real, .file content)
  kept : Ignore.ignores patterns (Text.join "/" names) = false

/-- An entry below a directory that no rule keeps out of sight: no name on the way is hidden, and no
directory on the way is excluded. -/
structure Met (names : List String) : Prop where
  listed : Listed files root names
  visible : ∀ name ∈ names, isHidden name = false
  kept : ∀ above name rest, names = above ++ name :: rest → above ≠ [] →
    Ignore.ignores patterns (Text.join "/" above ++ "/") = false

/-- A file, or a link to one, that is in sight and not excluded itself. -/
structure Wanted (names : List String) : Prop where
  met : Met files patterns root names
  kept : Ignore.ignores patterns (Text.join "/" names) = false
  isFile : ∃ real content, files.lookup (root.extend names) = .ok (real, .file content)

/-- An entry in sight that the file system refuses, since it leads to a name or a path that is too
long. -/
structure Refused (names : List String) : Prop where
  met : Met files patterns root names
  tooLong : files.lookup (root.extend names) = .error .nameTooLong

end Entries

section Walks

variable {files : FileSystem} {patterns : List Ignore.Pattern} {root : Path}
  {above below names rest real : List String} {name : String} {entries : List (String × Entry)}
  {before : List (List String)} {trip : Trip}

/-- A name in a list of names is the last one, or stands before it. -/
theorem of_concat_eq {other : String} (same : names ++ [name] = above ++ other :: rest) :
    (names = above ∧ name = other) ∨ ∃ more, names = above ++ other :: more := by
  rcases List.eq_nil_or_concat rest with rfl | ⟨more, last, rfl⟩
  · obtain ⟨first, second⟩ := List.append_inj' same rfl
    exact .inl ⟨first, List.singleton_inj.mp second⟩
  · rw [List.concat_eq_append, ← List.cons_append, ← List.append_assoc] at same
    exact .inr ⟨more, (List.append_inj' same rfl).1⟩

theorem Listed.of_append (listed : Listed files root (names ++ rest)) :
    Listed files root names :=
  fun above name more same => listed above name (more ++ rest) (by simp [same])

theorem Listed.child (listed : Listed files root names)
    (there : files.lookup (root.extend names) = .ok (real, .directory entries))
    (member : name ∈ entries.map Prod.fst) : Listed files root (names ++ [name]) := by
  intro above other rest same
  rcases of_concat_eq same with ⟨rfl, rfl⟩ | ⟨more, rfl⟩
  · exact ⟨real, entries, there, member⟩
  · exact listed above other more rfl

theorem Listed.nil : Listed files root [] :=
  fun above name rest same => by simp at same

theorem Met.nil : Met files patterns root [] where
  listed := .nil
  visible _ member := (List.not_mem_nil member).elim
  kept above name rest same := by simp at same

/-- The visible entries of a directory in sight are in sight, unless the directory is excluded. -/
theorem Met.child (met : Met files patterns root names)
    (there : files.lookup (root.extend names) = .ok (real, .directory entries))
    (kept : names ≠ [] → Ignore.ignores patterns (Text.join "/" names ++ "/") = false)
    (member : name ∈ entries.map Prod.fst) (visible : isHidden name = false) :
    Met files patterns root (names ++ [name]) where
  listed := met.listed.child there member
  visible := List.forall_mem_append.mpr ⟨met.visible, List.forall_mem_singleton.mpr visible⟩
  kept above other rest same some_name := by
    rcases of_concat_eq same with ⟨rfl, _⟩ | ⟨more, rfl⟩
    · exact kept some_name
    · exact met.kept above other more rfl some_name

theorem Wanted.not_refused (wanted : Wanted files patterns root names) :
    ¬ Refused files patterns root names := by
  rintro ⟨_, refuses⟩
  obtain ⟨_, _, there⟩ := wanted.isFile
  cases refuses.symm.trans there

/-! ## Entries that are passed over -/

section Skips

variable (skipped : Skipped files patterns root before below name)
  (visible : isHidden name = false)
include skipped visible

/-- An entry that is passed over is not refused. -/
theorem Skipped.passable :
    files.lookup (root.extend (below ++ [name])) ≠ .error .nameTooLong := by
  intro refuses
  rcases skipped with hides | ⟨finds, other⟩ | ⟨finds, _⟩ | ⟨finds, _⟩ | ⟨finds, _⟩
  · cases visible.symm.trans hides
  · cases finds.symm.trans refuses
    exact other rfl
  all_goals cases finds.symm.trans refuses

/-- If it is a directory that is not excluded, then that has been listed. -/
theorem Skipped.mem_of_opens (opens : Opens files patterns root (below ++ [name]) real) :
    real ∈ before := by
  obtain ⟨⟨_, there⟩, kept⟩ := opens
  rcases skipped with hides | ⟨finds, _⟩ | ⟨_, excludes⟩ | ⟨finds, again⟩ | ⟨finds, _⟩
  · cases visible.symm.trans hides
  · cases finds.symm.trans there
  · cases kept.symm.trans excludes
  · cases finds.symm.trans there
    exact again
  · cases finds.symm.trans there

/-- It yields no file. -/
theorem Skipped.not_yields : ¬ Yields files patterns root (below ++ [name]) := by
  rintro ⟨⟨_, _, there⟩, kept⟩
  rcases skipped with hides | ⟨finds, _⟩ | ⟨finds, _⟩ | ⟨finds, _⟩ | ⟨_, excludes⟩
  · cases visible.symm.trans hides
  · cases finds.symm.trans there
  · cases finds.symm.trans there
  · cases finds.symm.trans there
  · cases kept.symm.trans excludes

end Skips

/-! ## What a trip finds is wanted, and in order -/

/-- Names that go on from given names with one of some others. -/
def Under (below names path : List String) : Prop :=
  ∃ name ∈ names, ∃ rest, path = below ++ name :: rest

theorem Under.later {path : List String} (under : Under below names path) :
    Under below (name :: names) path := by
  obtain ⟨other, member, rest, rfl⟩ := under
  exact ⟨other, List.mem_cons_of_mem _ member, rest, rfl⟩

theorem Under.inside {path more : List String} (under : Under (below ++ [name]) more path) :
    Under below (name :: names) path := by
  obtain ⟨other, member, rest, rfl⟩ := under
  exact ⟨name, List.mem_cons_self, other :: rest, by simp⟩

theorem Under.first_or_later {path : List String} (under : Under below (name :: names) path) :
    (∃ rest, path = below ++ name :: rest) ∨ Under below names path := by
  obtain ⟨other, member, rest, rfl⟩ := under
  rcases List.mem_cons.mp member with rfl | later
  · exact .inl ⟨rest, rfl⟩
  · exact .inr ⟨other, later, rest, rfl⟩

/-- What a trip finds, and where it is refused, is under the names that it visits. -/
theorem Visits.under (visits : Visits files patterns root below names before trip) :
    (∀ path ∈ trip.found, Under below names path) ∧
      ∀ path, trip.refused = some path → Under below names path := by
  induction visits with
  | done => exact ⟨fun _ member => (List.not_mem_nil member).elim, nofun⟩
  | skip _ _ ih => exact ⟨fun path member => (ih.1 path member).later,
      fun path stops => (ih.2 path stops).later⟩
  | refuse =>
    refine ⟨fun _ member => (List.not_mem_nil member).elim, ?_⟩
    rintro _ ⟨⟩
    exact ⟨_, List.mem_cons_self, [], rfl⟩
  | file _ _ _ _ ih =>
    refine ⟨List.forall_mem_cons.mpr ⟨⟨_, List.mem_cons_self, [], rfl⟩, fun path member =>
      (ih.1 path member).later⟩, fun path stops => (ih.2 path stops).later⟩
  | stop _ _ _ _ _ _ ih =>
    exact ⟨fun path member => (ih.1 path member).inside, fun path stops => (ih.2 path stops).inside⟩
  | directory _ _ _ _ _ _ _ ihInside ihOnward =>
    exact ⟨List.forall_mem_append.mpr ⟨fun path member => (ihInside.1 path member).inside,
      fun path member => (ihOnward.1 path member).later⟩,
      fun path stops => (ihOnward.2 path stops).later⟩

/-- **What a trip finds is wanted**, and an entry where it stops is refused. -/
theorem Visits.wanted (visits : Visits files patterns root below names before trip)
    (met : ∀ name ∈ names, isHidden name = false → Met files patterns root (below ++ [name])) :
    (∀ path ∈ trip.found, Wanted files patterns root path) ∧
      ∀ path, trip.refused = some path → Refused files patterns root path := by
  have entered : ∀ {below : List String} {name : String} {real : List String}
      {entries : List (String × Entry)}, Met files patterns root (below ++ [name]) →
      files.lookup (root.extend (below ++ [name])) = .ok (real, .directory entries) →
      Ignore.ignores patterns (Text.join "/" (below ++ [name]) ++ "/") = false →
      ∀ other ∈ inOrder (entries.map Prod.fst), isHidden other = false →
        Met files patterns root (below ++ [name] ++ [other]) :=
    fun met there kept _ member => met.child there (fun _ => kept) (mem_inOrder.mp member)
  induction visits with
  | done => exact ⟨fun _ member => (List.not_mem_nil member).elim, nofun⟩
  | skip _ _ ih => exact ih (List.forall_mem_cons.mp met).2
  | refuse visible refuses =>
    refine ⟨fun _ member => (List.not_mem_nil member).elim, ?_⟩
    rintro _ ⟨⟩
    exact ⟨met _ List.mem_cons_self visible, refuses⟩
  | file visible there kept _ ih =>
    obtain ⟨first, others⟩ := List.forall_mem_cons.mp met
    obtain ⟨found, stops⟩ := ih others
    exact ⟨List.forall_mem_cons.mpr ⟨⟨first visible, kept, _, _, there⟩, found⟩, stops⟩
  | stop visible there kept _ _ _ ih =>
    exact ih (entered (met _ List.mem_cons_self visible) there kept)
  | directory visible there kept _ _ _ _ ihInside ihOnward =>
    obtain ⟨first, others⟩ := List.forall_mem_cons.mp met
    obtain ⟨found, _⟩ := ihInside (entered (first visible) there kept)
    obtain ⟨foundAfter, stops⟩ := ihOnward others
    exact ⟨List.forall_mem_append.mpr ⟨found, foundAfter⟩, stops⟩

theorem lt_of_branch {other : String} (less : name < other) (below first second : List String) :
    below ++ name :: first < below ++ other :: second :=
  List.append_left_lt (List.Lex.rel less)

/-- What goes on with later names comes later. -/
theorem Under.lt {path : List String} (under : Under below names path)
    (less : ∀ other ∈ names, name < other) (rest : List String) : below ++ name :: rest < path := by
  obtain ⟨other, member, more, rfl⟩ := under
  exact lt_of_branch (less other member) below rest more

/-- The names of a directory in their order are increasing. -/
theorem pairwise_inOrder {names : List String} (nodup : names.Nodup) :
    (inOrder names).Pairwise (· < ·) := by
  have sorted : (inOrder names).Pairwise (fun a b => decide (a ≤ b) = true) :=
    List.pairwise_mergeSort
      (fun a b c first second => by
        simp only [decide_eq_true_eq] at *
        exact String.le_trans first second)
      (fun a b => by
        simp only [Bool.or_eq_true, decide_eq_true_eq]
        exact String.le_total a b) names
  have different : (inOrder names).Nodup := (List.mergeSort_perm _ _).nodup_iff.mpr nodup
  refine (sorted.and different).imp ?_
  rintro a b ⟨less, apart⟩
  refine String.not_le.mp fun more => apart (String.le_antisymm ?_ more)
  simpa using less

theorem increasing_of_lookup (sound : files.Sound) {path : Path}
    (there : files.lookup path = .ok (real, .directory entries)) :
    (inOrder (entries.map Prod.fst)).Pairwise (· < ·) :=
  pairwise_inOrder (sound.nodup (FileSystem.Sound.descend?_of_lookup there))

/-- **What a trip finds is increasing**, and all of it comes before the entry where it stops. -/
theorem Visits.increasing (sound : files.Sound)
    (visits : Visits files patterns root below names before trip)
    (increasing : names.Pairwise (· < ·)) :
    trip.found.Pairwise (· < ·) ∧
      ∀ path ∈ trip.found, ∀ stop, trip.refused = some stop → path < stop := by
  induction visits with
  | done => exact ⟨List.Pairwise.nil, fun _ member => (List.not_mem_nil member).elim⟩
  | skip _ _ ih => exact ih (List.pairwise_cons.mp increasing).2
  | refuse => exact ⟨List.Pairwise.nil, fun _ member => (List.not_mem_nil member).elim⟩
  | file _ _ _ onward ih =>
    obtain ⟨less, others⟩ := List.pairwise_cons.mp increasing
    obtain ⟨found, stops⟩ := ih others
    exact ⟨List.pairwise_cons.mpr
        ⟨fun path member => (onward.under.1 path member).lt less [], found⟩,
      List.forall_mem_cons.mpr ⟨fun stop same => (onward.under.2 stop same).lt less [], stops⟩⟩
  | stop _ there _ _ _ _ ih => exact ih (increasing_of_lookup sound there)
  | @directory below rest real name before entries inner outer _ there _ _ inside _ onward ihInside
      ihOnward =>
    obtain ⟨less, others⟩ := List.pairwise_cons.mp increasing
    obtain ⟨found, _⟩ := ihInside (increasing_of_lookup sound there)
    obtain ⟨foundAfter, stops⟩ := ihOnward others
    have first : ∀ path ∈ inner.found, ∃ more, path = below ++ name :: more := by
      intro path member
      obtain ⟨other, _, more, rfl⟩ := inside.under.1 path member
      exact ⟨other :: more, by simp⟩
    refine ⟨List.pairwise_append.mpr ⟨found, foundAfter, fun path here later there => ?_⟩,
      List.forall_mem_append.mpr ⟨fun path here stop same => ?_, stops⟩⟩
    · obtain ⟨more, rfl⟩ := first path here
      exact (onward.under.1 later there).lt less more
    · obtain ⟨more, rfl⟩ := first path here
      exact (onward.under.2 stop same).lt less more

end Walks

end ApiAdmission.Source
