import ApiAdmission.Proofs.Source.Found

/-!
# The directories that a trip enters

A directory may come up under many names, since links lead to it and to the directories around it.
A trip enters it once, and then shows its entries by the names that it was entered under.  When no
entry is refused, these are the first of the names by which the directory is offered, and what is
found is what the directories that are entered yield (`Visits.tours`).
-/

namespace ApiAdmission.Source

set_option autoImplicit false

/-! ## Entries of the directories entered -/

/-- Directories that are entered: for each, the names that it is entered under and those that it is
stored under. -/
abbrev Entered := List (List String × List String)

section Entries

variable (files : FileSystem) (patterns : List Ignore.Pattern) (root : Path)

/-- A visible entry of a directory that is entered, by the names of that directory and its own. -/
inductive Shown (entered : Entered) : List String → Prop where
  | intro {above real : List String} {name : String} {entries : List (String × Entry)}
      (enters : (above, real) ∈ entered)
      (there : files.lookup (root.extend above) = .ok (real, .directory entries))
      (member : name ∈ entries.map Prod.fst) (visible : isHidden name = false) :
      Shown entered (above ++ [name])

/-- A visible entry with one of some names in a directory, or in a directory that is entered. -/
def Offered (below names : List String) (entered : Entered) (path : List String) : Prop :=
  (∃ name ∈ names, isHidden name = false ∧ path = below ++ [name]) ∨ Shown files root entered path

end Entries

section Tours

variable {files : FileSystem} {patterns : List Ignore.Pattern} {root : Path}
  {below names rest real path : List String} {name : String} {entries : List (String × Entry)}
  {known entered inner outer : Entered} {before found : List (List String)} {trip : Trip}

theorem shown_append :
    Shown files root (inner ++ outer) path ↔
      Shown files root inner path ∨ Shown files root outer path := by
  constructor
  · rintro ⟨enters, there, member, visible⟩
    rcases List.mem_append.mp enters with first | second
    · exact .inl ⟨first, there, member, visible⟩
    · exact .inr ⟨second, there, member, visible⟩
  · rintro (⟨enters, there, member, visible⟩ | ⟨enters, there, member, visible⟩)
    · exact ⟨List.mem_append_left _ enters, there, member, visible⟩
    · exact ⟨List.mem_append_right _ enters, there, member, visible⟩

/-- A directory that is entered shows its entries in their order. -/
theorem shown_cons (there : files.lookup (root.extend below) = .ok (real, .directory entries)) :
    Shown files root ((below, real) :: entered) path ↔
      Offered files root below (inOrder (entries.map Prod.fst)) entered path := by
  constructor
  · rintro ⟨enters, again, member, visible⟩
    rcases List.mem_cons.mp enters with same | later
    · cases same
      cases there.symm.trans again
      exact .inl ⟨_, mem_inOrder.mpr member, visible, rfl⟩
    · exact .inr ⟨later, again, member, visible⟩
  · rintro (⟨name, member, visible, rfl⟩ | ⟨enters, again, member, visible⟩)
    · exact ⟨List.mem_cons_self, there, mem_inOrder.mp member, visible⟩
    · exact ⟨List.mem_cons_of_mem _ enters, again, member, visible⟩

theorem not_offered_nil : ¬ Offered files root below [] [] path := by
  rintro (⟨_, member, _⟩ | ⟨enters, _⟩)
  · exact List.not_mem_nil member
  · exact List.not_mem_nil enters

theorem offered_cons :
    Offered files root below (name :: rest) entered path ↔
      (isHidden name = false ∧ path = below ++ [name]) ∨
        Offered files root below rest entered path := by
  simp only [Offered, List.mem_cons, exists_eq_or_imp, or_assoc]

/-- Where a directory is entered, its entries are offered, and then the names after it. -/
theorem offered_directory (visible : isHidden name = false)
    (there : files.lookup (root.extend (below ++ [name])) = .ok (real, .directory entries)) :
    Offered files root below (name :: rest) ((below ++ [name], real) :: (inner ++ outer)) path ↔
      path = below ++ [name] ∨
        Offered files root (below ++ [name]) (inOrder (entries.map Prod.fst)) inner path ∨
        Offered files root below rest outer path := by
  rw [offered_cons, ← shown_cons there]
  simp only [visible, true_and]
  have apart : Offered files root below rest ((below ++ [name], real) :: (inner ++ outer)) path ↔
      Shown files root ((below ++ [name], real) :: inner) path ∨
        Offered files root below rest outer path := by
    rw [Offered, ← List.cons_append, shown_append, Offered]
    exact or_left_comm
  rw [apart]

/-! ## Tours -/

/-- A trip through the entries with given names of a directory, with the directories that it enters,
when some are known to be entered before. -/
structure Tours (files : FileSystem) (patterns : List Ignore.Pattern) (root : Path)
    (below names : List String) (known : Entered) (found listed : List (List String))
    (entered : Entered) : Prop where
  reals : entered.map Prod.snd = listed
  under : ∀ pair ∈ entered, Under below names pair.1
  opens : ∀ pair ∈ entered, Offered files root below names entered pair.1 ∧
    Opens files patterns root pair.1 pair.2
  /-- Nothing is refused. -/
  passable : ∀ path, Offered files root below names entered path →
    files.lookup (root.extend path) ≠ .error .nameTooLong
  /-- A directory is entered by the first of the names that offer it. -/
  first : ∀ path real, Offered files root below names entered path →
    Opens files patterns root path real →
    ∃ pair ∈ known ++ entered, pair.2 = real ∧ (pair.1 = path ∨ pair.1 < path)
  found_iff : ∀ path, path ∈ found ↔
    Offered files root below names entered path ∧ Yields files patterns root path

theorem Tours.nil : Tours files patterns root below [] known [] [] [] where
  reals := rfl
  under _ member := (List.not_mem_nil member).elim
  opens _ member := (List.not_mem_nil member).elim
  passable _ offered := absurd offered not_offered_nil
  first _ _ offered := absurd offered not_offered_nil
  found_iff _ := iff_of_false List.not_mem_nil fun yields => not_offered_nil yields.1

/-- An entry comes first that is no directory or one that is known. -/
theorem Tours.cons {listed more : List (List String)}
    (onward : Tours files patterns root below rest known found listed entered)
    (passes : isHidden name = false →
      files.lookup (root.extend (below ++ [name])) ≠ .error .nameTooLong)
    (closed : isHidden name = false → ∀ real, Opens files patterns root (below ++ [name]) real →
      ∃ pair ∈ known, pair.2 = real ∧ pair.1 < below ++ [name])
    (finds : ∀ path, path ∈ more ↔ (isHidden name = false ∧ path = below ++ [name]) ∧
      Yields files patterns root path ∨ path ∈ found) :
    Tours files patterns root below (name :: rest) known more listed entered where
  reals := onward.reals
  under pair member := (onward.under pair member).later
  opens pair member := ⟨offered_cons.mpr (.inr (onward.opens pair member).1),
    (onward.opens pair member).2⟩
  passable path offered := by
    rcases offered_cons.mp offered with ⟨visible, rfl⟩ | later
    · exact passes visible
    · exact onward.passable path later
  first path real offered opens := by
    rcases offered_cons.mp offered with ⟨visible, rfl⟩ | later
    · obtain ⟨pair, member, same, less⟩ := closed visible real opens
      exact ⟨pair, List.mem_append_left _ member, same, .inr less⟩
    · exact onward.first path real later opens
  found_iff path := by
    rw [finds, onward.found_iff, offered_cons, or_and_right]

/-- A directory comes first that is entered. -/
theorem Tours.directory {foundInside foundAfter listedInside listedAfter : List (List String)}
    (visible : isHidden name = false)
    (there : files.lookup (root.extend (below ++ [name])) = .ok (real, .directory entries))
    (kept : Ignore.ignores patterns (Text.join "/" (below ++ [name]) ++ "/") = false)
    (inside : Tours files patterns root (below ++ [name]) (inOrder (entries.map Prod.fst))
      (known ++ [(below ++ [name], real)]) foundInside listedInside inner)
    (onward : Tours files patterns root below rest (known ++ (below ++ [name], real) :: inner)
      foundAfter listedAfter outer) :
    Tours files patterns root below (name :: rest) known (foundInside ++ foundAfter)
      (real :: listedInside ++ listedAfter) ((below ++ [name], real) :: (inner ++ outer)) where
  reals := by
    rw [List.map_cons, List.map_append, inside.reals, onward.reals]
    rfl
  under := List.forall_mem_cons.mpr ⟨⟨name, List.mem_cons_self, [], rfl⟩,
    List.forall_mem_append.mpr ⟨fun pair member => (inside.under pair member).inside,
      fun pair member => (onward.under pair member).later⟩⟩
  opens := by
    refine List.forall_mem_cons.mpr ⟨⟨(offered_directory visible there).mpr (.inl rfl),
      ⟨_, there⟩, kept⟩, List.forall_mem_append.mpr ⟨fun pair member => ?_, fun pair member => ?_⟩⟩
    · obtain ⟨offered, opens⟩ := inside.opens pair member
      exact ⟨(offered_directory visible there).mpr (.inr (.inl offered)), opens⟩
    · obtain ⟨offered, opens⟩ := onward.opens pair member
      exact ⟨(offered_directory visible there).mpr (.inr (.inr offered)), opens⟩
  passable path offered := by
    rcases (offered_directory visible there).mp offered with rfl | within | later
    · rw [there]
      exact nofun
    · exact inside.passable path within
    · exact onward.passable path later
  first path other offered opens := by
    rcases (offered_directory visible there).mp offered with rfl | within | later
    · obtain ⟨_, again⟩ := opens.there
      cases there.symm.trans again
      exact ⟨_, List.mem_append_right _ List.mem_cons_self, rfl, .inl rfl⟩
    · obtain ⟨pair, member, order⟩ := inside.first path other within opens
      refine ⟨pair, ?_, order⟩
      simp only [List.mem_append, List.mem_cons, List.not_mem_nil, or_false] at member ⊢
      tauto
    · obtain ⟨pair, member, order⟩ := onward.first path other later opens
      refine ⟨pair, ?_, order⟩
      simp only [List.mem_append, List.mem_cons] at member ⊢
      tauto
  found_iff path := by
    have noFile : path = below ++ [name] → ¬ Yields files patterns root path := by
      rintro rfl ⟨⟨_, _, again⟩, _⟩
      cases there.symm.trans again
    rw [List.mem_append, inside.found_iff, onward.found_iff, offered_directory visible there]
    tauto

/-- Names come before those that go on from them. -/
theorem lt_of_under_child (under : Under (below ++ [name]) names path) :
    below ++ [name] < path := by
  obtain ⟨other, _, more, rfl⟩ := under
  have further : below ++ [name] ++ [] < below ++ [name] ++ other :: more :=
    List.append_left_lt List.Lex.nil
  rwa [List.append_nil] at further

/-- **A trip that is not refused makes a tour**: every directory is entered by the first of the
names that offer it, and what is found is what the directories entered yield. -/
theorem Visits.tours (sound : files.Sound)
    (visits : Visits files patterns root below names before trip) (goesOn : trip.refused = none)
    (increasing : names.Pairwise (· < ·)) (same : known.map Prod.snd = before)
    (earlier : ∀ pair ∈ known, ∀ path, Under below names path → pair.1 < path) :
    ∃ entered, Tours files patterns root below names known trip.found trip.listed entered := by
  -- A directory that was listed before is known by names that come before everything visited now.
  induction visits generalizing known with
  | done => exact ⟨[], .nil⟩
  | @skip below rest name before trip skipped _ ih =>
    obtain ⟨entered, onward⟩ := ih goesOn (List.pairwise_cons.mp increasing).2 same
      fun pair member path under => earlier pair member path under.later
    refine ⟨entered, onward.cons skipped.passable (fun visible real opens => ?_) fun path => ?_⟩
    · have listed := skipped.mem_of_opens visible opens
      rw [← same] at listed
      obtain ⟨pair, member, rfl⟩ := List.mem_map.mp listed
      exact ⟨pair, member, rfl, earlier pair member _ ⟨name, List.mem_cons_self, [], rfl⟩⟩
    · refine (or_iff_right ?_).symm
      rintro ⟨⟨visible, rfl⟩, yields⟩
      exact skipped.not_yields visible yields
  | refuse => cases goesOn
  | @file below rest real name before content trip visible there kept _ ih =>
    obtain ⟨entered, onward⟩ := ih goesOn (List.pairwise_cons.mp increasing).2 same
      fun pair member path under => earlier pair member path under.later
    refine ⟨entered, onward.cons (fun _ => ?_) (fun _ real opens => ?_) fun path => ?_⟩
    · rw [there]
      exact nofun
    · obtain ⟨_, again⟩ := opens.there
      cases there.symm.trans again
    · rw [List.mem_cons]
      refine or_congr_left ⟨?_, fun ⟨⟨_, same⟩, _⟩ => same⟩
      rintro rfl
      exact ⟨⟨visible, rfl⟩, ⟨_, _, there⟩, kept⟩
  | stop _ _ _ _ _ stops => cases goesOn.symm.trans stops
  | @directory below rest real name before entries inner outer visible there kept _ _ noStop _
      ihInside ihOnward =>
    obtain ⟨less, increasingRest⟩ := List.pairwise_cons.mp increasing
    obtain ⟨within, inside⟩ : ∃ within, Tours files patterns root (below ++ [name])
        (inOrder (entries.map Prod.fst)) (known ++ [(below ++ [name], real)]) inner.found
        inner.listed within := by
      refine ihInside noStop (increasing_of_lookup sound there) (by simp [same]) ?_
      intro pair member path under
      rcases List.mem_append.mp member with before | here
      · exact earlier pair before path under.inside
      · cases List.mem_singleton.mp here
        exact lt_of_under_child under
    obtain ⟨after, onward⟩ : ∃ after, Tours files patterns root below rest
        (known ++ (below ++ [name], real) :: within) outer.found outer.listed after := by
      refine ihOnward goesOn increasingRest (by simp [same, inside.reals]) ?_
      intro pair member path under
      rcases List.mem_append.mp member with before | later
      · exact earlier pair before path under.later
      · rcases List.mem_cons.mp later with rfl | deeper
        · exact under.lt less []
        · obtain ⟨other, _, more, names⟩ := inside.under pair deeper
          rw [names, List.append_assoc]
          exact under.lt less (other :: more)
    exact ⟨_, inside.directory visible there kept onward⟩

end Tours

end ApiAdmission.Source
