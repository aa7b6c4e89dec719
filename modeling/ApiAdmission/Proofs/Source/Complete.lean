import ApiAdmission.Proofs.Source.Found

/-!
# Complete trips

Where no link leads to a directory, every directory is stored where its path says, so none is passed
over because it has been listed before.  So a trip misses nothing that is wanted, unless it ends
before that (`Visits.settles`): it finds everything that is wanted before the first entry that the
file system refuses (`Visits.mem_found_iff`).
-/

namespace ApiAdmission.Source

set_option autoImplicit false

/-- No link in a directory below leads to a directory. -/
def NoDirectoryLinks (files : FileSystem) (root : Path) : Prop :=
  ∀ above name real entries target, Listed files root above →
    files.lookup (root.extend above) = .ok (real, .directory entries) →
    Entry.lookup? name entries = some (.link target) →
    ∀ there below, files.lookup (root.extend (above ++ [name])) ≠ .ok (there, .directory below)

section Trips

variable {files : FileSystem} {patterns : List Ignore.Pattern} {root : Path}
  {below names rest real : List String} {name : String} {entries : List (String × Entry)}
  {before : List (List String)} {trip : Trip}

/-- There is none where a directory has no directories. -/
theorem NoDirectoryLinks.of_flat {top : List (String × Entry)}
    (start : files.lookup root = .ok (real, .directory top))
    (flat : ∀ name ∈ top.map Prod.fst, ∀ there below,
      files.lookup (root.extend [name]) ≠ .ok (there, .directory below)) :
    NoDirectoryLinks files root := by
  intro above name here entries target listed there stored realBelow below
  have first : ∀ {first : String} {rest : List String},
      Listed files root (first :: rest) → first ∈ top.map Prod.fst := by
    intro first rest listed
    obtain ⟨_, _, here, member⟩ := listed [] first rest rfl
    rw [Path.extend_nil] at here
    cases start.symm.trans here
    exact member
  rcases above with _ | ⟨one, _ | ⟨two, more⟩⟩
  · rw [Path.extend_nil] at there
    cases start.symm.trans there
    exact flat name (Entry.mem_of_lookup? stored) realBelow below
  · exact absurd there (flat one (first listed) here entries)
  · obtain ⟨_, _, inside, _⟩ := listed [one] two more rfl
    exact absurd inside (flat one (first listed) _ _)

/-! ## What lies ahead -/

/-- What can be due at names that begin with those of an entry: the entry, when it is a file or is
refused, or something below the directory that it is. -/
inductive Ahead (files : FileSystem) (patterns : List Ignore.Pattern) (root : Path)
    (entry : List String) : List String → Prop where
  | file {real : List String} {content : List UInt8}
      (there : files.lookup (root.extend entry) = .ok (real, .file content))
      (kept : Ignore.ignores patterns (Text.join "/" entry) = false) :
      Ahead files patterns root entry []
  | refused (refuses : files.lookup (root.extend entry) = .error .nameTooLong) :
      Ahead files patterns root entry []
  | inside {real rest : List String} {other : String} {entries : List (String × Entry)}
      (there : files.lookup (root.extend entry) = .ok (real, .directory entries))
      (kept : Ignore.ignores patterns (Text.join "/" entry ++ "/") = false)
      (member : other ∈ entries.map Prod.fst) :
      Ahead files patterns root entry (other :: rest)

/-- Something wanted or refused lies ahead of each entry on the way to it. -/
theorem ahead_of_due
    (due : Wanted files patterns root (below ++ name :: rest) ∨
      Refused files patterns root (below ++ name :: rest)) :
    isHidden name = false ∧ Ahead files patterns root (below ++ [name]) rest := by
  have met : Met files patterns root (below ++ name :: rest) :=
    due.elim Wanted.met Refused.met
  refine ⟨met.visible name (List.mem_append_right _ List.mem_cons_self), ?_⟩
  cases rest with
  | nil =>
    rcases due with wanted | refused
    · obtain ⟨real, content, there⟩ := wanted.isFile
      exact .file there wanted.kept
    · exact .refused refused.tooLong
  | cons other more =>
    have same : below ++ name :: other :: more = (below ++ [name]) ++ other :: more := by simp
    obtain ⟨real, entries, there, member⟩ := met.listed _ other more same
    exact .inside there (met.kept _ other more same (by simp)) member

/-- Nothing lies ahead of an entry that is passed over, unless it is a directory that was listed. -/
theorem Skipped.not_ahead (skipped : Skipped files patterns root before below name)
    (fresh : ∀ real entries,
      files.lookup (root.extend (below ++ [name])) = .ok (real, .directory entries) → real ∉ before)
    (visible : isHidden name = false) :
    ¬ Ahead files patterns root (below ++ [name]) rest := by
  intro ahead
  cases ahead with
  | file there kept => exact skipped.not_yields visible ⟨⟨_, _, there⟩, kept⟩
  | refused refuses => exact skipped.passable visible refuses
  | inside there kept => exact fresh _ _ there (skipped.mem_of_opens visible ⟨⟨_, there⟩, kept⟩)

/-! ## A walk without links to directories -/

section NoLinks

variable {realRoot : List String} {top : List (String × Entry)} (sound : files.Sound)
  (noLinks : NoDirectoryLinks files root)
  (start : files.lookup root = .ok (realRoot, .directory top))
include sound noLinks start

/-- Without links to directories, every directory below is stored where its names say. -/
theorem real_of_listed (listed : Listed files root names)
    (there : files.lookup (root.extend names) = .ok (real, .directory entries)) :
    real = realRoot ++ names := by
  induction names using List.reverseRecOn generalizing real entries with
  | nil =>
    rw [Path.extend_nil] at there
    cases start.symm.trans there
    exact (List.append_nil _).symm
  | append_singleton above name ih =>
    obtain ⟨realAbove, others, here, member⟩ := listed above name [] rfl
    obtain rfl := ih listed.of_append here
    obtain ⟨next, stored⟩ := Entry.exists_lookup? member
    have noLink : ∀ target, next ≠ .link target := by
      rintro target rfl
      exact noLinks above name _ _ target listed.of_append here stored _ _ there
    rw [← Path.child_extend] at there
    rw [sound.real_of_child here stored noLink there, List.append_assoc]

theorem under_of_listed (listed : Listed files root (below ++ [name]))
    (there : files.lookup (root.extend (below ++ [name])) = .ok (real, .directory entries)) :
    Under (realRoot ++ below) (name :: names) real := by
  rw [real_of_listed sound noLinks start listed there]
  exact ⟨name, List.mem_cons_self, [], (List.append_assoc _ _ _).symm⟩

/-- The directories that a trip lists are stored under the names that it visits. -/
theorem Visits.listed_under (visits : Visits files patterns root below names before trip)
    (listed : ∀ name ∈ names, Listed files root (below ++ [name])) :
    ∀ real ∈ trip.listed, Under (realRoot ++ below) names real := by
  induction visits with
  | done | refuse => exact fun _ member => (List.not_mem_nil member).elim
  | skip _ _ ih | file _ _ _ _ ih =>
    exact fun real member => (ih (List.forall_mem_cons.mp listed).2 real member).later
  | stop _ there _ _ _ _ ih =>
    have first := listed _ List.mem_cons_self
    have inside := ih fun _ member => first.child there (mem_inOrder.mp member)
    rw [← List.append_assoc] at inside
    exact List.forall_mem_cons.mpr ⟨under_of_listed sound noLinks start first there,
      fun real member => (inside real member).inside⟩
  | directory _ there _ _ _ _ _ ihInside ihOnward =>
    obtain ⟨first, others⟩ := List.forall_mem_cons.mp listed
    have inside := ihInside fun _ member => first.child there (mem_inOrder.mp member)
    rw [← List.append_assoc] at inside
    refine List.forall_mem_append.mpr ⟨List.forall_mem_cons.mpr ⟨?_, fun real member =>
      (inside real member).inside⟩, fun real member => (ihOnward others real member).later⟩
    exact under_of_listed sound noLinks start first there

/-- No directory inside one that is listed now is listed yet. -/
theorem fresh_inside (listed : Listed files root (below ++ [name]))
    (there : files.lookup (root.extend (below ++ [name])) = .ok (real, .directory entries))
    (fresh : ∀ path, Under (realRoot ++ below) (name :: rest) path → path ∉ before)
    (path : List String) (under : Under (realRoot ++ (below ++ [name])) names path) :
    path ∉ before ++ [real] := by
  rw [List.mem_append, not_or, List.mem_singleton, real_of_listed sound noLinks start listed there]
  constructor
  · rw [← List.append_assoc] at under
    exact fresh path under.inside
  · obtain ⟨other, _, more, rfl⟩ := under
    simp

/-- No directory after one that has been gone through is listed yet. -/
theorem fresh_onward (listed : Listed files root (below ++ [name]))
    (there : files.lookup (root.extend (below ++ [name])) = .ok (real, .directory entries))
    (inside : Visits files patterns root (below ++ [name]) (inOrder (entries.map Prod.fst))
      (before ++ [real]) trip)
    (fresh : ∀ path, Under (realRoot ++ below) (name :: rest) path → path ∉ before)
    (less : ∀ other ∈ rest, name < other) (path : List String)
    (under : Under (realRoot ++ below) rest path) : path ∉ before ++ real :: trip.listed := by
  have first : ∀ other ∈ real :: trip.listed,
      ∃ more, other = realRoot ++ below ++ name :: more := by
    rw [real_of_listed sound noLinks start listed there]
    refine List.forall_mem_cons.mpr ⟨⟨[], (List.append_assoc _ _ _).symm⟩, fun other member => ?_⟩
    obtain ⟨last, _, more, rfl⟩ := inside.listed_under sound noLinks start
      (fun _ member => listed.child there (mem_inOrder.mp member)) other member
    exact ⟨last :: more, by simp⟩
  rw [List.mem_append, not_or]
  refine ⟨fresh path under.later, fun member => ?_⟩
  obtain ⟨more, rfl⟩ := first path member
  exact List.lt_irrefl _ (under.lt less more)

/-- **Nothing is missed.**  What is wanted or refused under the names that a trip visits is found,
or the trip ends before it or at it. -/
theorem Visits.settles (visits : Visits files patterns root below names before trip)
    (listed : ∀ name ∈ names, Listed files root (below ++ [name]))
    (increasing : names.Pairwise (· < ·))
    (fresh : ∀ path, Under (realRoot ++ below) names path → path ∉ before) (path : List String)
    (under : Under below names path)
    (due : Wanted files patterns root path ∨ Refused files patterns root path) :
    path ∈ trip.found ∨ ∃ stop, trip.refused = some stop ∧ (stop = path ∨ stop < path) := by
  induction visits generalizing path with
  | done =>
    obtain ⟨_, member, _⟩ := under
    exact (List.not_mem_nil member).elim
  | @skip below rest name before trip skipped _ ih =>
    obtain ⟨first, others⟩ := List.forall_mem_cons.mp listed
    rcases under.first_or_later with ⟨more, rfl⟩ | later
    · obtain ⟨visible, ahead⟩ := ahead_of_due due
      exact absurd ahead (skipped.not_ahead (fun real _ there =>
        fresh real (under_of_listed sound noLinks start first there)) visible)
    · exact ih others (List.pairwise_cons.mp increasing).2
        (fun path under => fresh path under.later) path later due
  | @refuse below rest name before _ refuses =>
    refine .inr ⟨_, rfl, ?_⟩
    rcases under.first_or_later with ⟨more, rfl⟩ | later
    · cases (ahead_of_due due).2 with
      | refused => exact .inl rfl
      | file there | inside there => cases refuses.symm.trans there
    · exact .inr (later.lt (List.pairwise_cons.mp increasing).1 [])
  | @file below rest real name before content trip visible there kept _ ih =>
    obtain ⟨_, others⟩ := List.forall_mem_cons.mp listed
    rcases under.first_or_later with ⟨more, rfl⟩ | later
    · cases (ahead_of_due due).2 with
      | file => exact .inl List.mem_cons_self
      | refused found | inside found => cases there.symm.trans found
    · rcases ih others (List.pairwise_cons.mp increasing).2
        (fun path under => fresh path under.later) path later due with found | stops
      · exact .inl (List.mem_cons_of_mem _ found)
      · exact .inr stops
  | @stop below rest real refused name before entries trip _ there _ _ inside stops ih =>
    have first := listed name List.mem_cons_self
    rcases under.first_or_later with ⟨more, rfl⟩ | later
    · cases (ahead_of_due due).2 with
      | file found | refused found => cases there.symm.trans found
      | @inside _ more other _ found _ member =>
        cases there.symm.trans found
        exact ih (fun _ member => first.child there (mem_inOrder.mp member))
          (increasing_of_lookup sound there) (fresh_inside sound noLinks start first there fresh) _
          ⟨other, mem_inOrder.mpr member, more, by simp⟩ due
    · obtain ⟨other, _, more, rfl⟩ := inside.under.2 refused stops
      refine .inr ⟨_, stops, .inr ?_⟩
      rw [List.append_assoc]
      exact later.lt (List.pairwise_cons.mp increasing).1 (other :: more)
  | @directory below rest real name before entries inner outer _ there _ _ inside goesOn onward
      ihInside ihOnward =>
    obtain ⟨first, others⟩ := List.forall_mem_cons.mp listed
    obtain ⟨less, increasing⟩ := List.pairwise_cons.mp increasing
    rcases under.first_or_later with ⟨more, rfl⟩ | later
    · cases (ahead_of_due due).2 with
      | file found | refused found => cases there.symm.trans found
      | @inside _ more other _ found _ member =>
        cases there.symm.trans found
        rcases ihInside (fun _ member => first.child there (mem_inOrder.mp member))
          (increasing_of_lookup sound there) (fresh_inside sound noLinks start first there fresh) _
          ⟨other, mem_inOrder.mpr member, more, by simp⟩ due with found | ⟨stop, stops, _⟩
        · exact .inl (List.mem_append_left _ found)
        · cases goesOn.symm.trans stops
    · rcases ihOnward others increasing (fresh_onward sound noLinks start first there inside fresh
        less) path later due with found | stops
      · exact .inl (List.mem_append_right _ found)
      · exact .inr stops

end NoLinks

/-! ## Trips from the root of a walk -/

/-- What is to be had from a trip through a directory with a given real path. -/
structure Trip.Complete (files : FileSystem) (patterns : List Ignore.Pattern) (root : Path)
    (real : List String) (trip : Trip) : Prop where
  made : ∃ top, files.lookup root = .ok (real, .directory top) ∧
    Visits files patterns root [] (inOrder (top.map Prod.fst)) [real] trip
  /-- No directory is listed twice. -/
  directories : Directories files (real :: trip.listed)
  increasing : trip.found.Pairwise (· < ·)
  wanted : ∀ names ∈ trip.found, Wanted files patterns root names
  refused : ∀ names, trip.refused = some names → Refused files patterns root names
  /-- Where no link leads to a directory, everything is found that is wanted before anything is
  refused. -/
  found_iff : NoDirectoryLinks files root → ∀ names, names ∈ trip.found ↔
    Wanted files patterns root names ∧
      ∀ other, Refused files patterns root other → names < other
  /-- There the walk goes to the end unless something is refused. -/
  whole_iff : NoDirectoryLinks files root →
    (trip.refused = none ↔ ∀ names, ¬ Refused files patterns root names)

section Start

variable {top : List (String × Entry)}
  (start : files.lookup root = .ok (real, .directory top))
include start

theorem Met.child_root (member : name ∈ top.map Prod.fst) (visible : isHidden name = false) :
    Met files patterns root [name] :=
  Met.nil.child ((Path.extend_nil root).symm ▸ start) (absurd rfl) member visible

/-- What is wanted or refused is below an entry of the directory. -/
theorem under_of_due {path : List String}
    (due : Wanted files patterns root path ∨ Refused files patterns root path) :
    Under [] (inOrder (top.map Prod.fst)) path := by
  cases path with
  | nil =>
    rcases due with wanted | refused
    · obtain ⟨_, _, there⟩ := wanted.isFile
      rw [Path.extend_nil] at there
      cases start.symm.trans there
    · have there := refused.tooLong
      rw [Path.extend_nil] at there
      cases start.symm.trans there
  | cons name rest =>
    obtain ⟨_, _, there, member⟩ := (due.elim Wanted.met Refused.met).listed [] name rest rfl
    rw [Path.extend_nil] at there
    cases start.symm.trans there
    exact ⟨name, mem_inOrder.mpr member, rest, rfl⟩

variable (sound : files.Sound)
  (visits : Visits files patterns root [] (inOrder (top.map Prod.fst)) [real] trip)
include sound visits

theorem Visits.settles_root (noLinks : NoDirectoryLinks files root) {path : List String}
    (due : Wanted files patterns root path ∨ Refused files patterns root path) :
    path ∈ trip.found ∨ ∃ stop, trip.refused = some stop ∧ (stop = path ∨ stop < path) := by
  refine visits.settles sound noLinks start (fun name member => ?_)
    (increasing_of_lookup sound start) ?_ path (under_of_due start due) due
  · exact Listed.nil.child ((Path.extend_nil root).symm ▸ start) (mem_inOrder.mp member)
  · rintro _ ⟨name, _, more, rfl⟩
    simp

/-- Where no link leads to a directory, everything is found that is wanted before anything is
refused. -/
theorem Visits.mem_found_iff (noLinks : NoDirectoryLinks files root) (names : List String) :
    names ∈ trip.found ↔ Wanted files patterns root names ∧
      ∀ other, Refused files patterns root other → names < other := by
  obtain ⟨wanted, refused⟩ := visits.wanted fun name member visible =>
    Met.child_root start (mem_inOrder.mp member) visible
  obtain ⟨_, before⟩ := visits.increasing sound (increasing_of_lookup sound start)
  constructor
  · refine fun found => ⟨wanted names found, fun other refuses => ?_⟩
    rcases visits.settles_root start sound noLinks (.inr refuses) with again | ⟨stop, stops, order⟩
    · exact absurd refuses (wanted other again).not_refused
    · rcases order with rfl | less
      · exact before names found stop stops
      · exact List.lt_trans (before names found stop stops) less
  · rintro ⟨wants, first⟩
    rcases visits.settles_root start sound noLinks (.inl wants) with found | ⟨stop, stops, order⟩
    · exact found
    · have less := first stop (refused stop stops)
      rcases order with rfl | more
      · exact absurd less (List.lt_irrefl _)
      · exact absurd (List.lt_trans less more) (List.lt_irrefl _)

/-- There the walk goes to the end unless something is refused. -/
theorem Visits.refused_eq_none_iff (noLinks : NoDirectoryLinks files root) :
    trip.refused = none ↔ ∀ names, ¬ Refused files patterns root names := by
  obtain ⟨wanted, refused⟩ := visits.wanted fun name member visible =>
    Met.child_root start (mem_inOrder.mp member) visible
  constructor
  · intro goesOn names refuses
    rcases visits.settles_root start sound noLinks (.inr refuses) with found | ⟨stop, stops, _⟩
    · exact (wanted names found).not_refused refuses
    · cases goesOn.symm.trans stops
  · exact fun nothing => Option.eq_none_iff_forall_ne_some.mpr fun names stops =>
      nothing names (refused names stops)

/-- **A trip through a directory is complete.** -/
theorem Visits.complete : trip.Complete files patterns root real := by
  have stored := FileSystem.Sound.descend?_of_lookup start
  obtain ⟨wanted, refused⟩ := visits.wanted fun name member visible =>
    Met.child_root start (mem_inOrder.mp member) visible
  exact {
    made := ⟨top, start, visits⟩
    directories := visits.directories (.singleton stored)
    increasing := (visits.increasing sound (increasing_of_lookup sound start)).1
    wanted := wanted
    refused := refused
    found_iff := visits.mem_found_iff start sound
    whole_iff := visits.refused_eq_none_iff start sound }

end Start

end Trips

end ApiAdmission.Source
