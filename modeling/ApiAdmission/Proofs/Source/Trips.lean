import ApiAdmission.Proofs.World.Following
import ApiAdmission.Source.Walk

/-!
# Walks as trips

A trip is what a walk comes to: the files that it finds, the directories that it lists, and the
entry at which it is refused, if there is one.  `Visits` has one rule for each way that the visit of
an entry can go.  In a sound file system there is a trip through the entries of every directory
(`exists_visits`), since the directories that are listed are different (`Visits.directories`).
-/

namespace ApiAdmission

set_option autoImplicit false

/-! ## Paths below a directory -/

namespace Path

/-- The path that names lead to from a directory. -/
def extend (directory : Path) (names : List String) : Path :=
  { directory with names := directory.names ++ names }

theorem extend_nil (directory : Path) : directory.extend [] = directory := by
  rw [extend, List.append_nil]

theorem child_extend (directory : Path) (names : List String) (name : String) :
    (directory.extend names).child name = directory.extend (names ++ [name]) := by
  rw [extend, child, extend, List.append_assoc]

end Path

namespace Source

/-! ## Trips -/

/-- What a walk comes to.  Files and the entry that is refused are given by their names below the
directory that is walked, and directories by the names that they are really stored under. -/
structure Trip where
  /-- The files found, in order. -/
  found : List (List String)
  /-- The directories listed, in order. -/
  listed : List (List String)
  /-- The entry that is refused. -/
  refused : Option (List String)

/-- How a trip below a directory ends the walk. -/
def Trip.outcome (root : Path) (trip : Trip) : Except Breakdown Unit :=
  match trip.refused with
  | none => .ok ()
  | some names => .error (.refused ⟨.nameTooLong, (root.extend names).text⟩)

/-- Why an entry is passed over, when some directories have been listed. -/
inductive Skipped (files : FileSystem) (patterns : List Ignore.Pattern) (root : Path)
    (before : List (List String)) (below : List String) (name : String) : Prop where
  | hidden (hides : isHidden name = true)
  | nothing {cause : RefusalCause}
      (absent : files.lookup (root.extend (below ++ [name])) = .error cause)
      (other : cause ≠ .nameTooLong)
  | excludedDirectory {real : List String} {entries : List (String × Entry)}
      (there : files.lookup (root.extend (below ++ [name])) = .ok (real, .directory entries))
      (excludes : Ignore.ignores patterns (Text.join "/" (below ++ [name]) ++ "/") = true)
  | listedBefore {real : List String} {entries : List (String × Entry)}
      (there : files.lookup (root.extend (below ++ [name])) = .ok (real, .directory entries))
      (again : real ∈ before)
  | excludedFile {real : List String} {content : List UInt8}
      (there : files.lookup (root.extend (below ++ [name])) = .ok (real, .file content))
      (excludes : Ignore.ignores patterns (Text.join "/" (below ++ [name])) = true)

/-- The trip through the entries with given names of a directory, when some directories have been
listed. -/
inductive Visits (files : FileSystem) (patterns : List Ignore.Pattern) (root : Path) :
    List String → List String → List (List String) → Trip → Prop where
  /-- No entry is left. -/
  | done {below : List String} {before : List (List String)} :
      Visits files patterns root below [] before ⟨[], [], none⟩
  /-- An entry is passed over. -/
  | skip {below rest : List String} {name : String} {before : List (List String)} {trip : Trip}
      (skipped : Skipped files patterns root before below name)
      (onward : Visits files patterns root below rest before trip) :
      Visits files patterns root below (name :: rest) before trip
  /-- The file system refuses an entry. -/
  | refuse {below rest : List String} {name : String} {before : List (List String)}
      (visible : isHidden name = false)
      (refuses : files.lookup (root.extend (below ++ [name])) = .error .nameTooLong) :
      Visits files patterns root below (name :: rest) before ⟨[], [], some (below ++ [name])⟩
  /-- A file is found. -/
  | file {below rest real : List String} {name : String} {before : List (List String)}
      {content : List UInt8} {trip : Trip} (visible : isHidden name = false)
      (there : files.lookup (root.extend (below ++ [name])) = .ok (real, .file content))
      (kept : Ignore.ignores patterns (Text.join "/" (below ++ [name])) = false)
      (onward : Visits files patterns root below rest before trip) :
      Visits files patterns root below (name :: rest) before
        { trip with found := (below ++ [name]) :: trip.found }
  /-- The walk ends in a directory. -/
  | stop {below rest real refused : List String} {name : String} {before : List (List String)}
      {entries : List (String × Entry)} {trip : Trip} (visible : isHidden name = false)
      (there : files.lookup (root.extend (below ++ [name])) = .ok (real, .directory entries))
      (kept : Ignore.ignores patterns (Text.join "/" (below ++ [name]) ++ "/") = false)
      (new : real ∉ before)
      (inside : Visits files patterns root (below ++ [name]) (inOrder (entries.map Prod.fst))
        (before ++ [real]) trip)
      (stops : trip.refused = some refused) :
      Visits files patterns root below (name :: rest) before
        { trip with listed := real :: trip.listed }
  /-- The walk goes through a directory and on. -/
  | directory {below rest real : List String} {name : String} {before : List (List String)}
      {entries : List (String × Entry)} {inner outer : Trip} (visible : isHidden name = false)
      (there : files.lookup (root.extend (below ++ [name])) = .ok (real, .directory entries))
      (kept : Ignore.ignores patterns (Text.join "/" (below ++ [name]) ++ "/") = false)
      (new : real ∉ before)
      (inside : Visits files patterns root (below ++ [name]) (inOrder (entries.map Prod.fst))
        (before ++ [real]) inner)
      (goesOn : inner.refused = none)
      (onward : Visits files patterns root below rest (before ++ real :: inner.listed) outer) :
      Visits files patterns root below (name :: rest) before
        ⟨inner.found ++ outer.found, real :: inner.listed ++ outer.listed, outer.refused⟩

section Visits

variable {files : FileSystem} {patterns : List Ignore.Pattern} {root : Path}
  {below names : List String} {before : List (List String)} {trip : Trip}

/-- Different directories. -/
structure Directories (files : FileSystem) (listed : List (List String)) : Prop where
  nodup : listed.Nodup
  stored : ∀ real ∈ listed, ∃ entries, files.root.descend? real = some (.directory entries)

theorem Directories.concat (directories : Directories files before) {real : List String}
    {entries : List (String × Entry)} (new : real ∉ before)
    (there : files.root.descend? real = some (.directory entries)) :
    Directories files (before ++ [real]) where
  nodup := by
    rw [← List.concat_eq_append]
    exact directories.nodup.concat new
  stored other member := by
    rcases List.mem_append.mp member with known | last
    · exact directories.stored other known
    · cases List.mem_singleton.mp last
      exact ⟨entries, there⟩

theorem Directories.singleton {real : List String} {entries : List (String × Entry)}
    (there : files.root.descend? real = some (.directory entries)) : Directories files [real] where
  nodup := List.nodup_singleton real
  stored := List.forall_mem_singleton.mpr ⟨entries, there⟩

/-- They are no more than there are entries. -/
theorem Directories.length_le (directories : Directories files before) :
    before.length ≤ files.root.count :=
  Entry.length_le_count directories.nodup fun real member =>
    let ⟨entries, found⟩ := directories.stored real member
    ⟨.directory entries, found⟩

/-- Where one more directory is listed, it can be entered. -/
theorem Directories.enter (directories : Directories files before) {real : List String}
    {entries : List (String × Entry)} (new : real ∉ before)
    (there : files.root.descend? real = some (.directory entries)) {depth : Nat}
    (deep : files.root.count < depth + before.length) :
    ∃ less, depth = less + 1 ∧ files.root.count < less + (before ++ [real]).length := by
  have fits := (directories.concat new there).length_le
  rw [List.length_append, List.length_singleton] at fits ⊢
  exact ⟨depth - 1, by omega, by omega⟩

/-- **No directory is listed twice**: those of a trip are different from each other and from the
ones before it. -/
theorem Visits.directories (visits : Visits files patterns root below names before trip)
    (directories : Directories files before) : Directories files (before ++ trip.listed) := by
  induction visits with
  | done | refuse => rwa [List.append_nil]
  | skip _ _ ih | file _ _ _ _ ih => exact ih directories
  | @stop _ _ real _ _ before _ trip _ there _ new _ _ ih =>
    have inner := ih (directories.concat new (FileSystem.Sound.descend?_of_lookup there))
    rwa [List.append_assoc] at inner
  | @directory _ _ real _ before _ inner outer _ there _ new _ _ _ ihInside ihOnward =>
    have through := ihInside (directories.concat new (FileSystem.Sound.descend?_of_lookup there))
    rw [List.append_assoc] at through
    have whole := ihOnward through
    rwa [List.append_assoc] at whole

theorem mem_inOrder {name : String} {names : List String} : name ∈ inOrder names ↔ name ∈ names :=
  (List.mergeSort_perm _ _).mem_iff

/-- There is a trip through entries when there is one through those of every directory that is
listed later. -/
theorem exists_visits_of_deeper (sound : files.Sound) (directories : Directories files before)
    (deeper : ∀ (below names : List String) (after : List (List String)),
      Directories files after → before.length < after.length →
      ∃ trip, Visits files patterns root below names after trip) :
    ∃ trip, Visits files patterns root below names before trip := by
  induction names generalizing before with
  | nil => exact ⟨_, .done⟩
  | cons name rest ih =>
    have skip : Skipped files patterns root before below name →
        ∃ trip, Visits files patterns root below (name :: rest) before trip := by
      intro skipped
      obtain ⟨trip, onward⟩ := ih directories deeper
      exact ⟨trip, .skip skipped onward⟩
    cases visible : isHidden name with
    | true => exact skip (.hidden visible)
    | false =>
      rcases finds : files.lookup (root.extend (below ++ [name])) with
        cause | ⟨real, content | entries | target⟩
      · by_cases tooLong : cause = .nameTooLong
        · exact ⟨_, .refuse visible (tooLong ▸ finds)⟩
        · exact skip (.nothing finds tooLong)
      · cases kept : Ignore.ignores patterns (Text.join "/" (below ++ [name])) with
        | true => exact skip (.excludedFile finds kept)
        | false =>
          obtain ⟨trip, onward⟩ := ih directories deeper
          exact ⟨_, .file visible finds kept onward⟩
      · cases kept : Ignore.ignores patterns (Text.join "/" (below ++ [name]) ++ "/") with
        | true => exact skip (.excludedDirectory finds kept)
        | false =>
          by_cases again : real ∈ before
          · exact skip (.listedBefore finds again)
          · have more := directories.concat again (FileSystem.Sound.descend?_of_lookup finds)
            obtain ⟨inner, inside⟩ := deeper (below ++ [name]) (inOrder (entries.map Prod.fst))
              (before ++ [real]) more (by simp)
            cases stops : inner.refused with
            | some refused => exact ⟨_, .stop visible finds kept again inside stops⟩
            | none =>
              have after := inside.directories more
              rw [List.append_assoc] at after
              obtain ⟨outer, onward⟩ := ih after fun below names later directories longer =>
                deeper below names later directories (by simp at longer; omega)
              exact ⟨_, .directory visible finds kept again inside stops onward⟩
      · exact absurd rfl (sound.noLink_of_lookup finds target)

/-- **There is a trip** through the entries of a directory, since no directory is listed twice. -/
theorem exists_visits (sound : files.Sound) (below names : List String)
    (before : List (List String)) (directories : Directories files before) :
    ∃ trip, Visits files patterns root below names before trip :=
  exists_visits_of_deeper sound directories fun deeper names after listed _ =>
    exists_visits sound deeper names after listed
termination_by files.root.count - before.length
decreasing_by
  have fits := listed.length_le
  omega

end Visits

end Source

end ApiAdmission
