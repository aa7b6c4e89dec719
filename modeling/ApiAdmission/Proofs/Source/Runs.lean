import ApiAdmission.Proofs.Outcome
import ApiAdmission.Proofs.Source.Trips

/-!
# The walk makes the trip

The walk of the program through the entries of a directory ends as their trip does
(`walkEntries_of_visits`): it finds the files of the trip, enters the directories that the trip
lists, and breaks down at the entry where the trip is refused.  It never uses up the depth that it
is given, since with every directory that is entered one is listed that was not before.

What is asked about an entry only depends on what a look-up of its path finds, as long as the path
has no null character, and names of entries have none.
-/

namespace ApiAdmission

set_option autoImplicit false

/-! ## Null characters in paths -/

namespace Path

theorem mem_join_iff {c : Char} (notSlash : c ≠ '/') (names : List String) :
    c ∈ (Text.join "/" names).toList ↔ ∃ name ∈ names, c ∈ name.toList := by
  match names with
  | [] => simp [Text.join]
  | [name] => simp [Text.join]
  | first :: second :: rest =>
    have others := mem_join_iff notSlash (second :: rest)
    rw [Text.join] at others ⊢
    rw [String.intercalate_cons_cons, String.toList_append, String.toList_append,
      List.mem_append, List.mem_append, others]
    simp [notSlash]

/-- A path has no null character when its anchor and its names have none. -/
theorem noNull_text_iff (path : Path) :
    '\x00' ∉ path.text.toList ↔
      '\x00' ∉ path.anchor.toList ∧ ∀ name ∈ path.names, '\x00' ∉ name.toList := by
  have shown : '\x00' ∈ (path.anchor ++ Text.join "/" path.names).toList ↔
      '\x00' ∈ path.anchor.toList ∨ ∃ name ∈ path.names, '\x00' ∈ name.toList := by
    rw [String.toList_append, List.mem_append, mem_join_iff (by decide)]
  have same : '\x00' ∈ path.text.toList ↔
      '\x00' ∈ (path.anchor ++ Text.join "/" path.names).toList := by
    unfold text
    dsimp only
    split
    case isTrue empty =>
      rw [eq_of_beq empty]
      decide
    case isFalse => exact Iff.rfl
  rw [same, shown]
  simp only [not_or, not_exists, not_and]

theorem noNull_child {path : Path} {name : String} (plain : '\x00' ∉ path.text.toList)
    (proper : '\x00' ∉ name.toList) : '\x00' ∉ (path.child name).text.toList := by
  rw [noNull_text_iff] at plain ⊢
  exact ⟨plain.1,
    List.forall_mem_append.mpr ⟨plain.2, List.forall_mem_singleton.mpr proper⟩⟩

end Path

/-! ## What a path is -/

namespace FileSystem

variable {files : FileSystem} {path : Path} {names : List String} {entry : Entry}

section Satisfies

variable (plain : '\x00' ∉ path.text.toList)
include plain

theorem entryAt_of_lookup (finds : files.lookup path = .ok (names, entry)) :
    files.entryAt path = .ok entry := by
  rw [entryAt, if_neg (by simpa using plain), finds]

theorem satisfies_of_lookup (condition : Entry → Bool)
    (finds : files.lookup path = .ok (names, entry)) :
    files.satisfies condition path = .ok (condition entry) := by
  rw [satisfies, entryAt_of_lookup plain finds]

theorem satisfies_of_refused (condition : Entry → Bool)
    (refused : files.lookup path = .error .nameTooLong) :
    files.satisfies condition path = .error (.refused ⟨.nameTooLong, path.text⟩) := by
  rw [satisfies, entryAt, if_neg (by simpa using plain), refused]

theorem satisfies_of_absent (condition : Entry → Bool) {cause : RefusalCause}
    (absent : files.lookup path = .error cause) (other : cause ≠ .nameTooLong) :
    files.satisfies condition path = .ok false := by
  rw [satisfies, entryAt, if_neg (by simpa using plain), absent]
  cases cause with
  | nameTooLong => exact absurd rfl other
  | _ => rfl

theorem entryNames_of_lookup {entries : List (String × Entry)}
    (finds : files.lookup path = .ok (names, .directory entries)) :
    files.entryNames path = .ok (entries.map Prod.fst) := by
  rw [entryNames, entryAt_of_lookup plain finds]
  rfl

end Satisfies

/-- The names in a directory can be names of entries. -/
theorem Sound.isEntryName_of_mem (sound : files.Sound) {entries : List (String × Entry)}
    {name : String} (found : files.root.descend? names = some (.directory entries))
    (member : name ∈ entries.map Prod.fst) : IsEntryName name := by
  obtain ⟨next, stored⟩ := Entry.exists_lookup? member
  have below := (Entry.descend?_concat found).trans stored
  exact sound.isEntryName below name (List.mem_append_right _ List.mem_cons_self)

end FileSystem

namespace Source

/-! ## The walk makes the trip -/

section Runs

variable {files : FileSystem} {patterns : List Ignore.Pattern} {root directory : Path}
  {below names rest : List String} {name : String} {enter : Path → List String → Walk Unit}
  {trail : Trail}

theorem walkEntries_hidden (hides : isHidden name = true) :
    walkEntries files patterns enter directory below (name :: rest) =
      walkEntries files patterns enter directory below rest := by
  simp [walkEntries, hides]

section Visible

variable (visible : isHidden name = false)
include visible

theorem walkEntries_refused {breakdown : Breakdown}
    (refuses : files.isDirectory (directory.child name) = .error breakdown) :
    (walkEntries files patterns enter directory below (name :: rest)).run.run trail =
      (.error breakdown, trail) := by
  simp only [walkEntries, visible, refuses, orStop, Bool.not_false, if_true]
  rfl

section NoDirectory

variable (noDirectory : files.isDirectory (directory.child name) = .ok false)
include noDirectory

theorem walkEntries_nothing (noFile : files.isFile (directory.child name) = .ok false) :
    walkEntries files patterns enter directory below (name :: rest) =
      walkEntries files patterns enter directory below rest := by
  simp [walkEntries, visible, noDirectory, noFile, orStop]

theorem walkEntries_excludedFile (isFile : files.isFile (directory.child name) = .ok true)
    (excludes : Ignore.ignores patterns (Text.join "/" (below ++ [name])) = true) :
    walkEntries files patterns enter directory below (name :: rest) =
      walkEntries files patterns enter directory below rest := by
  simp [walkEntries, visible, noDirectory, isFile, excludes, orStop]

theorem walkEntries_file (isFile : files.isFile (directory.child name) = .ok true)
    (kept : Ignore.ignores patterns (Text.join "/" (below ++ [name])) = false) :
    (walkEntries files patterns enter directory below (name :: rest)).run.run trail =
      (walkEntries files patterns enter directory below rest).run.run
        { trail with sources := trail.sources ++ [file (directory.child name)] } := by
  simp only [walkEntries, visible, noDirectory, isFile, kept, orStop, Bool.not_false, if_true]
  rfl

end NoDirectory

variable (isDirectory : files.isDirectory (directory.child name) = .ok true)
include isDirectory

theorem walkEntries_excludedDirectory
    (excludes : Ignore.ignores patterns (Text.join "/" (below ++ [name]) ++ "/") = true) :
    walkEntries files patterns enter directory below (name :: rest) =
      walkEntries files patterns enter directory below rest := by
  simp [walkEntries, visible, isDirectory, excludes, orStop]

section Kept

variable {real : Path}
  (kept : Ignore.ignores patterns (Text.join "/" (below ++ [name]) ++ "/") = false)
  (leads : files.realPath (directory.child name) = .ok real)
include kept leads

theorem walkEntries_entered (again : real ∈ trail.entered) :
    (walkEntries files patterns enter directory below (name :: rest)).run.run trail =
      (walkEntries files patterns enter directory below rest).run.run trail := by
  have entered : trail.entered.contains real = true := by simpa using again
  simp only [walkEntries, visible, isDirectory, kept, leads, orStop, Bool.not_false, if_true,
    pure_bind]
  rw [run_bind]
  show (if (!trail.entered.contains real) = true then _ else _ : Walk Unit).run.run trail = _
  rw [entered]
  rfl

theorem walkEntries_directory (new : real ∉ trail.entered) :
    (walkEntries files patterns enter directory below (name :: rest)).run.run trail =
      (enter (directory.child name) (below ++ [name]) >>= fun _ =>
        walkEntries files patterns enter directory below rest).run.run
          { trail with entered := real :: trail.entered } := by
  have entered : trail.entered.contains real = false := by simpa using new
  simp only [walkEntries, visible, isDirectory, kept, leads, orStop, Bool.not_false, if_true,
    pure_bind]
  rw [run_bind]
  show (if (!trail.entered.contains real) = true then _ else _ : Walk Unit).run.run trail = _
  rw [entered, Bool.not_false, if_pos rfl, run_bind]
  rfl

end Kept

end Visible

theorem walkWithin_succ {depth : Nat} {entries : List String}
    (lists : files.entryNames directory = .ok entries) :
    (walkWithin files patterns (depth + 1) directory below).run.run trail =
      (walkEntries files patterns (walkWithin files patterns depth) directory below
        (inOrder entries)).run.run trail := by
  simp only [walkWithin, lists, orStop, pure_bind]

/-- The trail of a walk that has found some files and listed some directories. -/
def trailOf (sources : List Source) (listed : List (List String)) : Trail :=
  ⟨sources, (listed.map (Path.mk "/")).reverse⟩

theorem mem_entered {sources : List Source} {listed : List (List String)} {real : List String} :
    (⟨"/", real⟩ : Path) ∈ (trailOf sources listed).entered ↔ real ∈ listed := by
  simp [trailOf]

theorem trailOf_concat (sources : List Source) (listed : List (List String))
    (real : List String) :
    { trailOf sources listed with entered := ⟨"/", real⟩ :: (trailOf sources listed).entered } =
      trailOf sources (listed ++ [real]) := by
  simp [trailOf]

section Entry

variable {before : List (List String)} {sources : List Source}
  (plain : '\x00' ∉ (root.extend (below ++ [name])).text.toList)
include plain

/-- An entry that is passed over changes nothing. -/
theorem walkEntries_of_skipped (sound : files.Sound)
    (skipped : Skipped files patterns root before below name) :
    (walkEntries files patterns enter (root.extend below) below (name :: rest)).run.run
        (trailOf sources before) =
      (walkEntries files patterns enter (root.extend below) below rest).run.run
        (trailOf sources before) := by
  cases visible : isHidden name with
  | true => rw [walkEntries_hidden visible]
  | false =>
    rw [← Path.child_extend] at plain
    rcases skipped with hides | ⟨finds, other⟩ | ⟨finds, excludes⟩ | ⟨finds, again⟩ |
      ⟨finds, excludes⟩
    · cases visible.symm.trans hides
    all_goals rw [← Path.child_extend] at finds
    · have absent := fun condition => FileSystem.satisfies_of_absent plain condition finds other
      rw [walkEntries_nothing visible (absent _) (absent _)]
    · have there := FileSystem.satisfies_of_lookup plain Entry.isDirectory finds
      rw [walkEntries_excludedDirectory visible there excludes]
    · have there := FileSystem.satisfies_of_lookup plain Entry.isDirectory finds
      have leads := sound.realPath_of_lookup plain finds
      cases kept : Ignore.ignores patterns (Text.join "/" (below ++ [name]) ++ "/") with
      | true => rw [walkEntries_excludedDirectory visible there kept]
      | false => exact walkEntries_entered visible there kept leads (mem_entered.mpr again)
    · have there := FileSystem.satisfies_of_lookup plain Entry.isDirectory finds
      have isFile := FileSystem.satisfies_of_lookup plain Entry.isFile finds
      rw [walkEntries_excludedFile visible there isFile excludes]

variable (visible : isHidden name = false)
include visible

/-- A file is found. -/
theorem walkEntries_of_file {real : List String} {content : List UInt8}
    (finds : files.lookup (root.extend (below ++ [name])) = .ok (real, .file content))
    (kept : Ignore.ignores patterns (Text.join "/" (below ++ [name])) = false) :
    (walkEntries files patterns enter (root.extend below) below (name :: rest)).run.run
        (trailOf sources before) =
      (walkEntries files patterns enter (root.extend below) below rest).run.run
        (trailOf (sources ++ [file (root.extend (below ++ [name]))]) before) := by
  rw [← Path.child_extend] at plain finds ⊢
  have noDirectory := FileSystem.satisfies_of_lookup plain Entry.isDirectory finds
  have isFile := FileSystem.satisfies_of_lookup plain Entry.isFile finds
  exact walkEntries_file visible noDirectory isFile kept

/-- A directory that is not listed yet is listed, and then the walk goes on. -/
theorem walkEntries_of_directory (sound : files.Sound) {depth : Nat} {real : List String}
    {entries : List (String × Entry)}
    (finds : files.lookup (root.extend (below ++ [name])) = .ok (real, .directory entries))
    (kept : Ignore.ignores patterns (Text.join "/" (below ++ [name]) ++ "/") = false)
    (new : real ∉ before) :
    (walkEntries files patterns (walkWithin files patterns (depth + 1)) (root.extend below) below
        (name :: rest)).run.run (trailOf sources before) =
      (walkEntries files patterns (walkWithin files patterns depth)
          (root.extend (below ++ [name])) (below ++ [name]) (inOrder (entries.map Prod.fst)) >>=
        fun _ => walkEntries files patterns (walkWithin files patterns (depth + 1))
          (root.extend below) below rest).run.run (trailOf sources (before ++ [real])) := by
  rw [← Path.child_extend] at plain finds ⊢
  have isDirectory := FileSystem.satisfies_of_lookup plain Entry.isDirectory finds
  have leads := sound.realPath_of_lookup plain finds
  have lists := FileSystem.entryNames_of_lookup plain finds
  rw [walkEntries_directory visible isDirectory kept leads (mem_entered.not.mpr new),
    trailOf_concat, run_bind, walkWithin_succ lists, run_bind]

end Entry

/-- The paths of the entries of a directory have no null character when its own has none. -/
theorem noNull_entries (sound : files.Sound) {real : List String}
    {entries : List (String × Entry)} (plain : '\x00' ∉ (root.extend below).text.toList)
    (stored : files.root.descend? real = some (.directory entries)) :
    ∀ name ∈ inOrder (entries.map Prod.fst),
      '\x00' ∉ (root.extend (below ++ [name])).text.toList := by
  intro name member
  rw [← Path.child_extend]
  exact Path.noNull_child plain (sound.isEntryName_of_mem stored (mem_inOrder.mp member)).noNull

/-- **The walk makes the trip.**  As long as so many directories can be entered inside one another
that there are not as many entries besides the directories listed, the walk through entries ends as
their trip does. -/
theorem walkEntries_of_visits (sound : files.Sound) {before : List (List String)} {trip : Trip}
    (visits : Visits files patterns root below names before trip)
    (plain : ∀ name ∈ names, '\x00' ∉ (root.extend (below ++ [name])).text.toList)
    (directories : Directories files before) {depth : Nat}
    (deep : files.root.count < depth + before.length) (sources : List Source) :
    (walkEntries files patterns (walkWithin files patterns depth) (root.extend below) below
        names).run.run (trailOf sources before) =
      (trip.outcome root,
        trailOf (sources ++ trip.found.map fun names => file (root.extend names))
          (before ++ trip.listed)) := by
  induction visits generalizing depth sources with
  | done =>
    rw [List.map_nil, List.append_nil, List.append_nil]
    rfl
  | skip skipped _ ih =>
    obtain ⟨plainName, plainRest⟩ := List.forall_mem_cons.mp plain
    rw [walkEntries_of_skipped plainName sound skipped]
    exact ih plainRest directories deep sources
  | refuse visible refuses =>
    have plainName := plain _ List.mem_cons_self
    have refused := FileSystem.satisfies_of_refused plainName Entry.isDirectory refuses
    rw [← Path.child_extend] at refused
    rw [walkEntries_refused visible refused, List.map_nil, List.append_nil, List.append_nil,
      Path.child_extend]
    rfl
  | file visible there kept _ ih =>
    obtain ⟨plainName, plainRest⟩ := List.forall_mem_cons.mp plain
    rw [walkEntries_of_file plainName visible there kept, ih plainRest directories deep,
      List.map_cons, List.append_assoc]
    rfl
  | stop visible there kept new _ stops ih =>
    have plainName := plain _ List.mem_cons_self
    have stored := FileSystem.Sound.descend?_of_lookup there
    obtain ⟨less, rfl, deeper⟩ := directories.enter new stored deep
    have inside := ih (noNull_entries sound plainName stored) (directories.concat new stored)
      deeper sources
    rw [List.append_assoc] at inside
    rw [walkEntries_of_directory plainName visible sound there kept new, run_bind, inside]
    simp only [Trip.outcome, stops]
    rfl
  | @directory below rest real name before entries inner outer visible there kept new inside goesOn
      _ ihInside ihOnward =>
    obtain ⟨plainName, plainRest⟩ := List.forall_mem_cons.mp plain
    have stored := FileSystem.Sound.descend?_of_lookup there
    have more := directories.concat new stored
    obtain ⟨less, rfl, deeper⟩ := directories.enter new stored deep
    have joined : before ++ [real] ++ inner.listed = before ++ real :: inner.listed :=
      List.append_assoc _ _ _
    have through := ihInside (noNull_entries sound plainName stored) more deeper sources
    have after := inside.directories more
    rw [joined] at through after
    have further : files.root.count < less + 1 + (before ++ real :: inner.listed).length := by
      rw [List.length_append]
      omega
    have onward := ihOnward plainRest after further
      (sources ++ inner.found.map fun names => file (root.extend names))
    rw [walkEntries_of_directory plainName visible sound there kept new, run_bind, through]
    simp only [Trip.outcome, goesOn] at onward ⊢
    rw [List.map_append, ← List.append_assoc sources, ← List.append_assoc before]
    exact onward

end Runs

end Source

end ApiAdmission
