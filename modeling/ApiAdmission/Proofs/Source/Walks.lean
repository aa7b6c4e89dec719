import ApiAdmission.Proofs.Source.Complete
import ApiAdmission.Proofs.Source.Runs

/-!
# What a walk through a location finds

The walk through a location that is a directory makes a complete trip (`ofTarget_finds`).  So it
ends in every sound file system, with links that lead round in a circle too.  It lists no directory
twice; what it finds is in sight, not excluded, and increasing.  Where no link leads to a directory
it finds everything that is wanted, but only as far as the file system refuses no entry.

A link to a name that is too long is refused, while one that leads nowhere is passed over.  So such
a link takes away the files after it (`walk_ends_at_overlong_link`).
-/

namespace ApiAdmission

set_option autoImplicit false

/-- What is a directory can be looked up, and its path has no null character. -/
theorem FileSystem.lookup_of_isDirectory {files : FileSystem} {path : Path}
    (isDirectory : files.isDirectory path = .ok true) :
    '\x00' ∉ path.text.toList ∧
      ∃ real entries, files.lookup path = .ok (real, .directory entries) := by
  unfold FileSystem.isDirectory satisfies entryAt at isDirectory
  by_cases null : '\x00' ∈ path.text.toList
  · simp [null, nullInPath] at isDirectory
  · rcases finds : files.lookup path with cause | ⟨real, entry⟩
    · rw [finds] at isDirectory
      cases cause <;> simp [null] at isDirectory
    · rw [finds] at isDirectory
      cases entry with
      | directory entries => exact ⟨null, real, entries, rfl⟩
      | file | link => simp [null, Entry.isDirectory] at isDirectory

/-- A look-up goes on from what a path leads to, as long as the longer path is not too long. -/
theorem FileSystem.Leads.lookup_extend {files : FileSystem} {path : Path} {entry : Entry}
    (leads : files.Leads path entry) {names : List String}
    (short : (path.extend names).text.utf8ByteSize < pathLimit) :
    files.lookup (path.extend names) =
      files.lookupFrom linkLimit (files.startOf path ++ path.names) names := by
  rw [FileSystem.lookup, if_neg (Nat.not_le.mpr short)]
  exact FileSystem.lookupFrom_append leads.plain leads.noLink leads.found names

namespace Source

/-- Where a directory has no ignore file, the given patterns are the only ones. -/
theorem patternsFor_of_noFile {files : FileSystem} {directory : Path}
    (noFile : files.isFile (directory.child ignoreFileName) = .ok false) (given : List String) :
    patternsFor files directory given = Ignore.Pattern.ofLines given := by
  unfold patternsFor
  simp only [noFile]
  exact congrArg Ignore.Pattern.ofLines (List.append_nil given)

/-- A location that is a directory and is walked through, with the patterns for what to leave
out. -/
structure Walked (world : World) (location : String) (excluded : List String) (root : Path)
    (patterns : List Ignore.Pattern) : Prop where
  expands : world.expandHome (Path.ofText location) = .ok root
  isDirectory : world.files.isDirectory root = .ok true
  reads : patternsFor world.files root excluded = .ok patterns

/-- The sources that a trip finds. -/
def Trip.sources (root : Path) (trip : Trip) : List Source :=
  trip.found.map fun names => file (root.extend names)

/-- The breakdown at which a trip ends. -/
def Trip.breakdown? (root : Path) (trip : Trip) : Option Breakdown :=
  trip.refused.map fun names => .refused ⟨.nameTooLong, (root.extend names).text⟩

section Walked

variable {world : World} {location : String} {excluded : List String} {root : Path}
  {patterns : List Ignore.Pattern} (sound : world.files.Sound)
  (walked : Walked world location excluded root patterns)
include sound walked

section Visits

variable {real : List String} {top : List (String × Entry)} {trip : Trip}
  (start : world.files.lookup root = .ok (real, .directory top))
  (visits : Visits world.files patterns root [] (inOrder (top.map Prod.fst)) [real] trip)
include start visits

/-- The walk through a location makes the trip through its directory. -/
theorem walkLocation_of_visits :
    (walkLocation world excluded (Path.ofText location)).run.run ⟨[], []⟩ =
      (trip.outcome root, trailOf (trip.sources root) (real :: trip.listed)) := by
  obtain ⟨plain, _⟩ := FileSystem.lookup_of_isDirectory walked.isDirectory
  have stored := FileSystem.Sound.descend?_of_lookup start
  have lists := FileSystem.entryNames_of_lookup plain start
  have leads := sound.realPath_of_lookup plain start
  have made := walkEntries_of_visits sound visits
    (noNull_entries sound ((Path.extend_nil root).symm ▸ plain) stored) (.singleton stored)
    (Nat.lt_succ_self _) []
  rw [Path.extend_nil] at made
  rw [← walkWithin_succ lists] at made
  unfold walkLocation
  simp only [walked.expands, walked.isDirectory, walked.reads, leads, orStop, pure_bind, if_true]
  rw [run_bind]
  exact made

theorem ofTarget_of_visits :
    ofTarget world (locationMark ++ location) excluded =
      (trip.sources root, trip.breakdown? root) := by
  have other : (locationMark ++ location == standardInputTarget) = false := by
    refine beq_eq_false_iff_ne.mpr fun same => ?_
    have characters := congrArg String.toList same
    rw [String.toList_append] at characters
    exact absurd (List.head_eq_of_cons_eq characters) (by decide)
  have rest : Text.dropPrefix? locationMark.toList (locationMark ++ location).toList =
      some location.toList := by
    rw [String.toList_append]
    rfl
  have made := walkLocation_of_visits sound walked start visits
  unfold ofTarget
  rw [other, rest]
  simp only [String.ofList_toList, made, Trip.outcome, Trip.breakdown?]
  cases trip.refused <;> rfl

end Visits

/-- **What a walk finds.**  The walk through a location makes a complete trip, in which no directory
is listed twice. -/
theorem ofTarget_finds :
    ∃ (real : List String) (trip : Trip), trip.Complete world.files patterns root real ∧
      ofTarget world (locationMark ++ location) excluded =
        (trip.sources root, trip.breakdown? root) ∧
      ((walkLocation world excluded (Path.ofText location)).run.run ⟨[], []⟩).2.entered =
        ((real :: trip.listed).map (Path.mk "/")).reverse := by
  obtain ⟨_, real, top, start⟩ := FileSystem.lookup_of_isDirectory walked.isDirectory
  obtain ⟨trip, visits⟩ : ∃ trip,
      Visits world.files patterns root [] (inOrder (top.map Prod.fst)) [real] trip :=
    exists_visits sound _ _ _ (.singleton (FileSystem.Sound.descend?_of_lookup start))
  refine ⟨real, trip, visits.complete start sound, ofTarget_of_visits sound walked start visits, ?_⟩
  rw [walkLocation_of_visits sound walked start visits]
  rfl

end Walked

/-! ## A link that ends a walk -/

section Overlong

/-- What cannot be a name, since it is too long. -/
def overlongName : String := String.ofList (List.replicate 256 'x')

/-- Two files, and between them a link to what cannot be there. -/
def overlongEntries : List (String × Entry) :=
  [("a.json", .file []), ("b", .link overlongName), ("c.json", .file [])]

def overlongWorld : World where
  files := ⟨.directory [("root", .directory overlongEntries)], []⟩
  environment := []
  network := []
  standardInput := ""
  terminal := false
  systemName := "Linux"
  homes := []

def overlongRoot : Path := ⟨"", ["root"]⟩

theorem overlongWorld_sound : overlongWorld.files.Sound where
  named := by decide
  start := ⟨_, rfl⟩

theorem overlongRoot_leads :
    overlongWorld.files.Leads overlongRoot (.directory overlongEntries) :=
  ⟨by decide, by decide, by decide, nofun, rfl⟩

theorem lookup_overlongRoot :
    overlongWorld.files.lookup overlongRoot = .ok (["root"], .directory overlongEntries) :=
  overlongRoot_leads.lookup

theorem lookup_overlongEntry {name : String}
    (short : (overlongRoot.extend [name]).text.utf8ByteSize < pathLimit) :
    overlongWorld.files.lookup (overlongRoot.extend [name]) =
      overlongWorld.files.lookupFrom linkLimit ["root"] [name] :=
  overlongRoot_leads.lookup_extend short

theorem lookup_firstFile :
    overlongWorld.files.lookup (overlongRoot.extend ["a.json"]) =
      .ok (["root", "a.json"], .file []) :=
  FileSystem.Leads.lookup ⟨by decide, by decide, by decide, nofun, rfl⟩

theorem lookup_lastFile :
    overlongWorld.files.lookup (overlongRoot.extend ["c.json"]) =
      .ok (["root", "c.json"], .file []) :=
  FileSystem.Leads.lookup ⟨by decide, by decide, by decide, nofun, rfl⟩

theorem ofText_overlongName : Path.ofText overlongName = ⟨"", [overlongName]⟩ := by
  have characters : overlongName.toList = List.replicate 256 'x' := String.toList_ofList
  have noSlash : '/' ∉ overlongName.toList := by
    rw [characters]
    exact fun member => absurd (List.eq_of_mem_replicate member) (by decide)
  have proper : Path.IsName overlongName := ⟨by decide +kernel, by decide +kernel, noSlash⟩
  have relative : Path.anchorOf overlongName = "" := by
    rw [Path.anchorOf, characters]
    rfl
  rw [Path.ofText, relative, Path.namesOf_of_isName proper]

theorem lookup_overlongLink :
    overlongWorld.files.lookup (overlongRoot.extend ["b"]) = .error .nameTooLong := by
  have notAbove : overlongName ≠ Path.above := by decide +kernel
  have long : longestName < overlongName.utf8ByteSize := by decide +kernel
  rw [lookup_overlongEntry (by decide), linkLimit,
    FileSystem.lookupFrom_link (by decide) rfl (by decide) rfl, ofText_overlongName]
  exact FileSystem.lookupFrom_tooLong notAbove rfl long

theorem walked_overlongWorld : Walked overlongWorld "root" [] overlongRoot [] where
  expands := rfl
  isDirectory := overlongRoot_leads.satisfies Entry.isDirectory
  reads := by
    have missing : overlongWorld.files.lookup (overlongRoot.child ignoreFileName) =
        .error .notFound := by
      show overlongWorld.files.lookup (overlongRoot.extend [ignoreFileName]) = _
      rw [lookup_overlongEntry (by decide)]
      exact FileSystem.lookupFrom_missing (by decide) rfl (by decide) rfl
    have absent : overlongWorld.files.isFile (overlongRoot.child ignoreFileName) = .ok false :=
      FileSystem.satisfies_of_absent (by decide) _ missing (by decide)
    exact patternsFor_of_noFile absent []

/-- What is found in the world, where no link leads to a directory. -/
theorem ofTarget_finds_overlongWorld :
    (overlongWorld.files.Sound ∧ Walked overlongWorld "root" [] overlongRoot []) ∧
    ∃ (real : List String) (trip : Trip),
      trip.Complete overlongWorld.files [] overlongRoot real ∧
      ofTarget overlongWorld (locationMark ++ "root") [] =
        (trip.sources overlongRoot, trip.breakdown? overlongRoot) ∧
      ((walkLocation overlongWorld [] (Path.ofText "root")).run.run ⟨[], []⟩).2.entered =
        ((real :: trip.listed).map (Path.mk "/")).reverse :=
  ⟨⟨overlongWorld_sound, walked_overlongWorld⟩,
    ofTarget_finds overlongWorld_sound walked_overlongWorld⟩

theorem noDirectoryLinks_overlongWorld : NoDirectoryLinks overlongWorld.files overlongRoot := by
  refine .of_flat lookup_overlongRoot fun name member there below directory => ?_
  simp only [overlongEntries, List.map_cons, List.map_nil, List.mem_cons, List.not_mem_nil,
    or_false] at member
  rcases member with rfl | rfl | rfl
  · cases directory.symm.trans lookup_firstFile
  · cases directory.symm.trans lookup_overlongLink
  · cases directory.symm.trans lookup_lastFile

theorem wanted_lastFile : Wanted overlongWorld.files [] overlongRoot ["c.json"] where
  met := Met.child_root lookup_overlongRoot (by decide) (by decide)
  kept := rfl
  isFile := ⟨_, _, lookup_lastFile⟩

theorem visits_overlongWorld :
    Visits overlongWorld.files [] overlongRoot [] (inOrder (overlongEntries.map Prod.fst))
      [["root"]] ⟨[["a.json"]], [], some ["b"]⟩ := by
  have sorted : inOrder (overlongEntries.map Prod.fst) = ["a.json", "b", "c.json"] :=
    List.mergeSort_of_pairwise (by decide)
  have onward : Visits overlongWorld.files [] overlongRoot [] ["b", "c.json"] [["root"]]
      ⟨[], [], some ["b"]⟩ :=
    .refuse (by decide) lookup_overlongLink
  have visible : isHidden "a.json" = false := by decide
  have there : overlongWorld.files.lookup (overlongRoot.extend ([] ++ ["a.json"])) =
      .ok (["root", "a.json"], .file []) := lookup_firstFile
  rw [sorted]
  exact .file visible there rfl onward

/-- **A link can end a walk.**  Although no link leads to a directory, a file that is wanted is not
found, since the link before it leads to a name that is too long. -/
theorem walk_ends_at_overlong_link :
    NoDirectoryLinks overlongWorld.files overlongRoot ∧
    Wanted overlongWorld.files [] overlongRoot ["c.json"] ∧
    Walked overlongWorld "root" [] overlongRoot [] ∧
    ofTarget overlongWorld (locationMark ++ "root") [] =
      ([file (overlongRoot.extend ["a.json"])], some (.refused ⟨.nameTooLong, "root/b"⟩)) := by
  refine ⟨noDirectoryLinks_overlongWorld, wanted_lastFile, walked_overlongWorld, ?_⟩
  rw [ofTarget_of_visits overlongWorld_sound walked_overlongWorld lookup_overlongRoot
    visits_overlongWorld]
  rfl

end Overlong

end Source

end ApiAdmission
