import ApiAdmission.Proofs.Source.Tours
import ApiAdmission.Proofs.Source.Walks

/-!
# Walks through links to directories

A walk enters a directory under the first of the names by which the directories that it enters show
it (`Named`), and what is left out there is left out by these names alone.

So a file is found, under one of its names, exactly if it has names by which it is wanted and which
pass: at every step on the way, the entry is not left out either by the names under which the
directory before it was entered (`ofTarget_finds_through_links`).  That rules out a file which a
pattern describes only as it is named through a link (`file_lost_behind_link`).  It also rules out
one behind more links than a look-up follows, when the directory around it was entered through
links.
-/

namespace ApiAdmission.Source

set_option autoImplicit false

section Named

variable {files : FileSystem} {patterns : List Ignore.Pattern} {root : Path}
  {names rest real path : List String} {name : String} {entries : List (String × Entry)}
  {entered : Entered} {found : List (List String)}

/-! ## The names of the directories entered -/

/-- The directories that a walk enters from its root, each under the first of the names by which the
others show it.  No two of them are the same. -/
structure Named (files : FileSystem) (patterns : List Ignore.Pattern) (root : Path)
    (entered : Entered) : Prop where
  distinct : (entered.map Prod.snd).Nodup
  start : ∃ real, ([], real) ∈ entered
  leads : ∀ pair ∈ entered, ∃ entries,
    files.lookup (root.extend pair.1) = .ok (pair.2, .directory entries)
  shown : ∀ pair ∈ entered, pair.1 ≠ [] →
    Shown files root entered pair.1 ∧ Opens files patterns root pair.1 pair.2
  first : ∀ path real, Shown files root entered path → Opens files patterns root path real →
    ∃ pair ∈ entered, pair.2 = real ∧ (pair.1 = path ∨ pair.1 < path)
  passable : ∀ path, Shown files root entered path →
    files.lookup (root.extend path) ≠ .error .nameTooLong

/-- A step on the way to a file is open by the name under which the directory before it was entered:
it does not follow too many links, and no pattern describes it, as a file where it is the last step
and as a directory where it is not. -/
structure OpenBy (files : FileSystem) (patterns : List Ignore.Pattern) (root : Path)
    (first : List String) (name : String) (rest : List String) : Prop where
  followed : files.lookup (root.extend (first ++ [name])) ≠ .error .tooManyLinks
  keptFile : rest = [] → Ignore.ignores patterns (Text.join "/" (first ++ [name])) = false
  keptDirectory : rest ≠ [] →
    Ignore.ignores patterns (Text.join "/" (first ++ [name]) ++ "/") = false

/-- Names pass when every step on the way is open by the name under which the directory before it
was entered. -/
def Passes (files : FileSystem) (patterns : List Ignore.Pattern) (root : Path) (entered : Entered)
    (names : List String) : Prop :=
  ∀ above name rest, names = above ++ name :: rest → ∀ first real entries,
    (first, real) ∈ entered → files.lookup (root.extend above) = .ok (real, .directory entries) →
    OpenBy files patterns root first name rest

theorem shown_concat_iff {above : List String} :
    Shown files root entered (above ++ [name]) ↔
      ∃ real entries, (above, real) ∈ entered ∧
        files.lookup (root.extend above) = .ok (real, .directory entries) ∧
        name ∈ entries.map Prod.fst ∧ isHidden name = false := by
  constructor
  · intro shown
    generalize whole : above ++ [name] = path at shown
    obtain ⟨enters, there, member, visible⟩ := shown
    obtain ⟨rfl, same⟩ := List.append_inj' whole rfl
    cases same
    exact ⟨_, _, enters, there, member, visible⟩
  · rintro ⟨real, entries, enters, there, member, visible⟩
    exact ⟨enters, there, member, visible⟩

section Start

variable {top : List (String × Entry)}
  (start : files.lookup root = .ok (real, .directory top))
include start

/-- The tour through the entries of the root of a walk enters named directories. -/
theorem Tours.named {listed : List (List String)}
    (tours : Tours files patterns root [] (inOrder (top.map Prod.fst)) [([], real)] found listed
      entered)
    (distinct : (real :: listed).Nodup) :
    Named files patterns root (([], real) :: entered) ∧
      ∀ path, path ∈ found ↔
        Shown files root (([], real) :: entered) path ∧ Yields files patterns root path := by
  have there : files.lookup (root.extend []) = .ok (real, .directory top) :=
    (Path.extend_nil root).symm ▸ start
  have offers : ∀ {path}, Shown files root (([], real) :: entered) path ↔
      Offered files root [] (inOrder (top.map Prod.fst)) entered path := shown_cons there
  refine ⟨?_, fun path => by rw [offers]; exact tours.found_iff path⟩
  exact {
    distinct := by rwa [List.map_cons, tours.reals]
    start := ⟨real, List.mem_cons_self⟩
    leads := List.forall_mem_cons.mpr ⟨⟨top, there⟩, fun pair member =>
      (tours.opens pair member).2.there⟩
    shown := List.forall_mem_cons.mpr ⟨absurd rfl, fun pair member _ =>
      ⟨offers.mpr (tours.opens pair member).1, (tours.opens pair member).2⟩⟩
    first := fun path other shown => tours.first path other (offers.mp shown)
    passable := fun path shown => tours.passable path (offers.mp shown) }

end Start

section Passes

variable {first above : List String} (named : Named files patterns root entered)
include named

/-- Directories that are the same are entered under the same names. -/
theorem Named.unique (enters : (first, real) ∈ entered) (again : (above, real) ∈ entered) :
    first = above :=
  congrArg Prod.fst (List.inj_on_of_nodup_map named.distinct enters again rfl)

/-- The directories on the way to one that is entered are entered under the names on the way. -/
theorem Named.entered_of_append (enters : (above ++ rest, real) ∈ entered) :
    ∃ other, (above, other) ∈ entered := by
  induction rest using List.reverseRecOn generalizing real with
  | nil => exact ⟨real, by rwa [List.append_nil] at enters⟩
  | append_singleton more name ih =>
    rw [← List.append_assoc] at enters
    obtain ⟨shown, _⟩ := named.shown _ enters (by simp)
    obtain ⟨parent, _, before, _⟩ := shown_concat_iff.mp shown
    exact ih before

/-- A step that is open leads to the same by the name under which the directory was entered. -/
theorem Named.step {found : List String × Entry} (enters : (first, real) ∈ entered)
    (here : files.lookup (root.extend above) = .ok (real, .directory entries))
    (member : name ∈ entries.map Prod.fst) (visible : isHidden name = false)
    (opens : OpenBy files patterns root first name rest)
    (finds : files.lookup (root.extend (above ++ [name])) = .ok found) :
    Shown files root entered (first ++ [name]) ∧
      files.lookup (root.extend (first ++ [name])) = .ok found := by
  obtain ⟨others, there⟩ := named.leads _ enters
  have same : Entry.directory entries = .directory others :=
    Option.some.inj ((FileSystem.Sound.descend?_of_lookup here).symm.trans
      (FileSystem.Sound.descend?_of_lookup there))
  cases same
  have shown : Shown files root entered (first ++ [name]) := ⟨enters, there, member, visible⟩
  refine ⟨shown, ?_⟩
  rw [← Path.child_extend] at finds
  have ways := FileSystem.lookup_child_cases here there finds
  rw [Path.child_extend] at ways
  rcases ways with leads | tooMany | tooLong
  · exact leads
  · exact absurd tooMany opens.followed
  · exact absurd tooLong (named.passable _ shown)

/-- Every directory on the way to what is wanted is entered, when the names pass. -/
theorem Named.entered_of_passes (met : Met files patterns root (above ++ name :: rest))
    (passes : Passes files patterns root entered (above ++ name :: rest)) :
    ∃ first real entries, (first, real) ∈ entered ∧
      files.lookup (root.extend above) = .ok (real, .directory entries) ∧
      name ∈ entries.map Prod.fst := by
  -- Down the way: a directory on it comes up in the one above by the names that this was entered
  -- under, so it is entered too, under these or earlier names.
  induction above using List.reverseRecOn generalizing name rest with
  | nil =>
    obtain ⟨real, entries, there, member⟩ := met.listed [] name rest rfl
    obtain ⟨other, enters⟩ := named.start
    obtain ⟨_, again⟩ := named.leads _ enters
    cases there.symm.trans again
    exact ⟨[], _, entries, enters, there, member⟩
  | append_singleton before last ih =>
    have whole : before ++ [last] ++ name :: rest = before ++ last :: name :: rest := by simp
    obtain ⟨real, entries, there, member⟩ := met.listed (before ++ [last]) name rest rfl
    rw [whole] at met passes
    obtain ⟨first, realBefore, others, enters, here, listed⟩ := ih met passes
    have opens := passes before last (name :: rest) rfl first _ _ enters here
    have visible := met.visible last (List.mem_append_right _ List.mem_cons_self)
    obtain ⟨shown, leads⟩ := named.step enters here listed visible opens there
    obtain ⟨pair, enters, same, _⟩ :=
      named.first _ real shown ⟨⟨_, leads⟩, opens.keptDirectory (by simp)⟩
    exact ⟨pair.1, real, entries, same ▸ enters, there, member⟩

/-- What is wanted under the names that the directories on the way were entered by, passes. -/
theorem Named.passes_of_shown (shown : Shown files root entered path)
    (wants : Wanted files patterns root path) : Passes files patterns root entered path := by
  rintro above name rest rfl first real entries enters here
  obtain ⟨realFile, content, there⟩ := wants.isFile
  -- The directories on the way were entered under the names on the way, so these are the first.
  have itself : first = above := by
    obtain ⟨other, before⟩ : ∃ other, (above, other) ∈ entered := by
      rcases List.eq_nil_or_concat rest with rfl | ⟨more, last, rfl⟩
      · obtain ⟨other, _, before, _⟩ := shown_concat_iff.mp shown
        exact ⟨other, before⟩
      · rw [List.concat_eq_append, ← List.cons_append, ← List.append_assoc] at shown
        obtain ⟨_, _, before, _⟩ := shown_concat_iff.mp shown
        exact named.entered_of_append before
    obtain ⟨_, again⟩ := named.leads _ before
    cases here.symm.trans again
    exact named.unique enters before
  subst itself
  cases rest with
  | nil =>
    exact ⟨fun tooMany => (nomatch there.symm.trans tooMany), fun _ => wants.kept, absurd rfl⟩
  | cons next more =>
    have whole : first ++ name :: next :: more = first ++ [name] ++ next :: more := by simp
    obtain ⟨_, _, leads, _⟩ := wants.met.listed _ next more whole
    exact ⟨fun tooMany => (nomatch leads.symm.trans tooMany), nofun,
      fun _ => wants.met.kept _ next more whole (by simp)⟩

/-- **What is found through links.**  The file of some names is found, under these names or others,
exactly if it has names by which it is wanted and which pass. -/
theorem Named.found_iff
    (finds : ∀ path, path ∈ found ↔
      Shown files root entered path ∧ Yields files patterns root path)
    (wanted : ∀ path ∈ found, Wanted files patterns root path) (content : List UInt8) :
    (∃ names ∈ found, files.lookup (root.extend names) = .ok (real, .file content)) ↔
      ∃ names, Wanted files patterns root names ∧
        files.lookup (root.extend names) = .ok (real, .file content) ∧
        Passes files patterns root entered names := by
  constructor
  · rintro ⟨names, member, there⟩
    exact ⟨names, wanted names member, there,
      named.passes_of_shown ((finds names).mp member).1 (wanted names member)⟩
  · rintro ⟨names, wants, there, passes⟩
    rcases List.eq_nil_or_concat names with rfl | ⟨above, name, rfl⟩
    · obtain ⟨other, enters⟩ := named.start
      obtain ⟨_, again⟩ := named.leads _ enters
      cases there.symm.trans again
    rw [List.concat_eq_append] at wants there passes
    obtain ⟨first, realAbove, entries, enters, here, member⟩ :=
      named.entered_of_passes wants.met passes
    have opens := passes above name [] rfl first _ _ enters here
    have visible := wants.met.visible name (List.mem_append_right _ List.mem_cons_self)
    obtain ⟨shown, leads⟩ := named.step enters here member visible opens there
    exact ⟨first ++ [name], (finds _).mpr ⟨shown, ⟨_, _, leads⟩, opens.keptFile rfl⟩, leads⟩

end Passes

end Named

section Walked

variable {world : World} {location : String} {excluded : List String} {root : Path}
  {patterns : List Ignore.Pattern}

/-- **No file is lost behind a link but by the name of the link.**  A walk that no entry ends early
enters every directory that it comes to under the first of its names; and a file is found, under
one of its names, exactly if it has names by which it is wanted and which pass. -/
theorem ofTarget_finds_through_links (sound : world.files.Sound)
    (walked : Walked world location excluded root patterns)
    (ends : (ofTarget world (locationMark ++ location) excluded).2 = none) :
    ∃ (found : List (List String)) (entered : Entered),
      ofTarget world (locationMark ++ location) excluded =
        (found.map fun names => file (root.extend names), none) ∧
      ((walkLocation world excluded (Path.ofText location)).run.run ⟨[], []⟩).2.entered =
        (entered.map fun pair => ⟨"/", pair.2⟩).reverse ∧
      Named world.files patterns root entered ∧
      ∀ real content,
        (∃ names ∈ found, world.files.lookup (root.extend names) = .ok (real, .file content)) ↔
          ∃ names, Wanted world.files patterns root names ∧
            world.files.lookup (root.extend names) = .ok (real, .file content) ∧
            Passes world.files patterns root entered names := by
  obtain ⟨real, trip, complete, finds, lists⟩ := ofTarget_finds sound walked
  obtain ⟨top, start, visits⟩ := complete.made
  have goesOn : trip.refused = none := by
    rw [finds] at ends
    exact Option.map_eq_none_iff.mp ends
  have known : ∀ pair ∈ [(([] : List String), real)], ∀ path,
      Under [] (inOrder (top.map Prod.fst)) path → pair.1 < path := by
    rintro pair member path ⟨name, _, rest, rfl⟩
    cases List.mem_singleton.mp member
    exact List.Lex.nil
  obtain ⟨entered, tours⟩ := visits.tours sound goesOn (increasing_of_lookup sound start) rfl known
  obtain ⟨named, found⟩ := tours.named start complete.directories.nodup
  refine ⟨trip.found, ([], real) :: entered, ?_, ?_, named, fun real content =>
    named.found_iff found complete.wanted content⟩
  · rw [finds, Trip.breakdown?, goesOn]
    rfl
  · rw [lists, ← tours.reals, List.map_cons, List.map_cons, List.map_map]
    rfl

end Walked

/-! ## A file that is lost behind a link -/

section Linked

/-- Two files of a directory. -/
def sharedFiles : List (String × Entry) := [("doc.json", .file []), ("pet.json", .file [])]

/-- The directory, and a link to it. -/
def linkedEntries : List (String × Entry) := [("a", .link "z"), ("z", .directory sharedFiles)]

def linkedWorld : World where
  files := ⟨.directory [("root", .directory linkedEntries)], []⟩
  environment := []
  network := []
  standardInput := ""
  terminal := false
  systemName := "Linux"
  homes := []

def linkedRoot : Path := ⟨"", ["root"]⟩

/-- The pattern that leaves one of the files out under the name of the link. -/
def linkedPatterns : List Ignore.Pattern :=
  [⟨true, .segments [.named ("a".toList.map .exactly), .named ("doc.json".toList.map .exactly)]⟩]

theorem linkedWorld_sound : linkedWorld.files.Sound where
  named := by decide
  start := ⟨_, rfl⟩

theorem linkedRoot_leads : linkedWorld.files.Leads linkedRoot (.directory linkedEntries) :=
  ⟨by decide, by decide, by decide, nofun, rfl⟩

theorem lookup_linkedRoot :
    linkedWorld.files.lookup linkedRoot = .ok (["root"], .directory linkedEntries) :=
  linkedRoot_leads.lookup

/-- The link leads into the directory. -/
theorem lookup_throughLink {names : List String} {entry : Entry}
    (short : (linkedRoot.extend ("a" :: names)).text.utf8ByteSize < pathLimit)
    (plain : ∀ name ∈ names, FileSystem.IsPlain name) (noLink : ∀ target, entry ≠ .link target)
    (found : linkedWorld.files.root.descend? (["root"] ++ "z" :: names) = some entry) :
    linkedWorld.files.lookup (linkedRoot.extend ("a" :: names)) =
      .ok (["root"] ++ "z" :: names, entry) := by
  have target : Path.ofText "z" = ⟨"", ["z"]⟩ := by decide
  rw [linkedRoot_leads.lookup_extend short, linkLimit]
  show linkedWorld.files.lookupFrom 40 ["root"] ("a" :: names) = _
  rw [FileSystem.lookupFrom_link (by decide) rfl (by decide) rfl, target]
  exact FileSystem.lookupFrom_of_descend? (List.forall_mem_cons.mpr ⟨by decide, plain⟩) noLink found

theorem lookup_linkedDirectory :
    linkedWorld.files.lookup (linkedRoot.extend ["z"]) =
      .ok (["root", "z"], .directory sharedFiles) :=
  FileSystem.Leads.lookup ⟨by decide, by decide, by decide, nofun, rfl⟩

theorem lookup_linkedFile :
    linkedWorld.files.lookup (linkedRoot.extend ["z", "doc.json"]) =
      .ok (["root", "z", "doc.json"], .file []) :=
  FileSystem.Leads.lookup ⟨by decide, by decide, by decide, nofun, rfl⟩

theorem walked_linkedWorld :
    Walked linkedWorld "root" ["a/doc.json"] linkedRoot linkedPatterns where
  expands := rfl
  isDirectory := linkedRoot_leads.satisfies Entry.isDirectory
  reads := by
    have missing : linkedWorld.files.lookup (linkedRoot.child ignoreFileName) =
        .error .notFound := by
      show linkedWorld.files.lookup (linkedRoot.extend [ignoreFileName]) = _
      rw [linkedRoot_leads.lookup_extend (by decide)]
      exact FileSystem.lookupFrom_missing (by decide) rfl (by decide) rfl
    have absent : linkedWorld.files.isFile (linkedRoot.child ignoreFileName) = .ok false :=
      FileSystem.satisfies_of_absent (by decide) _ missing (by decide)
    rw [patternsFor_of_noFile absent]
    rfl

theorem visits_linkedWorld :
    Visits linkedWorld.files linkedPatterns linkedRoot [] (inOrder (linkedEntries.map Prod.fst))
      [["root"]] ⟨[["a", "pet.json"]], [["root", "z"]], none⟩ := by
  have sorted : inOrder (linkedEntries.map Prod.fst) = ["a", "z"] :=
    List.mergeSort_of_pairwise (by decide)
  have sortedInside : inOrder (sharedFiles.map Prod.fst) = ["doc.json", "pet.json"] :=
    List.mergeSort_of_pairwise (by decide)
  have link : linkedWorld.files.lookup (linkedRoot.extend ([] ++ ["a"])) =
      .ok (["root", "z"], .directory sharedFiles) :=
    lookup_throughLink (by decide) (by decide) nofun rfl
  have excluded : Skipped linkedWorld.files linkedPatterns linkedRoot [["root"], ["root", "z"]]
      ["a"] "doc.json" :=
    .excludedFile (lookup_throughLink (by decide) (by decide) nofun rfl) (by decide)
  have kept : linkedWorld.files.lookup (linkedRoot.extend (["a"] ++ ["pet.json"])) =
      .ok (["root", "z", "pet.json"], .file []) :=
    lookup_throughLink (by decide) (by decide) nofun rfl
  have again : Skipped linkedWorld.files linkedPatterns linkedRoot [["root"], ["root", "z"]]
      [] "z" :=
    .listedBefore lookup_linkedDirectory (by decide)
  have inside : Visits linkedWorld.files linkedPatterns linkedRoot ["a"]
      (inOrder (sharedFiles.map Prod.fst)) [["root"], ["root", "z"]]
      ⟨[["a", "pet.json"]], [], none⟩ := by
    rw [sortedInside]
    exact .skip excluded (.file (by decide) kept (by decide) .done)
  have onward : Visits linkedWorld.files linkedPatterns linkedRoot [] ["z"]
      [["root"], ["root", "z"]] ⟨[], [], none⟩ := .skip again .done
  have keptLink : Ignore.ignores linkedPatterns (Text.join "/" ([] ++ ["a"]) ++ "/") = false := by
    decide
  have new : ["root", "z"] ∉ [["root"]] := by decide
  rw [sorted]
  exact .directory (by decide) link keptLink new inside rfl onward

theorem ofTarget_linkedWorld :
    ofTarget linkedWorld (locationMark ++ "root") ["a/doc.json"] =
      ([file (linkedRoot.extend ["a", "pet.json"])], none) := by
  rw [ofTarget_of_visits linkedWorld_sound walked_linkedWorld lookup_linkedRoot visits_linkedWorld]
  rfl

theorem wanted_linkedFile :
    Wanted linkedWorld.files linkedPatterns linkedRoot ["z", "doc.json"] where
  met := (Met.child_root lookup_linkedRoot (by decide) (by decide)).child lookup_linkedDirectory
    (fun _ => by decide) (by decide) (by decide)
  kept := by decide
  isFile := ⟨_, _, lookup_linkedFile⟩

/-- What is found in that world. -/
theorem ofTarget_finds_through_links_linkedWorld :
    (linkedWorld.files.Sound ∧
      Walked linkedWorld "root" ["a/doc.json"] linkedRoot linkedPatterns ∧
      (ofTarget linkedWorld (locationMark ++ "root") ["a/doc.json"]).2 = none) ∧
    ∃ (found : List (List String)) (entered : Entered),
      ofTarget linkedWorld (locationMark ++ "root") ["a/doc.json"] =
        (found.map fun names => file (linkedRoot.extend names), none) ∧
      ((walkLocation linkedWorld ["a/doc.json"] (Path.ofText "root")).run.run ⟨[], []⟩).2.entered =
        (entered.map fun pair => ⟨"/", pair.2⟩).reverse ∧
      Named linkedWorld.files linkedPatterns linkedRoot entered ∧
      ∀ real content,
        (∃ names ∈ found,
          linkedWorld.files.lookup (linkedRoot.extend names) = .ok (real, .file content)) ↔
          ∃ names, Wanted linkedWorld.files linkedPatterns linkedRoot names ∧
            linkedWorld.files.lookup (linkedRoot.extend names) = .ok (real, .file content) ∧
            Passes linkedWorld.files linkedPatterns linkedRoot entered names := by
  have ends : (ofTarget linkedWorld (locationMark ++ "root") ["a/doc.json"]).2 = none := by
    rw [ofTarget_linkedWorld]
  exact ⟨⟨linkedWorld_sound, walked_linkedWorld, ends⟩,
    ofTarget_finds_through_links linkedWorld_sound walked_linkedWorld ends⟩

/-- **A file can be lost behind a link.**  It is wanted by the name of its directory, and the walk
goes to its end, but no source leads to it: the directory was entered under the name of the link,
and by that name the file is left out. -/
theorem file_lost_behind_link :
    Walked linkedWorld "root" ["a/doc.json"] linkedRoot linkedPatterns ∧
    Wanted linkedWorld.files linkedPatterns linkedRoot ["z", "doc.json"] ∧
    linkedWorld.files.lookup (linkedRoot.extend ["z", "doc.json"]) =
      .ok (["root", "z", "doc.json"], .file []) ∧
    (ofTarget linkedWorld (locationMark ++ "root") ["a/doc.json"]).2 = none ∧
    ∀ source ∈ (ofTarget linkedWorld (locationMark ++ "root") ["a/doc.json"]).1,
      ∀ location entry, source.location = some location →
        linkedWorld.files.lookup (Path.ofText location) ≠
          .ok (["root", "z", "doc.json"], entry) := by
  rw [ofTarget_linkedWorld]
  refine ⟨walked_linkedWorld, wanted_linkedFile, lookup_linkedFile, rfl, ?_⟩
  rintro source member location entry located
  obtain rfl := List.mem_singleton.mp member
  cases located
  have path : Path.ofText (linkedRoot.extend ["a", "pet.json"]).text =
      linkedRoot.extend ["a", "pet.json"] := by decide
  have leads : linkedWorld.files.lookup (linkedRoot.extend ["a", "pet.json"]) =
      .ok (["root", "z", "pet.json"], .file []) :=
    lookup_throughLink (by decide) (by decide) nofun rfl
  rw [path, leads]
  simp

end Linked

end ApiAdmission.Source
