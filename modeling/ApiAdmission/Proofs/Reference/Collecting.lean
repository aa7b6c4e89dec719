import ApiAdmission.Proofs.Reference.Outcomes
import ApiAdmission.Proofs.Reference.Worlds

/-!
# What collecting mode accounts for

A collecting run that gives a tree accounts for every reference without a target: it becomes an
empty mapping, and its message stands after those of the problems before it, unless it is one of
them (`Expansion.Accounts`).

Not every run in a world gives a tree.  A reference breaks the run down if its location cannot be
worked out or what is there cannot be loaded for a reason that nobody foresees (`BreaksDown`): a
host that is no host, a null character in a path, links that lead in a circle, bytes that are no
UTF-8, or a text that breaks its own reading down.  These are all the ways in which a collecting run
can fail (`collecting_returns_iff`).
-/

namespace ApiAdmission.Reference

set_option autoImplicit false

/-! ## Every reference is accounted for -/

section Accounts

variable {surroundings : Surroundings} {base : Option String} {tree : Tree}

/-- Messages account for the references without a target in a collecting run. -/
structure Expansion.Accounts (surroundings : Surroundings) (start : Expansion)
    (messages : List String) : Prop where
  /-- Such a reference becomes an empty mapping. -/
  replaced : ∀ inner problem, Reaches surroundings .collecting start inner →
    inner.Misses surroundings problem → inner.BecomesEmpty surroundings problem.message
  /-- Its message comes next after the messages until then, unless it is among them. -/
  recorded : ∀ inner problem, Reaches surroundings .collecting start inner →
    inner.Misses surroundings problem →
    addNew inner.memory.messages problem.message <+: messages
  /-- There are no other messages. -/
  accounted : ∀ message ∈ messages, ∃ inner problem, Reaches surroundings .collecting start inner ∧
    inner.Misses surroundings problem ∧ message = problem.message
  /-- No message stands there twice. -/
  nodup : messages.Nodup

/-- Whatever a run from the start reaches, it reaches with a faithful memory. -/
theorem Reaches.faithful {mode : Mode} {inner : Expansion}
    (reaches : Reaches surroundings mode (.whole base tree .empty) inner) :
    inner.memory.Faithful surroundings :=
  reaches.keeps (kept_faithful surroundings) (Memory.faithful_empty surroundings)

/-- The messages of a collecting run that gives a tree account for its references. -/
theorem accounts_of_resolveCollecting {result : Tree} {messages : List String}
    (collects : resolveCollecting surroundings base tree = (.ok result, messages)) :
    (Expansion.whole base tree .empty).Accounts surroundings messages := by
  obtain ⟨after, expands, same⟩ := expands_of_resolveCollecting collects
  have reports : ∀ inner problem,
      Reaches surroundings .collecting (.whole base tree .empty) inner →
      inner.Misses surroundings problem →
      inner.Reports surroundings problem .collecting (.ok result, after) :=
    fun inner problem reaches misses =>
      reaches.reports ((Expansion.meets_iff_misses reaches.faithful).mpr misses) expands
  refine ⟨fun inner problem reaches misses => ?_, fun inner problem reaches misses => ?_,
    fun message member => ?_, ?_⟩
  · exact (reports inner problem reaches misses).1
  · exact same ▸ (reports inner problem reaches misses).2
  · obtain ⟨inner, problem, reaches, meets, said⟩ := (mem_messages_iff collects).mp member
    exact ⟨inner, problem, reaches, (Expansion.meets_iff_misses reaches.faithful).mp meets, said⟩
  · exact same ▸ expands.keeps (kept_nodup surroundings) List.nodup_nil

/-- A collecting run that ends fails exactly as a reference on the way does that cannot be followed
at all. -/
theorem resolveCollecting_eq_error_iff
    (ends : (Expansion.whole base tree .empty).Ends surroundings .collecting)
    {failure : Failure} :
    (resolveCollecting surroundings base tree).1 = .error failure ↔
      ∃ inner reference, Reaches surroundings .collecting (.whole base tree .empty) inner ∧
        inner.RefersBy reference ∧
        reach surroundings inner.place (cut reference).1 = .error failure := by
  obtain ⟨⟨outcome, after⟩, expands⟩ := ends
  rw [resolveCollecting_of_expands expands]
  constructor
  · intro fails
    obtain ⟨inner, reaches, breaks⟩ := expands.breaks fails
    obtain ⟨reference, refers, leads⟩ := (Expansion.breaks_iff reaches.faithful).mp breaks
    exact ⟨inner, reference, reaches, refers, leads⟩
  · rintro ⟨inner, reference, reaches, refers, leads⟩
    have breaks := (Expansion.breaks_iff reaches.faithful).mpr ⟨reference, refers, leads⟩
    obtain ⟨between, stops⟩ := breaks.fails
    obtain ⟨outcome | failed, same, again⟩ := reaches.passes stops <;> cases same
    cases again.eq_some.symm.trans expands.eq_some
    rfl

end Accounts

/-! ## What fails in a world -/

/-- Why working out the location of a document breaks down. -/
inductive Unlocatable (files : FileSystem) : Option String → String → Breakdown → Prop where
  /-- The part cannot be joined to the address of the document around it. -/
  | address {address part : String} {breakdown : Breakdown}
      (relative : isWebAddress part = false) (web : isWebAddress address = true)
      (fails : Url.join address part = .error breakdown) :
      Unlocatable files (some address) part breakdown
  /-- The path that is meant has a null character. -/
  | nullInPath {location part : String}
      (relative : isWebAddress part = false) (file : isWebAddress location = false)
      (null : '\x00' ∈ ((Path.ofText location).parent.join (Path.ofText part)).text.toList) :
      Unlocatable files (some location) part FileSystem.nullInPath
  /-- Links on the way lead in a circle. -/
  | circular {location part : String}
      (relative : isWebAddress part = false) (file : isWebAddress location = false)
      (plain : '\x00' ∉ ((Path.ofText location).parent.join (Path.ofText part)).text.toList)
      (links : files.lookup (files.reached ((Path.ofText location).parent.join
        (Path.ofText part))) = .error .tooManyLinks) :
      Unlocatable files (some location) part .lostPath

section Locate

variable {files : FileSystem} {base : Option String} {location part : String}
  {breakdown : Breakdown}

theorem locate_eq_breakdown_of_web (relative : isWebAddress part = false)
    (web : isWebAddress location = true) :
    locate files (some location) part = .error (.breakdown breakdown) ↔
      Url.join location part = .error breakdown := by
  simp only [locate, relative, web, Bool.false_eq_true, if_false, if_true]
  cases Url.join location part <;> simp [Except.mapError]

theorem locate_eq_breakdown_of_file (relative : isWebAddress part = false)
    (file : isWebAddress location = false) :
    locate files (some location) part = .error (.breakdown breakdown) ↔
      files.realPath ((Path.ofText location).parent.join (Path.ofText part)) =
        .error breakdown := by
  simp only [locate, relative, file, Bool.false_eq_true, if_false]
  cases files.realPath ((Path.ofText location).parent.join (Path.ofText part)) <;> simp

theorem locate_eq_breakdown_iff :
    locate files base part = .error (.breakdown breakdown) ↔
      Unlocatable files base part breakdown := by
  cases relative : isWebAddress part with
  | true =>
    refine iff_of_false (by simp [locate, relative]) ?_
    rintro (same | same | same) <;> cases relative.symm.trans same
  | false =>
    cases base with
    | none =>
      refine iff_of_false ?_ fun fails => ?_
      · simp only [locate, relative, Bool.false_eq_true, if_false]
        split <;> simp
      · cases fails
    | some location =>
      cases web : isWebAddress location with
      | true =>
        rw [locate_eq_breakdown_of_web relative web]
        constructor
        · exact .address relative web
        · rintro (⟨_, _, fails⟩ | ⟨_, file⟩ | ⟨_, file⟩)
          · exact fails
          · cases web.symm.trans file
          · cases web.symm.trans file
      | false =>
        rw [locate_eq_breakdown_of_file relative web, FileSystem.realPath_eq_error_iff]
        constructor
        · rintro (⟨null, rfl⟩ | ⟨plain, rfl, links⟩)
          · exact .nullInPath relative web null
          · exact .circular relative web plain links
        · rintro (⟨_, same, _⟩ | ⟨_, _, null⟩ | ⟨_, _, plain, links⟩)
          · cases web.symm.trans same
          · exact .inl ⟨null, rfl⟩
          · exact .inr ⟨plain, rfl, links⟩

theorem locate_eq_noBase_iff {relativePart : String} :
    locate files base part = .error (.noBase relativePart) ↔
      base = none ∧ isWebAddress part = false ∧ (Path.ofText part).isAbsolute = false ∧
        relativePart = part := by
  cases relative : isWebAddress part with
  | true => simp [locate, relative]
  | false =>
    cases base with
    | none =>
      simp only [locate, relative, Bool.false_eq_true, if_false]
      cases (Path.ofText part).isAbsolute <;> simp [eq_comm]
    | some location =>
      simp only [locate, relative, Bool.false_eq_true, if_false]
      cases isWebAddress location with
      | true => cases Url.join location part <;> simp [Except.mapError]
      | false =>
        cases files.realPath ((Path.ofText location).parent.join (Path.ofText part)) <;> simp

end Locate

/-- Why a reference names no document, where that is foreseen: it is relative to nothing, or what it
locates cannot be had, read or parsed. -/
inductive LacksDocument (world : World) (enabled : Bool) (base : Option String) (part : String) :
    String → Prop where
  | noBase (named : part ≠ "") (none : base = none) (relative : isWebAddress part = false)
      (noPath : (Path.ofText part).isAbsolute = false) :
      LacksDocument world enabled base part
        ("relative reference " ++ part ++ " has no document location to resolve against")
  | unloaded {location : String} {fault : LoadFault} (named : part ≠ "")
      (locates : locate world.files base part = .ok location)
      (fails : load world enabled location = .error fault)
      (foreseen : ∀ breakdown, fault ≠ .breakdown breakdown) :
      LacksDocument world enabled base part fault.reason

theorem lacksDocument_iff {world : World} {enabled : Bool} {place : Place} {part reason : String} :
    reach (world.surroundings enabled) place part = .ok (.error reason) ↔
      LacksDocument world enabled place.location part reason := by
  rw [reach_eq_reason_iff]
  dsimp only [World.surroundings]
  constructor
  · rintro ⟨named, ⟨relativePart, fails, rfl⟩ |
      ⟨location, fault, locates, fails, foreseen, rfl⟩⟩
    · obtain ⟨none, relative, noPath, rfl⟩ := locate_eq_noBase_iff.mp fails
      exact .noBase named none relative noPath
    · exact .unloaded named locates fails foreseen
  · rintro (⟨named, none, relative, noPath⟩ | ⟨named, locates, fails, foreseen⟩)
    · exact ⟨named, .inl ⟨part, locate_eq_noBase_iff.mpr ⟨none, relative, noPath, rfl⟩, rfl⟩⟩
    · exact ⟨named, .inr ⟨_, _, locates, fails, foreseen, rfl⟩⟩

/-- Following a reference to a document breaks down: the document cannot be located, or it cannot be
loaded where loading is enabled. -/
inductive BreaksDown (world : World) (enabled : Bool) (base : Option String) (part : String)
    (breakdown : Breakdown) : Prop where
  | unlocatable (named : part ≠ "") (fails : Unlocatable world.files base part breakdown)
  | unloadable {location : String} (named : part ≠ "") (loading : enabled = true)
      (locates : locate world.files base part = .ok location)
      (fails : Unloadable world location breakdown)

theorem breaksDown_iff {world : World} {enabled : Bool} {place : Place} {part : String}
    {failure : Failure} :
    reach (world.surroundings enabled) place part = .error failure ↔
      ∃ breakdown, failure = .breakdown breakdown ∧
        BreaksDown world enabled place.location part breakdown := by
  rw [reach_eq_error_iff]
  dsimp only [World.surroundings]
  refine exists_congr fun breakdown => and_congr_right fun _ => ?_
  rw [locate_eq_breakdown_iff]
  constructor
  · rintro ⟨named, fails | ⟨location, locates, fails⟩⟩
    · exact .unlocatable named fails
    · obtain ⟨loading, fails⟩ := load_eq_breakdown_iff.mp fails
      exact .unloadable named loading locates fails
  · rintro (⟨named, fails⟩ | ⟨named, loading, locates, fails⟩)
    · exact ⟨named, .inl fails⟩
    · exact ⟨named, .inr ⟨_, locates, load_eq_breakdown_iff.mpr ⟨loading, fails⟩⟩⟩

/-! ## Collecting mode in a world -/

section Collecting

variable (world : World) (enabled : Bool) (base : Option String) (tree : Tree)

/-- The failures of a collecting run are the breakdowns of references on the way. -/
theorem resolveCollecting_fails_iff {failure : Failure} :
    (resolveCollecting (world.surroundings enabled) base tree).1 = .error failure ↔
      ∃ inner reference breakdown,
        Reaches (world.surroundings enabled) .collecting (.whole base tree .empty) inner ∧
        inner.RefersBy reference ∧
        BreaksDown world enabled inner.place.location (cut reference).1 breakdown ∧
        failure = .breakdown breakdown := by
  rw [resolveCollecting_eq_error_iff
    (ends_in_world world enabled base tree .collecting .empty (Memory.faithful_empty _))]
  simp only [breaksDown_iff]
  constructor
  · rintro ⟨inner, reference, reaches, refers, breakdown, same, breaks⟩
    exact ⟨inner, reference, breakdown, reaches, refers, breaks, same⟩
  · rintro ⟨inner, reference, breakdown, reaches, refers, breaks, same⟩
    exact ⟨inner, reference, reaches, refers, breakdown, same, breaks⟩

/-- A reference that lacks its document becomes an empty mapping in a run that gives a tree, and its
message is there. -/
theorem lacksDocument_accounted {result : Tree} {messages : List String}
    (collects : resolveCollecting (world.surroundings enabled) base tree = (.ok result, messages))
    {inner : Expansion} {reference reason : String}
    (reaches : Reaches (world.surroundings enabled) .collecting (.whole base tree .empty) inner)
    (refers : inner.RefersBy reference)
    (lacks : LacksDocument world enabled inner.place.location (cut reference).1 reason) :
    inner.BecomesEmpty (world.surroundings enabled) (loadMessage reference reason) ∧
      loadMessage reference reason ∈ messages := by
  have accounts := accounts_of_resolveCollecting collects
  have misses := Expansion.Misses.noDocument refers (lacksDocument_iff.mpr lacks)
  have recorded := accounts.recorded inner _ reaches misses
  exact ⟨accounts.replaced inner _ reaches misses,
    recorded.subset (mem_addNew_iff.mpr (.inr rfl))⟩

end Collecting

/-! ## A reference to a file -/

/-- A world that has at most one file, with the given bytes. -/
def sharedWorld (content : Option (List UInt8)) : World where
  files := ⟨.directory (content.map fun bytes => ("shared.json", .file bytes)).toList, []⟩
  environment := []
  network := []
  standardInput := ""
  terminal := false
  systemName := "Linux"
  homes := []

/-- A definition with a reference to that file. -/
def referringTree : Tree := .mapping [("a", .mapping [("$ref", .text "shared.json#/Node")])]

section SharedWorld

variable (content : Option (List UInt8))

theorem lookup_sharedFile :
    (sharedWorld content).files.lookup ⟨"/", ["shared.json"]⟩ =
      match content with
      | some bytes => .ok (["shared.json"], .file bytes)
      | none => .error .notFound := by
  have text : (⟨"/", ["shared.json"]⟩ : Path).text = "/shared.json" := by decide +kernel
  have size : "/shared.json".utf8ByteSize = 12 := by decide +kernel
  have short : "shared.json".utf8ByteSize = 11 := by decide +kernel
  cases content <;>
    simp [FileSystem.lookup, FileSystem.lookupFrom, FileSystem.startOf, text, size, short,
      sharedWorld, Entry.descend?, Entry.lookup?, pathLimit, longestName, Path.above,
      Path.isAbsolute]

theorem realPath_sharedFile :
    (sharedWorld content).files.realPath ⟨"", ["shared.json"]⟩ = .ok ⟨"/", ["shared.json"]⟩ := by
  have plain : (⟨"", ["shared.json"]⟩ : Path).text.toList.contains '\x00' = false := by
    decide +kernel
  have followed : ((sharedWorld content).files.realFrom (sharedWorld content).files.root.count
      ((sharedWorld content).files.startOf ⟨"", ["shared.json"]⟩) ["shared.json"] []).names =
      ["shared.json"] := by
    cases content <;>
      simp [FileSystem.realFrom, FileSystem.startOf, sharedWorld, Entry.descend?, Entry.lookup?,
        Path.above, Path.isAbsolute]
  have reached : FileSystem.collapse ["shared.json"] = ["shared.json"] := by decide +kernel
  unfold FileSystem.realPath
  simp only [plain, Bool.false_eq_true, if_false, followed, reached, lookup_sharedFile]
  cases content <;> rfl

theorem locate_sharedFile :
    locate (sharedWorld content).files (some "root.json") "shared.json" = .ok "/shared.json" := by
  have part : isWebAddress "shared.json" = false := by decide +kernel
  have root : isWebAddress "root.json" = false := by decide +kernel
  have path : (Path.ofText "root.json").parent.join (Path.ofText "shared.json") =
      ⟨"", ["shared.json"]⟩ := by decide +kernel
  simp only [locate, part, root, Bool.false_eq_true, if_false, path, realPath_sharedFile]
  decide +kernel

theorem readBytes_sharedFile :
    (sharedWorld content).files.readBytes (Path.ofText "/shared.json") =
      match content with
      | some bytes => .ok bytes
      | none => .error (.refused ⟨.notFound, "/shared.json"⟩) := by
  have path : Path.ofText "/shared.json" = ⟨"/", ["shared.json"]⟩ := by decide +kernel
  have text : (⟨"/", ["shared.json"]⟩ : Path).text = "/shared.json" := by decide +kernel
  have plain : "/shared.json".toList.contains '\x00' = false := by decide +kernel
  rw [FileSystem.readBytes, path, FileSystem.entryAt, text, plain, lookup_sharedFile]
  cases content <;> rfl

end SharedWorld

theorem load_missingFile :
    load (sharedWorld none) true "/shared.json" =
      .error (.unreadable "/shared.json" ⟨.notFound, "/shared.json"⟩) := by
  have file : isWebAddress "/shared.json" = false := by decide +kernel
  have refused := FileSystem.readText_of_error (readBytes_sharedFile none)
  rw [load_eq, textAt, if_neg (by simp [file])]
  unfold readFile
  rw [refused]
  rfl

theorem cut_shared : cut "shared.json#/Node" = ("shared.json", "/Node") := by decide +kernel

/-- The message about the reference where there is no file. -/
def missingMessage : String :=
  "Unable to load remote reference shared.json#/Node: cannot read /shared.json: " ++
    "[Errno 2] No such file or directory: '/shared.json'"

theorem resolveCollecting_of_missing :
    resolveCollecting ((sharedWorld none).surroundings true) (some "root.json") referringTree =
      (.ok (.mapping [("a", .mapping [])]), [missingMessage]) := by
  have reaches : reach ((sharedWorld none).surroundings true) ⟨referringTree, some "root.json"⟩
      (cut "shared.json#/Node").1 = .ok (.error
        (LoadFault.unreadable "/shared.json" ⟨.notFound, "/shared.json"⟩).reason) := by
    have named : ("shared.json" == "") = false := by decide +kernel
    simp only [reach, cut_shared, named, Bool.false_eq_true, if_false, World.surroundings, fetched,
      locate_sharedFile, load_missingFile]
  have message : loadMessage "shared.json#/Node"
      (LoadFault.unreadable "/shared.json" ⟨.notFound, "/shared.json"⟩).reason =
        missingMessage := by
    decide +kernel
  obtain ⟨after, leads, _, silent⟩ := lead_run (Memory.faithful_empty _)
    ⟨referringTree, some "root.json"⟩ [] "shared.json#/Node"
  rw [leadOf_eq_noDocument_iff.mpr reaches] at leads
  have reference : Expands ((sharedWorld none).surroundings true) .collecting
      ⟨referringTree, some "root.json"⟩ [] (.mapping [("$ref", .text "shared.json#/Node")]) .empty
      (.ok (.mapping []), { after with messages := addNew after.messages missingMessage }) :=
    message ▸ .noDocument rfl leads
  have whole : Expands ((sharedWorld none).surroundings true) .collecting
      ⟨referringTree, some "root.json"⟩ [] referringTree .empty _ :=
    .mapping rfl (.cons reference .nil)
  rw [resolveCollecting_of_expands whole, silent]
  rfl

end ApiAdmission.Reference
