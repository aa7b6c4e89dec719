import ApiAdmission.Proofs.Reference.Isolation
import ApiAdmission.Proofs.Reference.Requests
import ApiAdmission.Proofs.Url.Scheme
import ApiAdmission.Proofs.World.Lookup

/-!
# What a fetched document can reach

A reference in a document from a web address is read against that address, and names a web address
again, with one exception: a part with a scheme of its own that is not the one of the address stands
for itself, and unless it begins as a web address does, it is taken for the path of a file
(`Strays`).  The schemes are compared in small letters and the beginnings are not, so `HTTP://h/x`
is such a part in a document from an `https` address.

So what is fetched stays on the web until a reference strays (`Reaches.fetched_or_strays`), and a
file is read because of it exactly if one does and loading is enabled
(`fetched_document_reads_file_iff`).
-/

namespace ApiAdmission.Reference

set_option autoImplicit false

/-! ## Where the parts of a fetched document are -/

/-- A part in a document from an address is taken for a file: it begins as no web address, and has a
scheme of its own that is not the scheme of the address. -/
def Strays (address part : String) : Prop :=
  isWebAddress part = false ∧ Url.Foreign address part

section Locate

variable {files : FileSystem} {address part location : String}
  (web : isWebAddress address = true) (locates : locate files (some address) part = .ok location)
include web locates

/-- A part that is no web address is joined to the address. -/
theorem join_of_locate (relative : isWebAddress part = false) :
    Url.join address part = .ok location := by
  simpa [locate, relative, web, mapError_eq_ok_iff] using locates

/-- A straying part is its own location. -/
theorem locate_of_strays (strays : Strays address part) : location = part :=
  Url.join_of_foreign web strays.2 (join_of_locate web locates strays.1)

/-- The location of a part is a web address exactly if the part does not stray. -/
theorem isWebAddress_locate_iff : isWebAddress location = true ↔ ¬ Strays address part := by
  constructor
  · intro there strays
    rw [locate_of_strays web locates strays, strays.1] at there
    cases there
  · intro keeps
    cases relative : isWebAddress part with
    | true =>
      have itself : part = location := by simpa [locate, relative] using locates
      exact itself ▸ relative
    | false =>
      have native : ¬ Url.Foreign address part := fun foreign => keeps ⟨relative, foreign⟩
      exact Url.isWebAddress_join web native (join_of_locate web locates relative)

end Locate

/-! ## Runs on the web -/

/-- An expansion stands in a document from a web address. -/
def Expansion.Fetched (expansion : Expansion) : Prop :=
  ∃ address, expansion.place.location = some address ∧ isWebAddress address = true

/-- It is that of a reference whose part strays, and is located. -/
structure Expansion.Strays (surroundings : Surroundings) (expansion : Expansion) (part : String) :
    Prop where
  fetched : ∃ address, expansion.place.location = some address ∧ isWebAddress address = true ∧
    Reference.Strays address part
  refers : ∃ reference, expansion.RefersBy reference ∧ (cut reference).1 = part ∧
    expansion.place.Names surroundings part part

section Runs

variable {loader : Loader} {world : World} {now : Int} {mode : Mode}

/-- What a reference of a fetched document names is a web address, or the reference strays. -/
theorem Expansion.Fetched.strays_of_names {expansion : Expansion} (fetched : expansion.Fetched)
    {location : String} (names : expansion.Names (loader.surroundings world now) location)
    (file : isWebAddress location = false) :
    expansion.Strays (loader.surroundings world now) location := by
  obtain ⟨address, here, web⟩ := fetched
  obtain ⟨reference, refers, named, locates⟩ := names
  have located : locate world.files (some address) (cut reference).1 = .ok location :=
    here ▸ locates
  have strays : Reference.Strays address (cut reference).1 := by
    by_contra keeps
    cases file.symm.trans ((isWebAddress_locate_iff web located).mpr keeps)
  have itself := locate_of_strays web located strays
  subst itself
  exact ⟨⟨address, here, web, strays⟩, reference, refers, rfl, named, locates⟩

/-- A call from a fetched document enters a fetched document, or it is that of a reference that
strays. -/
theorem Enters.fetched_or_strays {outer inner : Expansion}
    (faithful : outer.memory.Faithful (loader.surroundings world now))
    (enters : Enters (loader.surroundings world now) mode outer inner) (fetched : outer.Fetched) :
    inner.Fetched ∨ ∃ part, outer.Strays (loader.surroundings world now) part := by
  cases enters with
  | value found leads =>
    obtain ⟨reaches, _⟩ := leadOf_eq_value_iff.mp (lead_run_inv faithful leads).1
    rcases reach_cases reaches with ⟨_, rfl⟩ | ⟨named, location, locates, located, _⟩
    · exact .inl fetched
    · cases web : isWebAddress location with
      | true => exact .inl ⟨location, located, web⟩
      | false =>
        exact .inr ⟨location, fetched.strays_of_names ⟨_, ⟨_, rfl, found⟩, named, locates⟩ web⟩
  | _ => exact .inl fetched

/-- **What is fetched stays on the web until a reference strays.** -/
theorem Reaches.fetched_or_strays {start inner : Expansion}
    (faithful : start.memory.Faithful (loader.surroundings world now)) (fetched : start.Fetched)
    (reaches : Reaches (loader.surroundings world now) mode start inner) :
    inner.Fetched ∨ ∃ middle part, Reaches (loader.surroundings world now) mode start middle ∧
      middle.Strays (loader.surroundings world now) part := by
  induction reaches with
  | refl => exact .inl fetched
  | @tail middle inner before enters ih =>
    rcases ih with here | strayed
    · have known := Reaches.keeps (kept_faithful _) before faithful
      exact (enters.fetched_or_strays known here).imp_right
        fun ⟨part, strays⟩ => ⟨middle, part, before, strays⟩
    · exact .inr strayed

/-! ## Files that are read -/

/-- A loading looks at a file exactly if it is enabled and the location is no web address. -/
theorem file_mem_accesses_iff {location file : String} :
    .file file ∈ (loader.load world now location).accesses ↔
      loader.enabled = true ∧ isWebAddress location = false ∧ file = location := by
  cases on : loader.enabled with
  | false => simp [Loader.load_of_disabled on]
  | true =>
    cases web : isWebAddress location with
    | false => simp [Loader.load_of_file on web]
    | true =>
      cases bare : loader.cache with
      | none => simp [Loader.load_without_cache on web bare]
      | some cache =>
        simp only [Loader.load, on, web, bare, Bool.not_true, Bool.false_eq_true, if_false,
          Loader.lookups, reduceCtorEq, false_and, and_false, iff_false]
        split <;> split <;> simp

theorem enabled_load (location : String) :
    (loader.load world now location).loader.enabled = loader.enabled := by
  unfold Loader.load
  split
  · rfl
  · split
    · rfl
    · split <;> rfl

theorem file_mem_accessesOf_iff {locations : List String} {file : String} :
    .file file ∈ (accessesOf loader world now locations).2 ↔
      loader.enabled = true ∧ isWebAddress file = false ∧ file ∈ locations := by
  induction locations generalizing loader with
  | nil => simp [accessesOf]
  | cons location rest ih =>
    simp only [accessesOf, List.mem_append, ih, file_mem_accesses_iff, enabled_load,
      List.mem_cons]
    constructor
    · rintro (⟨on, file, rfl⟩ | ⟨on, file, later⟩)
      · exact ⟨on, file, .inl rfl⟩
      · exact ⟨on, file, .inr later⟩
    · rintro ⟨on, file, rfl | later⟩
      · exact .inl ⟨on, file, rfl⟩
      · exact .inr ⟨on, file, later⟩

/-- What a file holds that a path leads to is loaded. -/
theorem load_of_leads {location : String} {content : List UInt8} {characters : List Char}
    {tree : Tree} (file : isWebAddress location = false)
    (leads : world.files.Leads (Path.ofText location) (.file content))
    (decodes : Utf8.decode content = .ok characters)
    (parses : parse (String.ofList (Text.normalizeNewlines characters)) = .ok tree) :
    load world true location = .ok tree := by
  refine load_eq_ok_iff.mpr ⟨rfl, _, ?_, parses⟩
  rw [textAt, if_neg (by simp [file])]
  exact readFile_eq_ok_iff.mpr (leads.readText decodes)

theorem follow_whole (tree : Tree) : tree.follow "" = .ok tree := rfl

/-- A reference to a whole document that loads leads to it. -/
theorem lead_whole {surroundings : Surroundings} {place : Place} {part location : String}
    {root : Tree} {memory : Memory} (seen : List String) (faithful : memory.Faithful surroundings)
    (whole : cut part = (part, "")) (names : place.Names surroundings part location)
    (loads : surroundings.load location = .ok root)
    (new : cycleKey (some location) "" ∉ seen) :
    ∃ after, (lead surroundings place seen part).run.run memory =
        (.ok (.value ⟨root, some location⟩ (cycleKey (some location) "") root), after) ∧
      after.Faithful surroundings ∧ after.messages = memory.messages := by
  obtain ⟨after, leads, known, silent⟩ := lead_run faithful place seen part
  refine ⟨after, ?_, known, silent⟩
  rw [leads]
  refine congrArg (·, after) (leadOf_eq_value_iff.mpr ?_)
  rw [whole]
  exact ⟨reach_of_load names.1 names.2 loads, rfl, new, follow_whole root⟩

/-- **Fetched content reaches a file exactly through a scheme that is not its own.**  The location
that a reference of a fetched document names is a web address unless its part strays, and then it is
the part.  Whatever the network answers, a file that such content names is read until the end of its
expansion exactly if loading is enabled and a reference strays on the way. -/
theorem fetched_document_reads_file_iff (loader : Loader) (world : World) (now : Int) (mode : Mode)
    (base : Option String) (tree : Tree) :
    (∀ address part location, isWebAddress address = true →
      locate world.files (some address) part = .ok location →
      (isWebAddress location = true ↔ ¬ Strays address part) ∧
        (Strays address part → location = part)) ∧
    ∀ start failure after,
      Reaches (loader.surroundings world now) mode (.whole base tree .empty) start →
      start.Fetched → start.EndsWith (loader.surroundings world now) mode failure after →
      ((∃ inner file, Reaches (loader.surroundings world now) mode start inner ∧
          inner.Names (loader.surroundings world now) file ∧
          .file file ∈ (accessesOf loader world now after.requests).2) ↔
        loader.enabled = true ∧
          ∃ inner part, Reaches (loader.surroundings world now) mode start inner ∧
            inner.Strays (loader.surroundings world now) part) := by
  refine ⟨fun address part location web locates =>
    ⟨isWebAddress_locate_iff web locates, locate_of_strays web locates⟩, ?_⟩
  intro start failure after reaches fetched ends
  have known := reaches.keeps (kept_asked _) Memory.asked_empty
  constructor
  · rintro ⟨inner, file, onward, names, read⟩
    obtain ⟨on, plain, _⟩ := file_mem_accessesOf_iff.mp read
    refine ⟨on, ?_⟩
    rcases onward.fetched_or_strays reaches.faithful fetched with here | strayed
    · exact ⟨inner, file, onward, here.strays_of_names names plain⟩
    · exact strayed
  · rintro ⟨on, inner, part, onward, ⟨address, _, _, plain, _⟩, reference, refers, rfl, names⟩
    have named : inner.Names (loader.surroundings world now) (cut reference).1 :=
      ⟨reference, refers, names⟩
    have asked := (mem_requests_iff known ends).mpr (.inr ⟨inner, onward, named⟩)
    exact ⟨inner, _, onward, named, file_mem_accessesOf_iff.mpr ⟨on, plain, asked⟩⟩

end Runs

/-! ## A foreign scheme in capitals -/

section Straying

/-- A document with a reference to a web address whose scheme is written in capitals. -/
def strayingText : String := "\x7b\"a\": \x7b\"$ref\": \"HTTP://h/pet.json\"\x7d\x7d"

/-- What a file holds whose path is written like that address. -/
def localText : String := "\x7b\"kept\": \"local\"\x7d"

/-- A world with the document, with the one that it refers to, and with the file. -/
def strayingWorld : World where
  files := ⟨.directory [("HTTP:", .directory [("h", .directory
    [("pet.json", .file (asciiBytes localText))])])], []⟩
  environment := []
  network := [("https://h/doc.json", .response 200 strayingText),
    ("http://h/pet.json", .response 200 "\x7b\"kept\": \"remote\"\x7d")]
  standardInput := ""
  terminal := false
  systemName := "Linux"
  homes := []

/-- A loader without a cache. -/
def plainLoader : Loader := ⟨true, none⟩

/-- What work asks of that world. -/
abbrev strayingSurroundings : Surroundings := plainLoader.surroundings strayingWorld 0

/-- A tree that is a reference to the document. -/
def leadingTree : Tree := .mapping [("$ref", .text "https://h/doc.json")]

/-- The document. -/
def strayingTree : Tree := .mapping [("a", .mapping [("$ref", .text "HTTP://h/pet.json")])]

/-- The content of the file. -/
def localTree : Tree := .mapping [("kept", .text "local")]

/-- Where the document stands. -/
def strayingPlace : Place := ⟨strayingTree, some "https://h/doc.json"⟩

theorem load_strayingText : strayingSurroundings.load "https://h/doc.json" = .ok strayingTree := rfl

theorem load_localText : strayingSurroundings.load "HTTP://h/pet.json" = .ok localTree := by
  have file : isWebAddress "HTTP://h/pet.json" = false := rfl
  have leads : strayingWorld.files.Leads (Path.ofText "HTTP://h/pet.json")
      (.file (asciiBytes localText)) := ⟨by decide, by decide, by decide, nofun, rfl⟩
  have decodes : Utf8.decode (asciiBytes localText) = .ok localText.toList := rfl
  show (plainLoader.load strayingWorld 0 "HTTP://h/pet.json").tree = _
  rw [Loader.load_of_file rfl file]
  exact load_of_leads file leads decodes rfl

theorem names_strayingText : (⟨leadingTree, some "root.json"⟩ : Place).Names strayingSurroundings
    "https://h/doc.json" "https://h/doc.json" :=
  ⟨by decide, rfl⟩

theorem names_localText :
    strayingPlace.Names strayingSurroundings "HTTP://h/pet.json" "HTTP://h/pet.json" :=
  ⟨by decide, rfl⟩

theorem strays_capitals : Strays "https://h/doc.json" "HTTP://h/pet.json" :=
  ⟨rfl, "http", rfl, by decide⟩

/-- The run from the tree to the document and through it: what stands in the document in the end is
the content of the file. -/
theorem straying_run :
    ∃ known after,
      Reaches strayingSurroundings .collecting (.whole (some "root.json") leadingTree .empty)
        ⟨strayingPlace, ["https://h/doc.json#"], .tree strayingTree, known⟩ ∧
      Expands strayingSurroundings .collecting strayingPlace ["https://h/doc.json#"] strayingTree
        known (.ok (.mapping [("a", localTree)]), after) ∧
      resolveCollecting strayingSurroundings (some "root.json") leadingTree =
        (.ok (.mapping [("a", localTree)]), []) := by
  obtain ⟨known, leads, faithful, silent⟩ :=
    lead_whole [] (Memory.faithful_empty strayingSurroundings) rfl names_strayingText
      load_strayingText nofun
  obtain ⟨after, leadsOn, _, silentOn⟩ :=
    lead_whole ["https://h/doc.json#"] faithful rfl names_localText load_localText (by decide)
  have scalar : Expands strayingSurroundings .collecting ⟨localTree, some "HTTP://h/pet.json"⟩
      ["HTTP://h/pet.json#", "https://h/doc.json#"] (.text "local") after
      (.ok (.text "local"), after) :=
    .scalar nofun nofun
  have content : Expands strayingSurroundings .collecting
      ⟨localTree, some "HTTP://h/pet.json"⟩ ["HTTP://h/pet.json#", "https://h/doc.json#"] localTree
      after (.ok localTree, after) :=
    .mapping rfl (.cons scalar .nil)
  have document : Expands strayingSurroundings .collecting strayingPlace ["https://h/doc.json#"]
      strayingTree known (.ok (.mapping [("a", localTree)]), after) :=
    .mapping rfl (.cons (.value rfl leadsOn content) .nil)
  have whole : Expands strayingSurroundings .collecting ⟨leadingTree, some "root.json"⟩ []
      leadingTree .empty (.ok (.mapping [("a", localTree)]), after) :=
    .value rfl leads document
  refine ⟨known, after, .single (.value rfl leads), document, ?_⟩
  rw [resolveCollecting_of_expands whole, silentOn, silent]
  rfl

theorem reaches_capitals (known : Memory) :
    Reaches strayingSurroundings .collecting
      ⟨strayingPlace, ["https://h/doc.json#"], .tree strayingTree, known⟩
      ⟨strayingPlace, ["https://h/doc.json#"],
        .tree (.mapping [("$ref", .text "HTTP://h/pet.json")]), known⟩ :=
  (Relation.ReflTransGen.single (.entries rfl)).tail .entry

/-- A relative part of the document does not stray, but the one with a foreign scheme does, and a
file is read because of it. -/
theorem fetched_document_reads_file_strayingWorld :
    locate strayingWorld.files (some "https://h/doc.json") "pet.json" = .ok "https://h/pet.json" ∧
    ¬ Strays "https://h/doc.json" "pet.json" ∧
    Strays "https://h/doc.json" "HTTP://h/pet.json" ∧
    ∃ start after inner file,
      Reaches strayingSurroundings .collecting (.whole (some "root.json") leadingTree .empty)
        start ∧
      start.Fetched ∧ start.EndsWith strayingSurroundings .collecting none after ∧
      Reaches strayingSurroundings .collecting start inner ∧
      inner.Names strayingSurroundings file ∧
      .file file ∈ (accessesOf plainLoader strayingWorld 0 after.requests).2 := by
  obtain ⟨located, reads⟩ := fetched_document_reads_file_iff plainLoader strayingWorld 0 .collecting
    (some "root.json") leadingTree
  obtain ⟨known, after, reaches, document, _⟩ := straying_run
  have relative : locate strayingWorld.files (some "https://h/doc.json") "pet.json" =
      .ok "https://h/pet.json" := rfl
  have fetched : (⟨strayingPlace, ["https://h/doc.json#"], .tree strayingTree, known⟩ :
      Expansion).Fetched := ⟨_, rfl, rfl⟩
  obtain ⟨inner, file, onward, names, read⟩ :=
    (reads _ _ _ reaches fetched ⟨_, rfl, document⟩).mpr ⟨rfl, _, _, reaches_capitals known,
      ⟨_, rfl, rfl, strays_capitals⟩, _, ⟨_, rfl, rfl⟩, rfl, names_localText⟩
  exact ⟨relative, ((located _ _ _ rfl relative).1).mp rfl, strays_capitals, _, after, inner, file,
    reaches, fetched, ⟨_, rfl, document⟩, onward, names, read⟩

/-- A document from the web has a reference whose location is no web address, and the content of a
file takes its place. -/
theorem capitals_name_file :
    (∃ inner reference location,
      Reaches strayingSurroundings .collecting (.whole (some "root.json") leadingTree .empty)
        inner ∧
      inner.Fetched ∧ inner.RefersBy reference ∧ (cut reference).1 ≠ "" ∧
      locate strayingWorld.files inner.place.location (cut reference).1 = .ok location ∧
      isWebAddress location = false) ∧
    resolveCollecting strayingSurroundings (some "root.json") leadingTree =
      (.ok (.mapping [("a", localTree)]), []) := by
  obtain ⟨known, after, reaches, _, collects⟩ := straying_run
  exact ⟨⟨_, "HTTP://h/pet.json", "HTTP://h/pet.json", reaches.trans (reaches_capitals known),
    ⟨_, rfl, rfl⟩, ⟨_, rfl, rfl⟩, names_localText.1, names_localText.2, rfl⟩, collects⟩

end Straying

end ApiAdmission.Reference
