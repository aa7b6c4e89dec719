import ApiAdmission.Proofs.Reference.Outcomes
import ApiAdmission.Proofs.Reference.Termination
import ApiAdmission.Proofs.World.RealPath
import ApiAdmission.Proofs.World.TextFile

/-!
# References in a world

What loads in a world is a text of a file or of the network that can be read (`load_eq_ok_iff`), and
loading breaks down only over a file with a null character in its path or with bytes that are no
UTF-8, and over a text that breaks its own reading down (`load_eq_breakdown_iff`).

References in a world lead to finitely many documents: their trees come from finitely many files and
answers of the network, and their locations from the references that are written in these trees
(`exists_closed`).  So replacing references ends in every world (`ends_in_world`).  Finitely many
texts alone would not do, since infinitely many paths lead to one file.  But the paths that
references lead to are real, and no real path that can be read is longer than a fixed limit.
-/

namespace ApiAdmission.Reference

set_option autoImplicit false

/-! ## What loads in a world -/

section Loading

variable {world : World} {enabled : Bool} {location text : String} {tree : Tree}
  {breakdown : Breakdown}

/-- The text that a world has at a location. -/
def textAt (world : World) (location : String) : Except LoadFault String :=
  if isWebAddress location then fetch world location else readFile world location

/-- Nothing loads where loading is disabled. -/
theorem load_of_disabled (world : World) (location : String) :
    load world false location = .error .disabled := rfl

/-- Loading is having the text and reading it. -/
theorem load_eq (world : World) (location : String) :
    load world true location = (textAt world location).bind (readLoaded location) := by
  unfold load textAt
  cases isWebAddress location with
  | false => simp only [Bool.not_true, Bool.false_eq_true, if_false]; rfl
  | true => simp only [Bool.not_true, Bool.false_eq_true, if_false, if_true]; rfl

/-- The file at a location is read as the file system reads it. -/
theorem readFile_eq_ok_iff :
    readFile world location = .ok text ↔
      world.files.readText (Path.ofText location) = .ok text := by
  unfold readFile
  split <;> simp_all

/-- What is no refusal breaks reading a file down. -/
theorem readFile_eq_breakdown_iff :
    readFile world location = .error (.breakdown breakdown) ↔
      world.files.readText (Path.ofText location) = .error breakdown ∧
        ∀ refusal, breakdown ≠ .refused refusal := by
  unfold readFile
  split
  case h_1 reads => simp [reads]
  case h_2 refusal reads =>
    simp only [reads, Except.error.injEq, reduceCtorEq, false_iff, not_and, not_forall, not_not]
    rintro rfl
    exact ⟨refusal, rfl⟩
  case h_3 unforeseen reads =>
    simp only [reads, Except.error.injEq, LoadFault.breakdown.injEq, iff_self_and]
    rintro rfl refusal rfl
    exact unforeseen refusal rfl

/-- Asking the network does not break down. -/
theorem fetch_ne_breakdown : fetch world location ≠ .error (.breakdown breakdown) := by
  unfold fetch
  split
  · split <;> exact nofun
  · exact nofun

/-- Why there is no text at a location, where nobody foresees it: the path of a file has a null
character, or its bytes are no UTF-8. -/
inductive Textless (world : World) (location : String) : Breakdown → Prop where
  | nullInPath (null : '\x00' ∈ (Path.ofText location).text.toList) :
      Textless world location FileSystem.nullInPath
  | undecodable {bytes : List UInt8} {fault : Utf8.Fault}
      (stored : world.files.readBytes (Path.ofText location) = .ok bytes)
      (broken : Utf8.decode bytes = .error fault) :
      Textless world location (.undecodable fault)

theorem textAt_eq_breakdown_iff :
    textAt world location = .error (.breakdown breakdown) ↔
      isWebAddress location = false ∧ Textless world location breakdown := by
  unfold textAt
  split
  case isTrue web => simp [web, fetch_ne_breakdown]
  case isFalse plain =>
    rw [readFile_eq_breakdown_iff, FileSystem.readText_eq_error_iff]
    simp only [Bool.eq_false_of_not_eq_true plain, true_and]
    constructor
    · rintro ⟨⟨refusal, _, rfl⟩ | ⟨null, rfl⟩ | ⟨bytes, fault, stored, broken, rfl⟩, unforeseen⟩
      · exact absurd rfl (unforeseen refusal)
      · exact .nullInPath null
      · exact .undecodable stored broken
    · rintro (null | ⟨stored, broken⟩)
      · exact ⟨.inr (.inl ⟨null, rfl⟩), nofun⟩
      · exact ⟨.inr (.inr ⟨_, _, stored, broken, rfl⟩), nofun⟩

theorem readLoaded_eq_ok_iff : readLoaded location text = .ok tree ↔ parse text = .ok tree := by
  unfold readLoaded
  split <;> simp_all

theorem readLoaded_eq_breakdown_iff :
    readLoaded location text = .error (.breakdown breakdown) ↔
      parse text = .error (.breakdown breakdown) := by
  unfold readLoaded
  split <;> simp_all

/-- What loads is a text that is read. -/
theorem load_eq_ok_iff :
    load world enabled location = .ok tree ↔
      enabled = true ∧ ∃ text, textAt world location = .ok text ∧ parse text = .ok tree := by
  cases enabled with
  | false => simp [load_of_disabled]
  | true =>
    rw [load_eq]
    cases textAt world location <;> simp [Except.bind, readLoaded_eq_ok_iff]

/-- Why loading what is at a location breaks down: there is no text in a file, or the text breaks
its own reading down. -/
inductive Unloadable (world : World) (location : String) (breakdown : Breakdown) : Prop where
  | textless (file : isWebAddress location = false) (fails : Textless world location breakdown)
  | unreadable {text : String} (there : textAt world location = .ok text)
      (breaks : parse text = .error (.breakdown breakdown))

theorem load_eq_breakdown_iff :
    load world enabled location = .error (.breakdown breakdown) ↔
      enabled = true ∧ Unloadable world location breakdown := by
  cases enabled with
  | false => simp [load_of_disabled]
  | true =>
    rw [load_eq]
    cases there : textAt world location with
    | error fault =>
      constructor
      · rintro ⟨⟩
        obtain ⟨file, fails⟩ := textAt_eq_breakdown_iff.mp there
        exact ⟨rfl, .textless file fails⟩
      · rintro ⟨-, ⟨file, fails⟩ | ⟨found, breaks⟩⟩
        · cases there.symm.trans (textAt_eq_breakdown_iff.mpr ⟨file, fails⟩)
          rfl
        · cases there.symm.trans found
    | ok text =>
      rw [Except.bind, readLoaded_eq_breakdown_iff]
      constructor
      · exact fun breaks => ⟨rfl, .unreadable there breaks⟩
      · rintro ⟨-, ⟨file, fails⟩ | ⟨found, breaks⟩⟩
        · cases there.symm.trans (textAt_eq_breakdown_iff.mpr ⟨file, fails⟩)
        · cases there.symm.trans found
          exact breaks

/-- What the network has is one of its answers. -/
theorem answer_of_fetch (fetches : fetch world location = .ok text) :
    ∃ status, (location, NetworkAnswer.response status text) ∈ world.network := by
  unfold fetch World.ask at fetches
  cases found : world.network.find? fun entry => entry.1 == location with
  | none =>
    rw [found] at fetches
    cases fetches
  | some entry =>
    obtain ⟨address, answer⟩ := entry
    have same : address = location := by simpa using List.find?_some found
    rw [found] at fetches
    cases answer with
    | unreachable reason => cases fetches
    | response status body =>
      simp only [Option.map_some, Option.getD_some] at fetches
      split at fetches
      · cases fetches
        exact ⟨status, same ▸ List.mem_of_find?_eq_some found⟩
      · cases fetches

/-- The words of an answer: its body, or why there is none. -/
def wordsOf : NetworkAnswer → String
  | .response _ body => body
  | .unreachable reason => reason

/-- The texts that there are in a world: bodies of answers, and files. -/
def texts (world : World) : Set String :=
  {text | ∃ location status, (location, NetworkAnswer.response status text) ∈ world.network} ∪
    {text | ∃ path, world.files.readText path = .ok text}

theorem mem_texts (there : textAt world location = .ok text) : text ∈ texts world := by
  unfold textAt at there
  split at there
  case isTrue =>
    obtain ⟨status, member⟩ := answer_of_fetch there
    exact .inl ⟨location, status, member⟩
  case isFalse => exact .inr ⟨_, readFile_eq_ok_iff.mp there⟩

theorem finite_texts (world : World) : (texts world).Finite := by
  refine Set.Finite.union ?_ world.files.finite_texts
  refine (List.finite_toSet (world.network.map fun entry => wordsOf entry.2)).subset ?_
  rintro text ⟨location, status, member⟩
  exact List.mem_map.mpr ⟨_, member, rfl⟩

/-- The trees that load in a world. -/
def loadable (world : World) (enabled : Bool) : Set Tree :=
  {tree | ∃ location, load world enabled location = .ok tree}

theorem finite_loadable (world : World) (enabled : Bool) : (loadable world enabled).Finite := by
  refine ((finite_texts world).image fun text => (parse text).toOption.getD .null).subset ?_
  rintro tree ⟨location, loads⟩
  obtain ⟨-, text, there, parsed⟩ := load_eq_ok_iff.mp loads
  exact ⟨text, mem_texts there, by simp [parsed, Except.toOption]⟩

end Loading

/-! ## Where references in a world lead -/

section Closed

variable (world : World) (enabled : Bool) (base : Option String) (tree : Tree)

/-- The parts of references that name documents, in a tree and in all documents that load. -/
def namedParts : Set String :=
  ⋃ root ∈ insert tree (loadable world enabled),
    {part | part ∈ (writtenIn root).map fun reference => (cut reference).1}

/-- The web addresses that references can be relative to. -/
def webBases : Set String :=
  {location | base = some location} ∪
    {location | isWebAddress location = true ∧ ∃ tree, load world enabled location = .ok tree}

/-- The locations that references can lead to: parts as they are written, parts that are joined to
an address, and real paths. -/
def reachable : Set String :=
  namedParts world enabled tree ∪
    (Set.image2 (fun address part => (Url.join address part).toOption.getD "")
      (webBases world enabled base) (namedParts world enabled tree) ∪
    {location | ∃ path real, (∀ name ∈ path.names, Path.IsName name) ∧
      world.files.realPath path = .ok real ∧ location = real.text ∧
      (Path.ofText location).text.utf8ByteSize < pathLimit})

theorem finite_reachable : (reachable world enabled base tree).Finite := by
  have parts : (namedParts world enabled tree).Finite :=
    ((finite_loadable world enabled).insert tree).biUnion fun root _ => List.finite_toSet _
  have bases : (webBases world enabled base).Finite := by
    refine (Set.finite_singleton (base.getD "")).union
      (List.finite_toSet (world.network.map Prod.fst)) |>.subset ?_
    rintro location (same | ⟨web, document, loads⟩)
    · cases base with
      | none => cases same
      | some address =>
        cases same
        exact .inl rfl
    · obtain ⟨-, text, there, -⟩ := load_eq_ok_iff.mp loads
      rw [textAt, if_pos web] at there
      obtain ⟨status, member⟩ := answer_of_fetch there
      exact .inr (List.mem_map.mpr ⟨_, member, rfl⟩)
  exact parts.union ((bases.image2 _ parts).union world.files.finite_reals)

variable {world enabled base tree}

/-- The names of a part that is read as a path from the directory of a base. -/
theorem isName_of_mem_relative {address part : String} :
    ∀ name ∈ ((Path.ofText address).parent.join (Path.ofText part)).names, Path.IsName name := by
  intro name member
  unfold Path.join at member
  split at member
  · exact Path.isName_of_mem_namesOf member
  · rcases List.mem_append.mp member with here | there
    · exact Path.isName_of_mem_namesOf (List.mem_of_mem_dropLast here)
    · exact Path.isName_of_mem_namesOf there

/-- A real path is no web address. -/
theorem isWebAddress_realPath {files : FileSystem} {path real : Path}
    (leads : files.realPath path = .ok real) : isWebAddress real.text = false := by
  have first : real.text.toList = '/' :: (Text.join "/" real.names).toList := by
    rw [FileSystem.text_realPath leads]
    simp
  simp [isWebAddress, Text.startsWith, first, List.isPrefixOf]

/-- A named document that loads is at one of these locations. -/
theorem mem_reachable {here : Option String} {part location : String} {document : Tree}
    (from_base : ∀ address, here = some address → isWebAddress address = true →
      address ∈ webBases world enabled base)
    (named : part ∈ namedParts world enabled tree)
    (locates : locate world.files here part = .ok location)
    (loads : load world enabled location = .ok document) :
    location ∈ reachable world enabled base tree := by
  unfold locate at locates
  split at locates
  case isTrue =>
    cases locates
    exact .inl named
  case isFalse =>
    cases here with
    | none =>
      dsimp only at locates
      split at locates
      · cases locates
        exact .inl named
      · cases locates
    | some address =>
      dsimp only at locates
      split at locates
      case isTrue web =>
        cases joins : Url.join address part with
        | error breakdown =>
          rw [joins] at locates
          cases locates
        | ok joined =>
          rw [joins] at locates
          cases locates
          exact .inr (.inl ⟨address, from_base address rfl web, part, named,
            by simp [joins, Except.toOption]⟩)
      case isFalse =>
        split at locates
        case h_2 => cases locates
        case h_1 real leads =>
          cases locates
          refine .inr (.inr ⟨_, real, isName_of_mem_relative, leads, rfl, ?_⟩)
          obtain ⟨-, text, there, -⟩ := load_eq_ok_iff.mp loads
          rw [textAt, if_neg (by simp [isWebAddress_realPath leads])] at there
          exact (FileSystem.of_readText (readFile_eq_ok_iff.mp there)).1

variable (world enabled base tree)

/-- **The documents that references in a world lead to are closed.** -/
theorem exists_closed :
    ∃ documents, Closed (world.surroundings enabled) ⟨tree, base⟩ documents := by
  have finite : {document : String × Tree | document.1 ∈ reachable world enabled base tree ∧
      load world enabled document.1 = .ok document.2}.Finite := by
    refine ((finite_reachable world enabled base tree).prod
      (finite_loadable world enabled)).subset ?_
    rintro ⟨location, document⟩ ⟨member, loads⟩
    exact ⟨member, location, loads⟩
  obtain ⟨documents, known⟩ := finite.exists_finset_coe
  have mem_documents : ∀ {location document}, (location, document) ∈ documents.toList ↔
      location ∈ reachable world enabled base tree ∧
        load world enabled location = .ok document := by
    intro location document
    rw [Finset.mem_toList, ← Finset.mem_coe, known]
    exact Iff.rfl
  refine ⟨documents.toList, fun place standing reference written there reaches => ?_⟩
  have root_known : ∀ place ∈ places ⟨tree, base⟩ documents.toList,
      place.root ∈ insert tree (loadable world enabled) := by
    intro place standing
    rcases List.mem_cons.mp standing with rfl | later
    · exact .inl rfl
    · obtain ⟨⟨location, document⟩, member, rfl⟩ := List.mem_map.mp later
      exact .inr ⟨location, (mem_documents.mp member).2⟩
  rcases reach_cases reaches with ⟨_, rfl⟩ | ⟨_, location, locates, located, loads⟩
  · exact standing
  · dsimp only [World.surroundings] at locates loads
    obtain ⟨origin, originStanding, member⟩ := List.mem_flatMap.mp written
    have named : (cut reference).1 ∈ namedParts world enabled tree :=
      Set.mem_biUnion (root_known origin originStanding) (List.mem_map.mpr ⟨_, member, rfl⟩)
    have from_base : ∀ address, place.location = some address → isWebAddress address = true →
        address ∈ webBases world enabled base := by
      intro address same web
      rcases List.mem_cons.mp standing with rfl | later
      · exact .inl same
      · obtain ⟨⟨other, document⟩, here, rfl⟩ := List.mem_map.mp later
        cases same
        exact .inr ⟨web, document, (mem_documents.mp here).2⟩
    have member : location ∈ reachable world enabled base tree :=
      mem_reachable from_base named locates loads
    obtain ⟨root, _⟩ := there
    cases located
    exact List.mem_cons_of_mem _ (List.mem_map.mpr ⟨(location, root),
      mem_documents.mpr ⟨member, loads⟩, rfl⟩)

/-- Replacing references ends in every world. -/
theorem ends_in_world (mode : Mode) (memory : Memory)
    (faithful : memory.Faithful (world.surroundings enabled)) :
    (Expansion.whole base tree memory).Ends (world.surroundings enabled) mode := by
  obtain ⟨documents, closed⟩ := exists_closed world enabled base tree
  exact (Expansion.whole_confined base tree memory documents).ends_of_closed faithful closed

end Closed

end ApiAdmission.Reference
