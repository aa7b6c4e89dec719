import ApiAdmission.Proofs.Reference.Fetched
import ApiAdmission.Proofs.Reference.LeftReferences
import ApiAdmission.Proofs.World.Following

/-!
# Which references are taken for open ones

An expansion is kept as it is written when the key of its reference is open around it.  The key is
one text, the location of a document and a pointer with a number sign between them, and either of
them may contain number signs of its own.  So two aims have one key not only when they are equal,
but also when one location runs on into the other along the pointer (`Aim.key_eq_iff`): the pointer
`/p` at `/d#/e` and the pointer `/e#/p` at `/d` share the key `/d#/e#/p`.

The keys around an expansion are those of the references that it is inside of
(`ComesTo.seen_eq`).  A reference is left exactly if its aim or one that runs into it, or that it
runs into, is open (`left_iff_taken_for_open`), and where no location contains a number sign, as in
most directories, exactly if it leads back into its own expansion.
-/

namespace ApiAdmission.Reference

set_option autoImplicit false

/-! ## Aims and their keys -/

/-- What a reference aims at: the location of a document, and a pointer into it. -/
abbrev Aim := Option String × String

/-- The key of a reference with this aim. -/
def Aim.key (aim : Aim) : String := cycleKey aim.1 aim.2

/-- The location of the first aim goes on to that of the second one with a number sign, along the
beginning of its pointer; what is left of the pointer is the second one. -/
def Aim.RunsInto (first second : Aim) : Prop :=
  ∃ between, second.1.getD "" = first.1.getD "" ++ "#" ++ between ∧
    first.2 = between ++ "#" ++ second.2

/-- Two lists that are cut at the same sign in two places: the places are one, or one part goes on
to the other. -/
theorem append_cons_eq_cases {α : Type} {sign : α} {first second before after : List α}
    (same : first ++ sign :: second = before ++ sign :: after) :
    (first = before ∧ second = after) ∨
      (∃ between, before = first ++ sign :: between ∧ second = between ++ sign :: after) ∨
        ∃ between, first = before ++ sign :: between ∧ after = between ++ sign :: second := by
  rcases List.append_eq_append_iff.mp same with ⟨rest, whole, tail⟩ | ⟨rest, whole, tail⟩
  · cases rest with
    | nil => exact .inl ⟨by simpa using whole.symm, (List.cons.inj tail).2⟩
    | cons next rest =>
      obtain ⟨rfl, onward⟩ := List.cons.inj tail
      exact .inr (.inl ⟨rest, whole, onward⟩)
  · cases rest with
    | nil => exact .inl ⟨by simpa using whole, (List.cons.inj tail).2.symm⟩
    | cons next rest =>
      obtain ⟨rfl, onward⟩ := List.cons.inj tail
      exact .inr (.inr ⟨rest, whole, onward⟩)

/-- A text is a part, a number sign and the rest exactly if its characters are. -/
theorem eq_join_iff {whole part rest : String} :
    whole = part ++ "#" ++ rest ↔ whole.toList = part.toList ++ '#' :: rest.toList := by
  rw [← String.toList_inj]
  simp

/-- **Which aims share a key**: those with one location and one pointer, and those of which one runs
into the other.  Here no location is the same as an empty one. -/
theorem Aim.key_eq_iff {first second : Aim} :
    first.key = second.key ↔
      (first.1.getD "" = second.1.getD "" ∧ first.2 = second.2) ∨
        first.RunsInto second ∨ second.RunsInto first := by
  unfold Aim.key cycleKey Aim.RunsInto
  constructor
  · intro same
    have cuts := eq_join_iff.mp same
    rw [eq_join_iff.mp rfl] at cuts
    rcases append_cons_eq_cases cuts with ⟨location, pointer⟩ | ⟨between, location, pointer⟩ |
      ⟨between, location, pointer⟩
    · exact .inl ⟨String.toList_inj.mp location, String.toList_inj.mp pointer⟩
    · exact .inr (.inl ⟨.ofList between, eq_join_iff.mpr (by simpa using location),
        eq_join_iff.mpr (by simpa using pointer)⟩)
    · exact .inr (.inr ⟨.ofList between, eq_join_iff.mpr (by simpa using location),
        eq_join_iff.mpr (by simpa using pointer)⟩)
  · rintro (⟨location, pointer⟩ | ⟨between, location, pointer⟩ | ⟨between, location, pointer⟩)
    · rw [location, pointer]
    · rw [location, pointer]
      simp only [String.append_assoc]
    · rw [location, pointer]
      simp only [String.append_assoc]

/-- What an aim runs into is at a location with a number sign. -/
theorem Aim.RunsInto.sign_mem {first second : Aim} (runs : first.RunsInto second) :
    '#' ∈ (second.1.getD "").toList := by
  obtain ⟨between, location, _⟩ := runs
  rw [eq_join_iff.mp location]
  simp

/-! ## Where a run can be -/

/-- A location in a run: that of the whole, or one that a reference names, which is not empty. -/
def Located (base location : Option String) : Prop :=
  location = base ∨ ∃ named, named ≠ "" ∧ location = some named

/-- So locations are told apart by their texts, though no location has an empty one too. -/
theorem Located.unique {base first second : Option String} (here : Located base first)
    (there : Located base second) (same : first.getD "" = second.getD "") : first = second := by
  rcases here with rfl | ⟨named, inhabited, rfl⟩ <;> rcases there with rfl | ⟨other, filled, rfl⟩
  · rfl
  · cases first with
    | none => exact absurd same.symm filled
    | some text => exact congrArg some same
  · cases second with
    | none => exact absurd same inhabited
    | some text => exact congrArg some same
  · exact congrArg some same

/-- The text of a path is never empty. -/
theorem text_ne_empty (path : Path) : path.text ≠ "" := by
  unfold Path.text
  dsimp only
  split
  case isTrue => decide
  case isFalse shown => simpa using shown

/-- A document part names no empty location. -/
theorem locate_ne_empty {files : FileSystem} {base : Option String} {part location : String}
    (named : part ≠ "") (locates : locate files base part = .ok location) : location ≠ "" := by
  cases relative : isWebAddress part with
  | true =>
    have itself : part = location := by simpa [locate, relative] using locates
    exact itself ▸ named
  | false =>
    cases base with
    | none =>
      have itself : part = location := by
        by_cases whole : (Path.ofText part).isAbsolute <;>
          simp [locate, relative, whole] at locates
        exact locates
      exact itself ▸ named
    | some base =>
      cases web : isWebAddress base with
      | true =>
        rintro rfl
        have unnamed : ¬ isWebAddress "" = true := by decide
        have strays : Strays base part :=
          not_not.mp (mt (isWebAddress_locate_iff web locates).mpr unnamed)
        exact named (locate_of_strays web locates strays).symm
      | false =>
        cases real : files.realPath ((Path.ofText base).parent.join (Path.ofText part)) with
        | error breakdown => simp [locate, relative, web, real] at locates
        | ok path =>
          have shown : path.text = location := by
            simpa [locate, relative, web, real] using locates
          exact shown ▸ text_ne_empty path

/-! ## What a reference aims at -/

/-- An expansion is that of a reference whose document is had, and this is its aim. -/
def Expansion.AimsAt (surroundings : Surroundings) (expansion : Expansion) (aim : Aim) : Prop :=
  ∃ reference there after, expansion.RefersBy reference ∧
    (target surroundings expansion.place (cut reference).1).run.run expansion.memory =
      (.ok (.ok there), after) ∧
    aim = (there.location, (cut reference).2)

section Aims

variable {surroundings : Surroundings} {mode : Mode}

theorem leadIn_eq_back_iff {there : Place} {seen : List String} {pointer : String} :
    leadIn there seen pointer = .back ↔ cycleKey there.location pointer ∈ seen := by
  unfold leadIn
  by_cases met : cycleKey there.location pointer ∈ seen
  · simp [met]
  · simp only [List.contains_eq_mem, met, decide_false, Bool.false_eq_true, if_false]
    cases there.root.follow pointer <;> simp

/-- A reference leads back exactly if its document is had and its key is open. -/
theorem lead_eq_back_iff {place : Place} {seen : List String} {reference : String}
    {memory after : Memory} :
    (lead surroundings place seen reference).run.run memory = (.ok .back, after) ↔
      ∃ there, (target surroundings place (cut reference).1).run.run memory =
          (.ok (.ok there), after) ∧
        cycleKey there.location (cut reference).2 ∈ seen := by
  rw [lead_run_eq]
  rcases (target surroundings place (cut reference).1).run.run memory
    with ⟨failure | (reason | there), between⟩
  · exact ⟨nofun, nofun⟩
  · exact ⟨nofun, nofun⟩
  · constructor
    · intro leads
      obtain ⟨goal, rfl⟩ := Prod.mk.inj leads
      exact ⟨there, rfl, leadIn_eq_back_iff.mp (Except.ok.inj goal)⟩
    · rintro ⟨_, reaches, met⟩
      cases reaches
      exact congrArg (Except.ok ·, after) (leadIn_eq_back_iff.mpr met)

/-- A reference that leads to a value has that of its document and its own key. -/
theorem target_of_value {place there : Place} {seen : List String} {reference key : String}
    {value : Tree} {memory after : Memory}
    (leads : (lead surroundings place seen reference).run.run memory =
      (.ok (.value there key value), after)) :
    (target surroundings place (cut reference).1).run.run memory = (.ok (.ok there), after) ∧
      key = cycleKey there.location (cut reference).2 := by
  rw [lead_run_eq] at leads
  rcases reaches : (target surroundings place (cut reference).1).run.run memory
    with ⟨failure | (reason | found), between⟩ <;> rw [reaches] at leads
  · cases leads
  · cases leads
  · obtain ⟨goal, rfl⟩ := Prod.mk.inj leads
    obtain ⟨rfl, same, _⟩ := leadIn_eq_value_iff.mp (Except.ok.inj goal)
    exact ⟨rfl, same⟩

/-- **A reference is left exactly if the key of its aim is open.** -/
theorem Expansion.leaves_iff {expansion : Expansion} {node : Tree}
    (piece : expansion.piece = .tree node) :
    expansion.Leaves surroundings node ↔
      ∃ aim, expansion.AimsAt surroundings aim ∧ aim.key ∈ expansion.seen := by
  constructor
  · rintro ⟨found, leads, _⟩
    obtain ⟨there, reaches, met⟩ := lead_eq_back_iff.mp leads
    exact ⟨_, ⟨_, there, _, ⟨_, rfl, found⟩, reaches, rfl⟩, met⟩
  · rintro ⟨_, ⟨reference, there, after, ⟨entries, whole, found⟩, reaches, rfl⟩, met⟩
    obtain ⟨place, seen, _, memory⟩ := expansion
    cases whole
    cases piece
    exact ⟨found, lead_eq_back_iff.mpr ⟨there, reaches, met⟩, .here⟩

/-- What a reference enters has its key open. -/
theorem Enters.seen_of_aim {outer inner : Expansion} {aim : Aim}
    (enters : Enters surroundings mode outer inner) (aims : outer.AimsAt surroundings aim) :
    inner.seen = aim.key :: outer.seen := by
  obtain ⟨reference, there, after, ⟨entries, piece, found⟩, reaches, rfl⟩ := aims
  cases enters with
  | value same leads =>
    cases piece
    cases found.symm.trans same
    obtain ⟨reached, rfl⟩ := target_of_value leads
    cases reaches.symm.trans reached
    rfl
  | entries absent =>
    cases piece
    cases found.symm.trans absent
  | _ => cases piece

/-- Any other call opens no key. -/
theorem Enters.seen_of_aimless {outer inner : Expansion}
    (enters : Enters surroundings mode outer inner)
    (aimless : ∀ aim, ¬ outer.AimsAt surroundings aim) : inner.seen = outer.seen := by
  cases enters with
  | value found leads =>
    obtain ⟨reached, _⟩ := target_of_value leads
    exact absurd ⟨_, _, _, ⟨_, rfl, found⟩, reached, rfl⟩ (aimless _)
  | _ => rfl

/-- A run comes to an expansion inside those of references with these aims, the innermost first. -/
inductive ComesTo (surroundings : Surroundings) (mode : Mode) (start : Expansion) :
    List Aim → Expansion → Prop where
  | start : ComesTo surroundings mode start [] start
  /-- A call from a reference opens its aim. -/
  | opens {around : List Aim} {outer inner : Expansion} {aim : Aim}
      (before : ComesTo surroundings mode start around outer)
      (aims : outer.AimsAt surroundings aim) (enters : Enters surroundings mode outer inner) :
      ComesTo surroundings mode start (aim :: around) inner
  /-- Any other call opens none. -/
  | goesOn {around : List Aim} {outer inner : Expansion}
      (before : ComesTo surroundings mode start around outer)
      (aimless : ∀ aim, ¬ outer.AimsAt surroundings aim)
      (enters : Enters surroundings mode outer inner) :
      ComesTo surroundings mode start around inner

/-- A reference of a run has this aim. -/
def Aimed (surroundings : Surroundings) (mode : Mode) (start : Expansion) (aim : Aim) : Prop :=
  ∃ inner, Reaches surroundings mode start inner ∧ inner.AimsAt surroundings aim

variable {start inner : Expansion} {around : List Aim}

theorem ComesTo.reaches (comes : ComesTo surroundings mode start around inner) :
    Reaches surroundings mode start inner := by
  induction comes with
  | start => exact .refl
  | opens _ _ enters ih | goesOn _ _ enters ih => exact ih.tail enters

/-- What is reached is reached inside some expansions. -/
theorem Reaches.comesTo (reaches : Reaches surroundings mode start inner) :
    ∃ around, ComesTo surroundings mode start around inner := by
  induction reaches with
  | refl => exact ⟨[], .start⟩
  | @tail outer _ _ enters ih =>
    obtain ⟨around, comes⟩ := ih
    by_cases aims : ∃ aim, outer.AimsAt surroundings aim
    · obtain ⟨aim, aims⟩ := aims
      exact ⟨aim :: around, .opens comes aims enters⟩
    · exact ⟨around, .goesOn comes (not_exists.mp aims) enters⟩

/-- **The open keys are those of the aims around.** -/
theorem ComesTo.seen_eq (comes : ComesTo surroundings mode start around inner) :
    inner.seen = around.map Aim.key ++ start.seen := by
  induction comes with
  | start => rfl
  | opens _ aims enters ih => rw [enters.seen_of_aim aims, ih, List.map_cons, List.cons_append]
  | goesOn _ aimless enters ih => rw [enters.seen_of_aimless aimless, ih]

/-- The aims around are those of references of the run. -/
theorem ComesTo.aimed (comes : ComesTo surroundings mode start around inner) :
    ∀ aim ∈ around, Aimed surroundings mode start aim := by
  induction comes with
  | start => exact fun _ member => (List.not_mem_nil member).elim
  | opens before aims _ ih => exact List.forall_mem_cons.mpr ⟨⟨_, before.reaches, aims⟩, ih⟩
  | goesOn _ _ _ ih => exact ih

end Aims

/-! ## The locations of a run -/

section Run

variable {surroundings : Surroundings} {files : FileSystem} {mode : Mode} {base : Option String}
  {tree : Tree} {memory : Memory}

/-- A document that is had is that of the place itself, or at a location that the reference
names. -/
theorem target_located {place there : Place} {part : String} {after : Memory}
    (reaches : (target surroundings place part).run.run memory = (.ok (.ok there), after)) :
    there = place ∨ ∃ location, place.Names surroundings part location ∧
      there.location = some location := by
  by_cases names : ∃ location, place.Names surroundings part location
  · obtain ⟨location, names⟩ := names
    rw [target_of_names names] at reaches
    rcases loads : (loadOnce surroundings location).run.run memory with ⟨loaded, between⟩
    rw [loads] at reaches
    rcases loaded with failure | (reason | root) <;> cases reaches
    exact .inr ⟨location, names, rfl⟩
  · rw [target_of_nameless (not_exists.mp names)] at reaches
    rcases reach_cases (Prod.mk.inj reaches).1 with ⟨_, same⟩ | ⟨other, location, locates, _⟩
    · exact .inl same
    · exact absurd ⟨location, other, locates⟩ names

variable (inFiles : surroundings.locate = locate files)
include inFiles

theorem Located.of_target {place there : Place} {part : String} {after : Memory}
    (here : Located base place.location)
    (reaches : (target surroundings place part).run.run memory = (.ok (.ok there), after)) :
    Located base there.location := by
  rcases target_located reaches with rfl | ⟨location, ⟨named, locates⟩, there⟩
  · exact here
  · rw [inFiles] at locates
    exact .inr ⟨location, locate_ne_empty named locates, there⟩

/-- Every expansion of a run stands at such a location. -/
theorem Reaches.located {inner : Expansion}
    (reaches : Reaches surroundings mode (.whole base tree memory) inner) :
    Located base inner.place.location := by
  induction reaches with
  | refl => exact .inl rfl
  | tail _ enters here =>
    cases enters with
    | value _ leads => exact here.of_target inFiles (target_of_value leads).1
    | _ => exact here

theorem Aimed.located {aim : Aim}
    (aimed : Aimed surroundings mode (.whole base tree memory) aim) : Located base aim.1 := by
  obtain ⟨inner, reaches, _, there, _, _, had, rfl⟩ := aimed
  exact (reaches.located inFiles).of_target inFiles had

/-- **The aims of a run share a key** exactly if they are equal or one runs into the other. -/
theorem Aimed.key_eq_iff {first second : Aim}
    (here : Aimed surroundings mode (.whole base tree memory) first)
    (there : Aimed surroundings mode (.whole base tree memory) second) :
    first.key = second.key ↔
      first = second ∨ first.RunsInto second ∨ second.RunsInto first := by
  rw [Aim.key_eq_iff]
  refine or_congr_left ⟨?_, ?_⟩
  · rintro ⟨location, pointer⟩
    exact Prod.ext ((here.located inFiles).unique (there.located inFiles) location) pointer
  · rintro rfl
    exact ⟨rfl, rfl⟩

end Run

/-- **When a reference is left.**  Every expansion of a run is inside those of the references around
it.  Two aims of the run have one key exactly if they are equal or one runs into the other.  So a
reference is left exactly if its document is had, and its aim is open, or one that runs into it, or
one that it runs into; and where the locations are free of number signs, exactly if its aim is
open. -/
theorem left_iff_taken_for_open (surroundings : Surroundings) (files : FileSystem)
    (inFiles : surroundings.locate = locate files) (mode : Mode) (base : Option String)
    (tree : Tree) (memory : Memory) :
    (∀ inner, Reaches surroundings mode (.whole base tree memory) inner →
      ∃ around, ComesTo surroundings mode (.whole base tree memory) around inner) ∧
    (∀ first second, Aimed surroundings mode (.whole base tree memory) first →
      Aimed surroundings mode (.whole base tree memory) second →
      (first.key = second.key ↔
        first = second ∨ first.RunsInto second ∨ second.RunsInto first)) ∧
    ∀ around inner node, ComesTo surroundings mode (.whole base tree memory) around inner →
      inner.piece = .tree node →
      (inner.Leaves surroundings node ↔
        ∃ aim, inner.AimsAt surroundings aim ∧
          ∃ other ∈ around, other = aim ∨ other.RunsInto aim ∨ aim.RunsInto other) ∧
      ((∀ aim, aim ∈ around ∨ inner.AimsAt surroundings aim → '#' ∉ (aim.1.getD "").toList) →
        (inner.Leaves surroundings node ↔ ∃ aim ∈ around, inner.AimsAt surroundings aim)) := by
  refine ⟨fun _ reaches => reaches.comesTo, fun _ _ here there => here.key_eq_iff inFiles there,
    ?_⟩
  intro around inner node comes piece
  have taken : inner.Leaves surroundings node ↔
      ∃ aim, inner.AimsAt surroundings aim ∧
        ∃ other ∈ around, other = aim ∨ other.RunsInto aim ∨ aim.RunsInto other := by
    have seen : inner.seen = around.map Aim.key := comes.seen_eq.trans (List.append_nil _)
    rw [Expansion.leaves_iff piece, seen]
    refine exists_congr fun aim => and_congr_right fun aims => List.mem_map.trans ?_
    refine exists_congr fun other => and_congr_right fun member => ?_
    exact (comes.aimed other member).key_eq_iff inFiles ⟨inner, comes.reaches, aims⟩
  refine ⟨taken, fun free => taken.trans ⟨?_, ?_⟩⟩
  · rintro ⟨aim, aims, other, member, rfl | runs | runs⟩
    · exact ⟨other, member, aims⟩
    · exact absurd runs.sign_mem (free aim (.inr aims))
    · exact absurd runs.sign_mem (free other (.inl member))
  · rintro ⟨aim, member, aims⟩
    exact ⟨aim, aims, aim, member, .inl rfl⟩

/-! ## A pointer that is taken for another one -/

/-- What stands in a directory whose name has a number sign: a reference past the directory. -/
def askewText : String := "\x7b\"p\": \x7b\"$ref\": \"../d#/e#/p\"\x7d\x7d"

/-- What stands in the file that the reference names. -/
def buriedText : String := "\x7b\"e#\": \x7b\"p\": 5\x7d\x7d"

/-- A world with these files, the one in the directory `d#` and the other one at `d`. -/
def askewWorld : World where
  files := ⟨.directory [("d#", .directory [("e", .file (asciiBytes askewText))]),
    ("d", .file (asciiBytes buriedText))], []⟩
  environment := []
  network := []
  standardInput := ""
  terminal := false
  systemName := "Linux"
  homes := []

/-- What work asks of that world. -/
abbrev askewSurroundings : Surroundings := askewWorld.surroundings true

/-- The reference in the directory. -/
def askewReference : Tree := .mapping [("$ref", .text "../d#/e#/p")]

/-- A tree that refers to the reference. -/
def askewTree : Tree := .mapping [("x", .mapping [("$ref", .text "e#/p")])]

/-- The tree with its reference replaced, in which the other one is left. -/
def askewResult : Tree := .mapping [("x", askewReference)]

theorem sound_askewWorld : askewWorld.files.Sound where
  named := by decide +kernel
  start := ⟨_, rfl⟩

/-- Where a part names a file of that world. -/
theorem locate_askew {base part location : String} {path : Path} {names : List String}
    {entry : Entry} (relative : isWebAddress part = false) (file : isWebAddress base = false)
    (joined : (Path.ofText base).parent.join (Path.ofText part) = path)
    (noNull : '\x00' ∉ path.text.toList)
    (finds : askewWorld.files.lookup path = .ok (names, entry))
    (shown : Path.text ⟨"/", names⟩ = location) :
    askewSurroundings.locate (some base) part = .ok location := by
  have real := sound_askewWorld.realPath_of_lookup noNull finds
  simp [World.surroundings, locate, relative, file, joined, real, shown]

theorem locate_first : askewSurroundings.locate (some "d#/root.json") "e" = .ok "/d#/e" := by
  have finds : askewWorld.files.Leads ⟨"", ["d#", "e"]⟩ (.file (asciiBytes askewText)) :=
    ⟨by decide, by decide, by decide, nofun, rfl⟩
  exact locate_askew rfl rfl rfl finds.noNull finds.lookup rfl

theorem locate_second : askewSurroundings.locate (some "/d#/e") "../d" = .ok "/d" := by
  have finds : askewWorld.files.lookup ⟨"/", ["d#", "..", "d"]⟩ =
      .ok (["d"], .file (asciiBytes buriedText)) := by
    have text : (⟨"/", ["d#", "..", "d"]⟩ : Path).text = "/d#/../d" := by decide +kernel
    have size : "/d#/../d".utf8ByteSize = 8 := by decide +kernel
    have first : "d#".utf8ByteSize = 2 := by decide +kernel
    have last : "d".utf8ByteSize = 1 := by decide +kernel
    simp [FileSystem.lookup, FileSystem.lookupFrom, FileSystem.startOf, text, size, first, last,
      askewWorld, Entry.descend?, Entry.lookup?, pathLimit, longestName, Path.above,
      Path.isAbsolute]
  exact locate_askew rfl rfl rfl (by decide) finds rfl

theorem load_first : askewSurroundings.load "/d#/e" = .ok (.mapping [("p", askewReference)]) := by
  have leads : askewWorld.files.Leads (Path.ofText "/d#/e") (.file (asciiBytes askewText)) :=
    ⟨by decide, by decide, by decide, nofun, rfl⟩
  have decodes : Utf8.decode (asciiBytes askewText) = .ok askewText.toList := rfl
  exact load_of_leads rfl leads decodes rfl

theorem load_second :
    askewSurroundings.load "/d" = .ok (.mapping [("e#", .mapping [("p", .integer 5)])]) := by
  have leads : askewWorld.files.Leads (Path.ofText "/d") (.file (asciiBytes buriedText)) :=
    ⟨by decide, by decide, by decide, nofun, rfl⟩
  have decodes : Utf8.decode (asciiBytes buriedText) = .ok buriedText.toList := rfl
  exact load_of_leads rfl leads decodes rfl

/-- Where the reference in the directory stands. -/
def askewPlace : Place := ⟨.mapping [("p", askewReference)], some "/d#/e"⟩

/-- The reference of the tree leads to the one in the directory. -/
theorem lead_first :
    ∃ known, (lead askewSurroundings ⟨askewTree, some "d#/root.json"⟩ [] "e#/p").run.run .empty =
        (.ok (.value askewPlace "/d#/e#/p" askewReference), known) ∧
      known.Faithful askewSurroundings ∧ known.messages = [] := by
  have reaches : reach askewSurroundings ⟨askewTree, some "d#/root.json"⟩ (cut "e#/p").1 =
      .ok (.ok askewPlace) := reach_of_load (by decide) locate_first load_first
  obtain ⟨known, leads, faithful, silent⟩ := lead_run
    (Memory.faithful_empty askewSurroundings) ⟨askewTree, some "d#/root.json"⟩ [] "e#/p"
  rw [leadOf_eq_value_iff.mpr ⟨reaches, rfl, List.not_mem_nil, rfl⟩] at leads
  exact ⟨known, leads, faithful, silent⟩

/-- The file that the reference in the directory names. -/
def buriedPlace : Place := ⟨.mapping [("e#", .mapping [("p", .integer 5)])], some "/d"⟩

theorem target_second {known : Memory} (faithful : known.Faithful askewSurroundings) :
    ∃ after, (target askewSurroundings askewPlace (cut "../d#/e#/p").1).run.run known =
        (.ok (.ok buriedPlace), after) ∧ after.messages = known.messages := by
  have reaches : reach askewSurroundings askewPlace (cut "../d#/e#/p").1 =
      .ok (.ok buriedPlace) := reach_of_load (by decide) locate_second load_second
  obtain ⟨after, had, _, silent⟩ := target_run faithful askewPlace (cut "../d#/e#/p").1
  exact ⟨after, reaches ▸ had, silent⟩

/-- In a mapping without a reference, a run comes to the value of the first entry inside the same
expansions. -/
theorem ComesTo.first {surroundings : Surroundings} {mode : Mode} {start : Expansion}
    {around : List Aim} {place : Place} {seen : List String} {name : String} {value : Tree}
    {rest : List (String × Tree)} {memory : Memory}
    (comes : ComesTo surroundings mode start around
      ⟨place, seen, .tree (.mapping ((name, value) :: rest)), memory⟩)
    (absent : referenceOf? ((name, value) :: rest) = none) :
    ComesTo surroundings mode start around ⟨place, seen, .tree value, memory⟩ := by
  have within := comes.goesOn ?_ (.entries absent)
  · refine within.goesOn ?_ .entry
    rintro _ ⟨_, _, _, ⟨_, piece, _⟩, _⟩
    cases piece
  · rintro _ ⟨_, _, _, ⟨_, piece, found⟩, _⟩
    cases piece
    cases absent.symm.trans found

/-- The run of the tree: inside its reference it comes to the one in the directory, which aims at
another file, and leaves it. -/
theorem askew_run :
    ∃ known,
      ComesTo askewSurroundings .collecting (.whole (some "d#/root.json") askewTree .empty)
        [(some "/d#/e", "/p")] ⟨askewPlace, ["/d#/e#/p"], .tree askewReference, known⟩ ∧
      Expansion.AimsAt askewSurroundings
        ⟨askewPlace, ["/d#/e#/p"], .tree askewReference, known⟩ (some "/d", "/e#/p") ∧
      resolveCollecting askewSurroundings (some "d#/root.json") askewTree =
        (.ok askewResult, []) := by
  obtain ⟨known, leads, faithful, silent⟩ := lead_first
  obtain ⟨after, had, silentOn⟩ := target_second faithful
  have begun : ComesTo askewSurroundings .collecting
    (.whole (some "d#/root.json") askewTree .empty) [] _ := .start
  have reference := begun.first rfl
  refine ⟨known, ?_, ?_, ?_⟩
  · have aims := (target_of_value leads).1
    exact reference.opens ⟨_, _, _, ⟨_, rfl, rfl⟩, aims, rfl⟩ (.value rfl leads)
  · exact ⟨_, _, _, ⟨_, rfl, rfl⟩, had, rfl⟩
  · have back : (lead askewSurroundings askewPlace ["/d#/e#/p"] "../d#/e#/p").run.run known =
        (.ok .back, after) := lead_eq_back_iff.mpr ⟨_, had, by decide +kernel⟩
    have whole : Expands askewSurroundings .collecting ⟨askewTree, some "d#/root.json"⟩ []
        askewTree .empty (.ok askewResult, after) :=
      .mapping rfl (.cons (.value rfl leads (.back rfl back)) .nil)
    rw [resolveCollecting_of_expands whole, silentOn, silent]

/-- A tree with a reference to itself. -/
def roundTree : Tree := .mapping [("self", selfReference)]

/-- Where the reference to itself stands, inside its own expansion. -/
def roundExpansion : Expansion := ⟨⟨roundTree, none⟩, ["#/self"], .tree selfReference, .empty⟩

theorem target_round :
    (target askewSurroundings ⟨roundTree, none⟩ (cut "#/self").1).run.run .empty =
      (.ok (.ok ⟨roundTree, none⟩), .empty) := rfl

theorem lead_round :
    (lead askewSurroundings ⟨roundTree, none⟩ [] "#/self").run.run .empty =
      (.ok (.value ⟨roundTree, none⟩ "#/self" selfReference), .empty) := rfl

theorem aimsAt_round {aim : Aim} :
    roundExpansion.AimsAt askewSurroundings aim ↔ aim = (none, "/self") := by
  constructor
  · rintro ⟨_, _, _, ⟨_, piece, found⟩, had, rfl⟩
    cases piece
    cases found
    cases target_round.symm.trans had
    rfl
  · rintro rfl
    exact ⟨_, _, _, ⟨_, rfl, rfl⟩, target_round, rfl⟩

/-- In the run of that tree, the reference is open around itself. -/
theorem comesTo_round :
    ComesTo askewSurroundings .collecting (.whole none roundTree .empty) [(none, "/self")]
      roundExpansion := by
  have begun : ComesTo askewSurroundings .collecting (.whole none roundTree .empty) [] _ := .start
  have reference := begun.first rfl
  exact reference.opens ⟨_, _, _, ⟨_, rfl, rfl⟩, target_round, rfl⟩ (.value rfl lead_round)

/-- The reference in the directory is left since its own aim runs into an open one; the one in the
tree that refers to itself is left since its own aim is open. -/
theorem left_iff_taken_for_open_askewWorld :
    (∃ known, Expansion.Leaves askewSurroundings askewReference
        ⟨askewPlace, ["/d#/e#/p"], .tree askewReference, known⟩) ∧
    Aim.key (some "/d", "/e#/p") = Aim.key (some "/d#/e", "/p") ∧
    roundExpansion.Leaves askewSurroundings selfReference := by
  have runs : Aim.RunsInto (some "/d", "/e#/p") (some "/d#/e", "/p") :=
    ⟨"/e", by decide +kernel, by decide +kernel⟩
  obtain ⟨known, comes, aims, _⟩ := askew_run
  obtain ⟨_, keys, left⟩ := left_iff_taken_for_open askewSurroundings askewWorld.files rfl
    .collecting (some "d#/root.json") askewTree .empty
  obtain ⟨_, _, round⟩ := left_iff_taken_for_open askewSurroundings askewWorld.files rfl
    .collecting none roundTree .empty
  refine ⟨⟨known, ?_⟩, ?_, ?_⟩
  · exact ((left _ _ _ comes rfl).1).mpr ⟨_, aims, _, List.mem_cons_self, .inr (.inr runs)⟩
  · exact (keys _ _ ⟨_, comes.reaches, aims⟩ (comes.aimed _ List.mem_cons_self)).mpr
      (.inr (.inl runs))
  · refine ((round _ _ _ comesTo_round rfl).2 ?_).mpr
      ⟨_, List.mem_cons_self, aimsAt_round.mpr rfl⟩
    rintro aim (member | aims)
    · rw [List.mem_singleton.mp member]
      decide
    · rw [aimsAt_round.mp aims]
      decide

/-- A reference is left in the result though no reference with its aim is open around it: the one
that is open has another location and another pointer, and the same key.  The value that it names is
there, in a file that has been loaded. -/
theorem left_though_not_open :
    resolveCollecting askewSurroundings (some "d#/root.json") askewTree =
      (.ok askewResult, []) ∧
    ∃ inner,
      ComesTo askewSurroundings .collecting (.whole (some "d#/root.json") askewTree .empty)
        [(some "/d#/e", "/p")] inner ∧
      inner.Leaves askewSurroundings askewReference ∧
      inner.AimsAt askewSurroundings (some "/d", "/e#/p") ∧
      (some "/d", "/e#/p") ∉ [((some "/d#/e", "/p") : Aim)] ∧
      Aim.key (some "/d", "/e#/p") = Aim.key (some "/d#/e", "/p") ∧
      askewSurroundings.load "/d" = .ok buriedPlace.root ∧
      buriedPlace.root.follow "/e#/p" = .ok (.integer 5) := by
  obtain ⟨known, comes, aims, collects⟩ := askew_run
  refine ⟨collects, _, comes, ?_, aims, by decide, by decide +kernel, load_second, rfl⟩
  have met : Aim.key (some "/d", "/e#/p") ∈ ["/d#/e#/p"] := by decide +kernel
  exact (Expansion.leaves_iff rfl).mpr ⟨_, aims, met⟩

end ApiAdmission.Reference
