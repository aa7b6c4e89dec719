import ApiAdmission.Proofs.Reference.Strictness
import ApiAdmission.Proofs.Reference.Termination
import ApiAdmission.Reference.Surroundings

/-!
# References that are left

Where a reference leads back into its own expansion, collecting mode leaves its mapping as it is
written.  The mapping is read again as a part of the result, relative to the location of the whole,
but it may have been written in another document, relative to the location of that one.

The references in the result are those in the mappings that are left and those that come about when
a reference stands under the key of references itself (`Expands.inside_iff`).  Every one that is
left is a node of the tree or of a document that loads, and it means the same in the result exactly
if the two locations agree on the document that it names (`denotes_eq_iff`): that of a cycle inside
the tree does, and one that names its own document does nowhere else (`left_denotes_same_iff`).
-/

namespace ApiAdmission.Reference

set_option autoImplicit false

/-! ## What a reference denotes -/

/-- What a reference denotes in a document at a location: the location of the document that it
names, and its pointer. -/
def denotes (surroundings : Surroundings) (location : Option String) (reference : String) :
    Except LocationFault (Option String × String) :=
  if (cut reference).1 == "" then .ok (location, (cut reference).2)
  else (surroundings.locate location (cut reference).1).map fun named =>
    (some named, (cut reference).2)

/-- Two locations agree on a document that references name: it is the one around them and they are
the same, or they find it at the same location. -/
def Agree (surroundings : Surroundings) (here there : Option String) (document : String) : Prop :=
  if document == "" then here = there
  else surroundings.locate here document = surroundings.locate there document

section Meaning

variable {surroundings : Surroundings} {place there : Place} {reference : String}

/-- A reference means the same at two locations exactly if they agree on its document. -/
theorem denotes_eq_iff {here other : Option String} :
    denotes surroundings here reference = denotes surroundings other reference ↔
      Agree surroundings here other (cut reference).1 := by
  unfold denotes Agree
  split
  · simp
  · cases surroundings.locate here (cut reference).1 <;>
      cases surroundings.locate other (cut reference).1 <;> simp [Except.map]

/-- A reference denotes the document that it reaches. -/
theorem denotes_of_reach
    (reaches : reach surroundings place (cut reference).1 = .ok (.ok there)) :
    denotes surroundings place.location reference = .ok (there.location, (cut reference).2) := by
  unfold reach at reaches
  unfold denotes
  split
  case isTrue own =>
    rw [if_pos own] at reaches
    cases reaches
    rfl
  case isFalse other =>
    rw [if_neg other] at reaches
    cases locates : surroundings.locate place.location (cut reference).1 with
    | error fault =>
      rw [locates] at reaches
      cases fault <;> cases reaches
    | ok location =>
      rw [locates] at reaches
      dsimp only at reaches
      split at reaches <;> cases reaches
      rfl

end Meaning

section World

variable {document : String} (world : World) (enabled : Bool)

/-- In a world, all locations agree on a web address. -/
theorem agree_of_webAddress (web : isWebAddress document = true) (here there : Option String) :
    Agree (world.surroundings enabled) here there document := by
  have named : (document == "") = false := by
    cases own : document == "" with
    | false => rfl
    | true =>
      rw [eq_of_beq own] at web
      cases web
  simp [Agree, named, World.surroundings, locate, web]

/-- In a world, the documents of a directory agree on all other documents. -/
theorem agree_of_sameDirectory {here there : String} (named : document ≠ "")
    (hereIsPath : isWebAddress here = false) (thereIsPath : isWebAddress there = false)
    (same : (Path.ofText here).parent = (Path.ofText there).parent) :
    Agree (world.surroundings enabled) (some here) (some there) document := by
  simp [Agree, named, World.surroundings, locate, hereIsPath, thereIsPath, same]

end World

/-! ## What the nodes of the result come from -/

/-- An expansion leaves a node: its reference leads back, and the node stands in its mapping. -/
inductive Expansion.Leaves (surroundings : Surroundings) (node : Tree) : Expansion → Prop where
  | intro {place : Place} {seen : List String} {entries : List (String × Tree)}
      {reference : String} {memory after : Memory}
      (found : referenceOf? entries = some reference)
      (leads : (lead surroundings place seen reference).run.run memory = (.ok .back, after))
      (inside : Inside node (.mapping entries)) :
      Leaves surroundings node ⟨place, seen, .tree (.mapping entries), memory⟩

/-- An expansion makes a node: its mapping is no reference, and the node is what it becomes. -/
inductive Expansion.Makes (surroundings : Surroundings) : Tree → Expansion → Prop where
  | intro {place : Place} {seen : List String} {entries results : List (String × Tree)}
      {memory after : Memory} (absent : referenceOf? entries = none)
      (inner : ExpandsEntries surroundings .collecting place seen entries memory
        (.ok results, after)) :
      Makes surroundings (.mapping results) ⟨place, seen, .tree (.mapping entries), memory⟩

/-- An expansion gives a node to the result: it leaves or makes it. -/
def Expansion.Gives (surroundings : Surroundings) (node : Tree) (expansion : Expansion) : Prop :=
  expansion.Leaves surroundings node ∨ expansion.Makes surroundings node

section Gives

variable {surroundings : Surroundings} {place : Place} {seen : List String} {memory after : Memory}
  {entries : List (String × Tree)} {reference : String} {node : Tree}

/-- A reference that leads back gives all nodes of its mapping. -/
theorem gives_back_iff (found : referenceOf? entries = some reference)
    (leads : (lead surroundings place seen reference).run.run memory = (.ok .back, after)) :
    Expansion.Gives surroundings node ⟨place, seen, .tree (.mapping entries), memory⟩ ↔
      Inside node (.mapping entries) := by
  constructor
  · rintro (⟨_, _, inside⟩ | ⟨absent, _⟩)
    · exact inside
    · cases found.symm.trans absent
  · intro inside
    exact .inl ⟨found, leads, inside⟩

/-- Any other reference gives none itself. -/
theorem not_gives_of_lead {goal : Lead} (found : referenceOf? entries = some reference)
    (leads : (lead surroundings place seen reference).run.run memory = (.ok goal, after))
    (noBack : goal ≠ .back) :
    ¬ Expansion.Gives surroundings node ⟨place, seen, .tree (.mapping entries), memory⟩ := by
  rintro (⟨same, others, _⟩ | ⟨absent, _⟩)
  · cases found.symm.trans same
    cases leads.symm.trans others
    exact noBack rfl
  · cases found.symm.trans absent

/-- A mapping without a reference gives what it becomes. -/
theorem gives_mapping_iff {results : List (String × Tree)} (absent : referenceOf? entries = none)
    (inner : ExpandsEntries surroundings .collecting place seen entries memory
      (.ok results, after)) :
    Expansion.Gives surroundings node ⟨place, seen, .tree (.mapping entries), memory⟩ ↔
      node = .mapping results := by
  constructor
  · rintro (⟨found, _, _⟩ | ⟨_, others⟩)
    · cases absent.symm.trans found
    · cases inner.eq_some.symm.trans others.eq_some
      rfl
  · rintro rfl
    exact .inr ⟨absent, inner⟩

/-- What is no mapping gives none. -/
theorem not_gives_of_piece (piece : Piece)
    (noMapping : ∀ entries, piece ≠ .tree (.mapping entries)) :
    ¬ Expansion.Gives surroundings node ⟨place, seen, piece, memory⟩ := by
  rintro (leaves | makes)
  · cases leaves
    exact noMapping _ rfl
  · cases makes
    exact noMapping _ rfl

end Gives

/-! ## The references in the result -/

section Result

variable {surroundings : Surroundings} {written : List (String × Tree)} {reference : String}

theorem inside_mapping_iff {node : Tree} {entries : List (String × Tree)} :
    Inside node (.mapping entries) ↔
      node = .mapping entries ∨ ∃ entry ∈ entries, Inside node entry.2 := by
  constructor
  · intro inside
    cases inside with
    | here => exact .inl rfl
    | entry member inner => exact .inr ⟨_, member, inner⟩
  · rintro (rfl | ⟨⟨name, value⟩, member, inner⟩)
    · exact .here
    · exact .entry member inner

theorem mapping_inside_list_iff {items : List Tree} :
    Inside (.mapping written) (.list items) ↔ ∃ item ∈ items, Inside (.mapping written) item := by
  constructor
  · intro inside
    cases inside with
    | item member inner => exact ⟨_, member, inner⟩
  · rintro ⟨item, member, inner⟩
    exact .item member inner

/-- A mapping with a reference is no node of an empty one. -/
theorem not_inside_empty (found : referenceOf? written = some reference) :
    ¬ Inside (.mapping written) (.mapping []) := by
  intro inside
  cases inside with
  | here => cases found
  | entry member _ => cases member

mutual
/-- **The references in the result of an expansion** are those that it leaves and those that it
makes. -/
theorem Expands.inside_iff (found : referenceOf? written = some reference) {place : Place}
    {seen : List String} {tree : Tree} {memory : Memory} {outcome : Outcome Tree} :
    Expands surroundings .collecting place seen tree memory outcome →
      ∀ result, outcome.1 = .ok result →
        (Inside (.mapping written) result ↔
          ReachesSome surroundings .collecting (·.Gives surroundings (.mapping written))
            ⟨place, seen, .tree tree, memory⟩)
  | .failed _ _ => nofun
  | .back same leads => by
    rintro _ ⟨⟩
    rw [reachesSome_of_none (not_enters_of_lead same leads nofun), gives_back_iff same leads]
  | .noDocument same leads => by
    rintro _ ⟨⟩
    rw [reachesSome_of_none (not_enters_of_lead same leads nofun)]
    exact iff_of_false (not_inside_empty found) (not_gives_of_lead same leads nofun)
  | .noNode same leads => by
    rintro _ ⟨⟩
    rw [reachesSome_of_none (not_enters_of_lead same leads nofun)]
    exact iff_of_false (not_inside_empty found) (not_gives_of_lead same leads nofun)
  | .value same leads inner => by
    intro result gives
    rw [reachesSome_of_one (enters_value_iff same leads),
      or_iff_right (not_gives_of_lead same leads nofun)]
    exact inner.inside_iff found result gives
  | .mapping absent inner => by
    have members := inner.inside_iff found
    intro result gives
    obtain ⟨results, rfl, rfl⟩ := map_eq_ok_iff.mp gives
    rw [reachesSome_of_one (enters_mapping_iff absent), gives_mapping_iff absent inner,
      inside_mapping_iff, members results rfl]
  | .list inner => by
    have members := inner.inside_iff found
    intro result gives
    obtain ⟨results, rfl, rfl⟩ := map_eq_ok_iff.mp gives
    rw [reachesSome_of_one enters_list_iff,
      or_iff_right (not_gives_of_piece (.tree (.list _)) nofun), mapping_inside_list_iff,
      members results rfl]
  | .scalar noMapping noList => by
    rintro _ ⟨⟩
    rw [reachesSome_of_none (not_enters_of_scalar noMapping noList)]
    refine iff_of_false ?_
      (not_gives_of_piece _ fun entries same => noMapping entries (Piece.tree.inj same))
    intro inside
    cases inside with
    | here | entry => exact noMapping _ rfl
    | item => exact noList _ rfl

theorem ExpandsItems.inside_iff (found : referenceOf? written = some reference) {place : Place}
    {seen : List String} {items : List Tree} {memory : Memory} {outcome : Outcome (List Tree)} :
    ExpandsItems surroundings .collecting place seen items memory outcome →
      ∀ results, outcome.1 = .ok results →
        ((∃ result ∈ results, Inside (.mapping written) result) ↔
          ReachesSome surroundings .collecting (·.Gives surroundings (.mapping written))
            ⟨place, seen, .items items, memory⟩)
  | .nil => by
    rintro _ ⟨⟩
    rw [reachesSome_of_none not_enters_of_noItems]
    exact iff_of_false (by simp) (not_gives_of_piece (.items []) nofun)
  | .failed _ => nofun
  | .cons first others => by
    have one := first.inside_iff found
    have more := others.inside_iff found
    intro results gives
    obtain ⟨rest, rfl, rfl⟩ := map_eq_ok_iff.mp gives
    rw [reachesSome_of_two (enters_items_iff first),
      or_iff_right (not_gives_of_piece (.items _) nofun), List.exists_mem_cons_iff, one _ rfl,
      more rest rfl]

theorem ExpandsEntries.inside_iff (found : referenceOf? written = some reference) {place : Place}
    {seen : List String} {entries : List (String × Tree)} {memory : Memory}
    {outcome : Outcome (List (String × Tree))} :
    ExpandsEntries surroundings .collecting place seen entries memory outcome →
      ∀ results, outcome.1 = .ok results →
        ((∃ entry ∈ results, Inside (.mapping written) entry.2) ↔
          ReachesSome surroundings .collecting (·.Gives surroundings (.mapping written))
            ⟨place, seen, .entries entries, memory⟩)
  | .nil => by
    rintro _ ⟨⟩
    rw [reachesSome_of_none not_enters_of_noEntries]
    exact iff_of_false (by simp) (not_gives_of_piece (.entries []) nofun)
  | .failed _ => nofun
  | .cons first others => by
    have one := first.inside_iff found
    have more := others.inside_iff found
    intro results gives
    obtain ⟨rest, rfl, rfl⟩ := map_eq_ok_iff.mp gives
    rw [reachesSome_of_two (enters_entries_iff first),
      or_iff_right (not_gives_of_piece (.entries _) nofun), List.exists_mem_cons_iff, one _ rfl,
      more rest rfl]
end

end Result

/-! ## Where a reference that is left is written -/

/-- A node is left in a place: an expansion there, reached from the start, leaves it. -/
def Left (surroundings : Surroundings) (start : Expansion) (place : Place) (node : Tree) : Prop :=
  ∃ inner, Reaches surroundings .collecting start inner ∧ inner.place = place ∧
    inner.Leaves surroundings node

/-- A node is made: an expansion that is reached from the start makes it. -/
def Made (surroundings : Surroundings) (start : Expansion) (node : Tree) : Prop :=
  ∃ inner, Reaches surroundings .collecting start inner ∧ inner.Makes surroundings node

/-- A node that is given is left somewhere or made. -/
theorem gives_iff_left_or_made {surroundings : Surroundings} {start : Expansion} {node : Tree} :
    ReachesSome surroundings .collecting (·.Gives surroundings node) start ↔
      (∃ place, Left surroundings start place node) ∨ Made surroundings start node := by
  constructor
  · rintro ⟨inner, reaches, leaves | makes⟩
    · exact .inl ⟨_, inner, reaches, rfl, leaves⟩
    · exact .inr ⟨inner, reaches, makes⟩
  · rintro (⟨_, inner, reaches, _, leaves⟩ | ⟨inner, reaches, makes⟩)
    · exact ⟨inner, reaches, .inl leaves⟩
    · exact ⟨inner, reaches, .inr makes⟩

/-- A node of a piece. -/
def Piece.Holds (node : Tree) : Piece → Prop
  | .tree whole => Inside node whole
  | .items rest => ∃ item ∈ rest, Inside node item
  | .entries rest => ∃ entry ∈ rest, Inside node entry.2

/-- The place of the tree itself, or that of a document that loads. -/
def Place.Original (surroundings : Surroundings) (root place : Place) : Prop :=
  place = root ∨
    ∃ location, place.location = some location ∧ surroundings.load location = .ok place.root

/-- An expansion of nodes of its place, which is that of the tree or of a document that loads. -/
structure Expansion.Placed (surroundings : Surroundings) (root : Place) (expansion : Expansion) :
    Prop where
  original : Place.Original surroundings root expansion.place
  inside : ∀ node, expansion.piece.Holds node → Inside node expansion.place.root
  faithful : expansion.memory.Faithful surroundings

section Placed

variable {surroundings : Surroundings} {mode : Mode} {root : Place} {outer inner : Expansion}

/-- What a placed expansion enters is placed. -/
theorem Expansion.Placed.of_enters (placed : outer.Placed surroundings root)
    (enters : Enters surroundings mode outer inner) : inner.Placed surroundings root := by
  have faithful := enters.keeps (kept_faithful surroundings) placed.faithful
  cases enters with
  | value found leads =>
    obtain ⟨leadsTo, _⟩ := lead_run_inv placed.faithful leads
    obtain ⟨reaches, _, _, follows⟩ := leadOf_eq_value_iff.mp leadsTo
    refine ⟨?_, ?_, faithful⟩
    · rcases reach_cases reaches with ⟨_, rfl⟩ | ⟨_, location, _, there, loads⟩
      · exact placed.original
      · exact .inr ⟨location, there, loads⟩
    · intro node inside
      exact inside.trans (inside_of_follow follows)
  | entries absent =>
    refine ⟨placed.original, ?_, faithful⟩
    rintro node ⟨entry, member, inside⟩
    exact placed.inside node (.entry member inside)
  | items =>
    refine ⟨placed.original, ?_, faithful⟩
    rintro node ⟨item, member, inside⟩
    exact placed.inside node (.item member inside)
  | item =>
    refine ⟨placed.original, ?_, faithful⟩
    intro node inside
    exact placed.inside node ⟨_, List.mem_cons_self, inside⟩
  | otherItems first =>
    refine ⟨placed.original, ?_, faithful⟩
    rintro node ⟨item, member, inside⟩
    exact placed.inside node ⟨item, List.mem_cons_of_mem _ member, inside⟩
  | entry =>
    refine ⟨placed.original, ?_, faithful⟩
    intro node inside
    exact placed.inside node ⟨_, List.mem_cons_self, inside⟩
  | otherEntries first =>
    refine ⟨placed.original, ?_, faithful⟩
    rintro node ⟨entry, member, inside⟩
    exact placed.inside node ⟨entry, List.mem_cons_of_mem _ member, inside⟩

/-- What a placed expansion reaches is placed. -/
theorem Expansion.Placed.of_reaches (placed : outer.Placed surroundings root)
    (reaches : Reaches surroundings mode outer inner) :
    inner.Placed surroundings root :=
  reaches.preserves (fun enters placed => placed.of_enters enters) placed

theorem Expansion.whole_placed (surroundings : Surroundings) (base : Option String) (tree : Tree) :
    (Expansion.whole base tree .empty).Placed surroundings ⟨tree, base⟩ :=
  ⟨.inl rfl, fun _ inside => inside, Memory.faithful_empty surroundings⟩

end Placed

section Start

variable {surroundings : Surroundings} {base : Option String} {tree : Tree} {inner : Expansion}

/-- A reference is left since what it denotes is open around it. -/
theorem Expansion.Leaves.open {node : Tree} (faithful : inner.memory.Faithful surroundings)
    (leaves : inner.Leaves surroundings node) :
    ∃ entries reference location, inner.piece = .tree (.mapping entries) ∧
      Inside node (.mapping entries) ∧ referenceOf? entries = some reference ∧
      denotes surroundings inner.place.location reference =
        .ok (location, (cut reference).2) ∧
      cycleKey location (cut reference).2 ∈ inner.seen := by
  cases leaves with
  | intro found leads inside =>
    obtain ⟨leadsBack, _⟩ := lead_run_inv faithful leads
    obtain ⟨there, reaches, met⟩ := leadOf_eq_back_iff.mp leadsBack
    exact ⟨_, _, there.location, rfl, inside, found, denotes_of_reach reaches, met⟩

/-- What is left in a place is written there. -/
theorem Left.written {place : Place} {node : Tree}
    (left : Left surroundings (.whole base tree .empty) place node) :
    Place.Original surroundings ⟨tree, base⟩ place ∧ Inside node place.root := by
  obtain ⟨inner, reaches, rfl, leaves⟩ := left
  have placed := (Expansion.whole_placed surroundings base tree).of_reaches reaches
  obtain ⟨entries, _, _, piece, inside, _⟩ := leaves.open placed.faithful
  refine ⟨placed.original, placed.inside node ?_⟩
  rw [piece]
  exact inside

/-- A tree whose references all name their own document is expanded in its own place alone. -/
theorem Reaches.place_eq (own : ∀ reference ∈ writtenIn tree, (cut reference).1 = "")
    (reaches : Reaches surroundings .collecting (.whole base tree .empty) inner) :
    inner.place = ⟨tree, base⟩ := by
  induction reaches with
  | refl => rfl
  | tail before enters ih =>
    have placed := (Expansion.whole_placed surroundings base tree).of_reaches before
    cases enters with
    | @value place _ _ _ reference _ _ _ _ found leads =>
      obtain rfl : place = ⟨tree, base⟩ := ih
      have written := writtenIn_subset_of_inside (placed.inside _ .here) (mem_of_referenceOf? found)
      obtain ⟨leadsTo, _⟩ := lead_run_inv placed.faithful leads
      obtain ⟨reaches, _⟩ := leadOf_eq_value_iff.mp leadsTo
      rw [own reference written] at reaches
      cases reaches
      rfl
    | _ => exact ih

/-- **When a reference that is left keeps its meaning.**  The references in a result are those that
are left and those that are made.  One that is left stands in the tree or in a document that loads,
in a mapping whose reference denotes what is open around it.  Read in the result it denotes the
same as there exactly if the location of the whole and its own agree on the document that it names.
This holds of all when the references of the tree all name their own document; in a world it holds
of web addresses, and of other documents when the two locations are of one directory. -/
theorem left_denotes_same_iff (surroundings : Surroundings) (base : Option String)
    (tree result : Tree) (messages : List String)
    (collects : resolveCollecting surroundings base tree = (.ok result, messages)) :
    (∀ entries reference, referenceOf? entries = some reference →
      (Inside (.mapping entries) result ↔
        (∃ place, Left surroundings (.whole base tree .empty) place (.mapping entries)) ∨
          Made surroundings (.whole base tree .empty) (.mapping entries))) ∧
    (∀ inner node, Reaches surroundings .collecting (.whole base tree .empty) inner →
      inner.Leaves surroundings node →
      ∃ entries reference location, inner.piece = .tree (.mapping entries) ∧
        Inside node (.mapping entries) ∧ referenceOf? entries = some reference ∧
        denotes surroundings inner.place.location reference =
          .ok (location, (cut reference).2) ∧
        cycleKey location (cut reference).2 ∈ inner.seen) ∧
    (∀ place entries reference,
      Left surroundings (.whole base tree .empty) place (.mapping entries) →
      referenceOf? entries = some reference →
      Place.Original surroundings ⟨tree, base⟩ place ∧
        Inside (.mapping entries) place.root ∧
        (denotes surroundings base reference =
            denotes surroundings place.location reference ↔
          Agree surroundings base place.location (cut reference).1)) ∧
    ((∀ reference ∈ writtenIn tree, (cut reference).1 = "") →
      ∀ place entries reference,
        Left surroundings (.whole base tree .empty) place (.mapping entries) →
        referenceOf? entries = some reference →
        denotes surroundings base reference =
          denotes surroundings place.location reference) ∧
    ∀ world enabled, surroundings = World.surroundings world enabled →
      ∀ place reference,
        isWebAddress (cut reference).1 = true ∨
          (cut reference).1 ≠ "" ∧ (∃ here there, base = some here ∧
            place.location = some there ∧ isWebAddress here = false ∧
            isWebAddress there = false ∧
            (Path.ofText here).parent = (Path.ofText there).parent) →
        denotes surroundings base reference =
          denotes surroundings (Place.location place) reference := by
  refine ⟨?_, ?_, ?_, ?_, ?_⟩
  · intro entries reference found
    obtain ⟨after, expands, _⟩ := expands_of_resolveCollecting collects
    rw [expands.inside_iff found result rfl]
    exact gives_iff_left_or_made
  · intro inner node reaches leaves
    have placed := (Expansion.whole_placed surroundings base tree).of_reaches reaches
    exact leaves.open placed.faithful
  · intro place entries reference left _
    obtain ⟨original, written⟩ := left.written
    exact ⟨original, written, denotes_eq_iff⟩
  · rintro own _ entries reference ⟨inner, reaches, rfl, _⟩ _
    rw [reaches.place_eq own]
  · rintro world enabled rfl place reference alike
    rw [denotes_eq_iff]
    rcases alike with web | ⟨named, here, there, rfl, same, hereIsPath, thereIsPath, sameDirectory⟩
    · exact agree_of_webAddress world enabled web _ _
    · rw [same]
      exact agree_of_sameDirectory world enabled named hereIsPath thereIsPath sameDirectory

end Start

/-! ## A definition that contains itself in another document -/

/-- The reference in the definition. -/
def nodeReference : Tree := .mapping [("$ref", .text "#/Node")]

/-- The reference to itself. -/
def selfReference : Tree := .mapping [("$ref", .text "#/self")]

/-- The tree with its references replaced, but for those two. -/
def recursiveResult : Tree :=
  .mapping [("list", .mapping [("next", nodeReference)]), ("self", selfReference)]

/-- The place of the other document. -/
def nodesPlace : Place := ⟨recursiveDocument, some "nodes.json"⟩

/-- What is known once the document is loaded. -/
def nodesMemory : Memory := ⟨[("nodes.json", recursiveDocument)], [], [], ["nodes.json"]⟩

theorem lead_list :
    (lead recursiveSurroundings ⟨recursiveTree, none⟩ [] "nodes.json#/Node").run.run .empty =
      (.ok (.value nodesPlace "nodes.json#/Node" (.mapping [("next", nodeReference)])),
        nodesMemory) := rfl

theorem lead_next :
    (lead recursiveSurroundings nodesPlace ["nodes.json#/Node"] "#/Node").run.run nodesMemory =
      (.ok .back, nodesMemory) := rfl

theorem lead_self :
    (lead recursiveSurroundings ⟨recursiveTree, none⟩ [] "#/self").run.run nodesMemory =
      (.ok (.value ⟨recursiveTree, none⟩ "#/self" selfReference), nodesMemory) := rfl

theorem lead_selfAgain :
    (lead recursiveSurroundings ⟨recursiveTree, none⟩ ["#/self"] "#/self").run.run nodesMemory =
      (.ok .back, nodesMemory) := rfl

theorem expands_list :
    Expands recursiveSurroundings .collecting ⟨recursiveTree, none⟩ []
      (.mapping [("$ref", .text "nodes.json#/Node")]) .empty
      (.ok (.mapping [("next", nodeReference)]), nodesMemory) :=
  .value rfl lead_list (.mapping rfl (.cons (.back rfl lead_next) .nil))

theorem resolveCollecting_recursiveTree :
    resolveCollecting recursiveSurroundings none recursiveTree = (.ok recursiveResult, []) := by
  have self : Expands recursiveSurroundings .collecting ⟨recursiveTree, none⟩ [] selfReference
      nodesMemory (.ok selfReference, nodesMemory) :=
    .value rfl lead_self (.back rfl lead_selfAgain)
  exact resolveCollecting_of_expands (.mapping rfl (.cons expands_list (.cons self .nil)))

/-- The reference in the definition is left in the other document. -/
theorem left_nodeReference :
    Left recursiveSurroundings (.whole none recursiveTree .empty) nodesPlace nodeReference := by
  refine ⟨_, ?_, rfl, ⟨rfl, lead_next, .here⟩⟩
  have reaches := Relation.ReflTransGen.refl (r := Enters recursiveSurroundings .collecting)
    (a := .whole none recursiveTree .empty)
  exact ((((reaches.tail (.entries rfl)).tail .entry).tail (.value rfl lead_list)).tail
    (.entries rfl)).tail .entry

/-- The reference to itself is left in the tree. -/
theorem left_selfReference :
    Left recursiveSurroundings (.whole none recursiveTree .empty) ⟨recursiveTree, none⟩
      selfReference := by
  refine ⟨_, ?_, rfl, ⟨rfl, lead_selfAgain, .here⟩⟩
  have reaches := Relation.ReflTransGen.refl (r := Enters recursiveSurroundings .collecting)
    (a := .whole none recursiveTree .empty)
  exact ((((reaches.tail (.entries rfl)).tail (.otherEntries expands_list)).tail .entry).tail
    (.value rfl lead_self))

/-- The reference to itself keeps its meaning in the result; the one in the definition does
not. -/
theorem left_denotes_same_recursiveTree :
    resolveCollecting recursiveSurroundings none recursiveTree = (.ok recursiveResult, []) ∧
    Inside selfReference recursiveResult ∧ Inside nodeReference recursiveResult ∧
    denotes recursiveSurroundings none "#/self" =
      denotes recursiveSurroundings (Place.location ⟨recursiveTree, none⟩) "#/self" ∧
    denotes recursiveSurroundings none "#/Node" ≠
      denotes recursiveSurroundings nodesPlace.location "#/Node" := by
  obtain ⟨result, _, meaning, _⟩ := left_denotes_same_iff _ _ _ _ _ resolveCollecting_recursiveTree
  obtain ⟨_, _, same⟩ := meaning _ _ "#/self" left_selfReference rfl
  obtain ⟨_, _, other⟩ := meaning _ _ "#/Node" left_nodeReference rfl
  refine ⟨resolveCollecting_recursiveTree, ?_, ?_, same.mpr rfl, ?_⟩
  · exact (result _ "#/self" rfl).mpr (.inl ⟨_, left_selfReference⟩)
  · exact (result _ "#/Node" rfl).mpr (.inl ⟨_, left_nodeReference⟩)
  · intro equal
    cases other.mp equal

/-- The reference in the definition is left in the result as it is written in the other document.
There it denotes the definition; in the result it denotes a node of the tree, and there is none. -/
theorem left_denotes_another :
    resolveCollecting recursiveSurroundings none recursiveTree = (.ok recursiveResult, []) ∧
    Inside nodeReference recursiveResult ∧
    Left recursiveSurroundings (.whole none recursiveTree .empty) nodesPlace nodeReference ∧
    denotes recursiveSurroundings nodesPlace.location "#/Node" =
      .ok (some "nodes.json", "/Node") ∧
    denotes recursiveSurroundings none "#/Node" = .ok (none, "/Node") ∧
    denotes recursiveSurroundings none "#/Node" ≠
      denotes recursiveSurroundings nodesPlace.location "#/Node" ∧
    recursiveResult.follow "/Node" = .error (.missingKey "Node") := by
  have there : denotes recursiveSurroundings nodesPlace.location "#/Node" =
      .ok (some "nodes.json", "/Node") := rfl
  have here : denotes recursiveSurroundings none "#/Node" = .ok (none, "/Node") := rfl
  refine ⟨resolveCollecting_recursiveTree, ?_, left_nodeReference, there, here, ?_, rfl⟩
  · exact .entry List.mem_cons_self (.entry List.mem_cons_self .here)
  · rw [there, here]
    exact nofun

end ApiAdmission.Reference
