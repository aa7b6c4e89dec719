import ApiAdmission.Proofs.Reference.Nesting
import Mathlib.Data.Finset.Card

/-!
# Every replacement of references ends

A reference may lead to a larger tree than the one it stands in, and into another document, so no
part of the data gets smaller along all calls.  What bounds them are the keys: a reference whose key
is already open is kept, so the open keys are all different, and they are made of the places that
there are and of the references written there (`openableKeys`).  Every call either opens one more of
these keys or goes down into its piece of a tree (`Enters.decreases`).

So no chain of calls is endless, an expansion whose calls end ends (`Expansion.ends_of_enters`), and
the replacement of references ends in both modes, with no more expansions of references inside one
another than there are keys (`expansion_ends`).  Not all that loads has to be among finitely many
documents for that: it is enough that no reference leads out of them
(`Expansion.Confined.ends_of_closed`).
-/

namespace ApiAdmission.Reference

set_option autoImplicit false

/-! ## The references that are written in a tree -/

mutual
/-- The texts under the key of references in a tree, at any depth. -/
def writtenIn : Tree → List String
  | .mapping entries => writtenInEntries entries
  | .list items => writtenInItems items
  | _ => []
termination_by structural tree => tree

/-- The references that are written in the items of a list. -/
def writtenInItems : List Tree → List String
  | [] => []
  | item :: rest => writtenIn item ++ writtenInItems rest
termination_by structural items => items

/-- The references that are written in the entries of a mapping. -/
def writtenInEntries : List (String × Tree) → List String
  | [] => []
  | (name, value) :: rest =>
    (if name == key then value.text?.toList else []) ++ writtenIn value ++ writtenInEntries rest
termination_by structural entries => entries
end

/-- The references that are written in a piece. -/
def Piece.written : Piece → List String
  | .tree whole => writtenIn whole
  | .items rest => writtenInItems rest
  | .entries rest => writtenInEntries rest

theorem writtenIn_subset_items {item : Tree} {items : List Tree} (member : item ∈ items) :
    writtenIn item ⊆ writtenInItems items := by
  induction items with
  | nil => cases member
  | cons first rest ih =>
    rw [writtenInItems]
    rcases List.mem_cons.mp member with rfl | later
    · exact List.subset_append_left _ _
    · exact List.subset_append_of_subset_right _ (ih later)

theorem writtenIn_subset_entries {name : String} {value : Tree} {entries : List (String × Tree)}
    (member : (name, value) ∈ entries) : writtenIn value ⊆ writtenInEntries entries := by
  induction entries with
  | nil => cases member
  | cons first rest ih =>
    obtain ⟨other, stored⟩ := first
    rw [writtenInEntries]
    rcases List.mem_cons.mp member with same | later
    · cases same
      exact List.subset_append_of_subset_left _ (List.subset_append_right _ _)
    · exact List.subset_append_of_subset_right _ (ih later)

/-- What is written in a node of a tree is written in the tree. -/
theorem writtenIn_subset_of_inside {node tree : Tree} (inside : Inside node tree) :
    writtenIn node ⊆ writtenIn tree := by
  induction inside with
  | here => exact fun _ member => member
  | item member _ ih => exact List.Subset.trans ih (writtenIn_subset_items member)
  | entry member _ ih => exact List.Subset.trans ih (writtenIn_subset_entries member)

/-- The reference that a mapping is stands in it. -/
theorem mem_of_referenceOf? {entries : List (String × Tree)} {reference : String}
    (found : referenceOf? entries = some reference) : reference ∈ writtenInEntries entries := by
  obtain ⟨value, stored, text⟩ := Option.bind_eq_some_iff.mp found
  have member := Tree.mem_of_lookup? stored
  clear found stored
  induction entries with
  | nil => cases member
  | cons first rest ih =>
    obtain ⟨other, other_value⟩ := first
    rw [writtenInEntries]
    rcases List.mem_cons.mp member with same | later
    · cases same
      simp [text]
    · exact List.mem_append_right _ (ih later)

/-! ## The keys that can be opened -/

/-- The places that there are: the one of the tree that is expanded, and those of the documents. -/
def places (root : Place) (documents : List (String × Tree)) : List Place :=
  root :: documents.map fun document => ⟨document.2, some document.1⟩

/-- The references that are written anywhere in these places. -/
def writtenAnywhere (root : Place) (documents : List (String × Tree)) : List String :=
  (places root documents).flatMap fun place => writtenIn place.root

/-- The keys made of a location of these places and of the pointer of a reference written there. -/
def openableKeys (root : Place) (documents : List (String × Tree)) : Finset String :=
  ((places root documents).flatMap fun place =>
    (writtenAnywhere root documents).map fun reference =>
      cycleKey place.location (cut reference).2).toFinset

section Known

variable {surroundings : Surroundings} {mode : Mode} {root : Place}
  {documents : List (String × Tree)}

theorem Place.Remembered.mem_places {memory : Memory} {place : Place}
    (remembered : place.Remembered memory) (known : ∀ entry ∈ memory.documents, entry ∈ documents) :
    place ∈ places root documents := by
  obtain ⟨location, tree, rfl, stored⟩ := remembered
  exact List.mem_cons_of_mem _ (List.mem_map.mpr ⟨(location, tree), known _ stored, rfl⟩)

theorem written_of_mem_places {place : Place} (there : place ∈ places root documents) :
    writtenIn place.root ⊆ writtenAnywhere root documents :=
  fun _ member => List.mem_flatMap.mpr ⟨place, there, member⟩

theorem mem_openableKeys {place : Place} {reference : String}
    (there : place ∈ places root documents) (member : reference ∈ writtenAnywhere root documents) :
    cycleKey place.location (cut reference).2 ∈ openableKeys root documents :=
  List.mem_toFinset.mpr (List.mem_flatMap.mpr
    ⟨place, there, List.mem_map.mpr ⟨reference, member, rfl⟩⟩)

/-! ## What every expansion of a run is like -/

/-- An expansion of what is written in known places.  The keys that are open around it are
different, and are all of those that can be opened. -/
structure Expansion.Confined (root : Place) (documents : List (String × Tree))
    (expansion : Expansion) : Prop where
  place : expansion.place ∈ places root documents
  written : expansion.piece.written ⊆ writtenAnywhere root documents
  nodup : expansion.seen.Nodup
  openable : ∀ key ∈ expansion.seen, key ∈ openableKeys root documents

/-- An expansion that is confined to known places, and starts from a memory of known documents. -/
structure Expansion.Known (root : Place) (documents : List (String × Tree))
    (expansion : Expansion) : Prop where
  place : expansion.place ∈ places root documents
  written : expansion.piece.written ⊆ writtenAnywhere root documents
  nodup : expansion.seen.Nodup
  openable : ∀ key ∈ expansion.seen, key ∈ openableKeys root documents
  remembered : ∀ entry ∈ expansion.memory.documents, entry ∈ documents

theorem Expansion.Known.confined {expansion : Expansion} (known : expansion.Known root documents) :
    expansion.Confined root documents :=
  ⟨known.place, known.written, known.nodup, known.openable⟩

theorem Expansion.whole_confined (base : Option String) (tree : Tree) (memory : Memory)
    (documents : List (String × Tree)) :
    (Expansion.whole base tree memory).Confined ⟨tree, base⟩ documents := by
  have here : (⟨tree, base⟩ : Place) ∈ places ⟨tree, base⟩ documents := List.mem_cons_self
  exact {
    place := here
    written := written_of_mem_places here
    nodup := List.nodup_nil
    openable := fun _ member => (List.not_mem_nil member).elim }

theorem Expansion.whole_known {base : Option String} {tree : Tree} {memory : Memory}
    (known : ∀ entry ∈ memory.documents, entry ∈ documents) :
    (Expansion.whole base tree memory).Known ⟨tree, base⟩ documents := by
  have confined := Expansion.whole_confined base tree memory documents
  exact ⟨confined.place, confined.written, confined.nodup, confined.openable, known⟩

/-- The open keys are no more than those that can be opened. -/
theorem Expansion.Confined.length_le {expansion : Expansion}
    (confined : expansion.Confined root documents) :
    expansion.seen.length ≤ (openableKeys root documents).card := by
  rw [← List.toFinset_card_of_nodup confined.nodup]
  exact Finset.card_le_card fun key member => confined.openable key (List.mem_toFinset.mp member)

/-- What a confined expansion enters is confined too, if it stands in a known place. -/
theorem Expansion.Confined.of_enters {outer inner : Expansion}
    (confined : outer.Confined root documents) (enters : Enters surroundings mode outer inner)
    (there : inner.place ∈ places root documents) : inner.Confined root documents := by
  cases enters with
  | value found leads =>
    obtain ⟨_, same, new, follows⟩ := (lead_grows leads).2 _ _ _ rfl
    have openable := mem_openableKeys there (confined.written (mem_of_referenceOf? found))
    exact {
      place := there
      written := List.Subset.trans (writtenIn_subset_of_inside (inside_of_follow follows))
        (written_of_mem_places there)
      nodup := List.nodup_cons.mpr ⟨new, confined.nodup⟩
      openable := List.forall_mem_cons.mpr ⟨same ▸ openable, confined.openable⟩ }
  | entries absent => exact { confined with }
  | items => exact { confined with }
  | item =>
    exact { confined with
      written := List.Subset.trans (writtenIn_subset_items List.mem_cons_self) confined.written }
  | otherItems first =>
    exact { confined with
      written := List.Subset.trans (List.subset_append_right _ _) confined.written }
  | entry =>
    exact { confined with
      written := List.Subset.trans (writtenIn_subset_entries List.mem_cons_self) confined.written }
  | otherEntries first =>
    exact { confined with
      written := List.Subset.trans (List.subset_append_right _ _) confined.written }

/-- When all documents that load are known, so are those that a memory comes to hold. -/
theorem kept_documents
    (loadable : ∀ location tree, surroundings.load location = .ok tree →
      (location, tree) ∈ documents) :
    Kept surroundings fun memory => ∀ entry ∈ memory.documents, entry ∈ documents where
  leading leads before entry member := by
    rcases (lead_grows leads).1.documents entry member with known | loads
    · exact before entry known
    · exact loadable _ _ loads
  saying _ before := before

/-- What a known expansion enters is known too. -/
theorem Expansion.Known.of_enters {outer inner : Expansion} (known : outer.Known root documents)
    (loadable : ∀ location tree, surroundings.load location = .ok tree →
      (location, tree) ∈ documents)
    (enters : Enters surroundings mode outer inner) : inner.Known root documents := by
  have remembered := enters.keeps (kept_documents loadable) known.remembered
  have there : inner.place ∈ places root documents := by
    cases enters with
    | value found leads =>
      obtain ⟨origin, _⟩ := (lead_grows leads).2 _ _ _ rfl
      exact origin.elim (fun same => same ▸ known.place) (·.mem_places remembered)
    | _ => exact known.place
  have confined := known.confined.of_enters enters there
  exact ⟨confined.place, confined.written, confined.nodup, confined.openable, remembered⟩

/-- What a known expansion reaches is known too. -/
theorem Expansion.Known.of_reaches {outer inner : Expansion} (known : outer.Known root documents)
    (loadable : ∀ location tree, surroundings.load location = .ok tree →
      (location, tree) ∈ documents)
    (reaches : Reaches surroundings mode outer inner) : inner.Known root documents :=
  reaches.preserves (fun enters known => known.of_enters loadable enters) known

/-! ## Calls that end -/

/-- How much a piece holds.  A tree holds more than its members together, and these more than any
one of them. -/
def Piece.weight : Piece → Nat
  | .tree whole => 2 * whole.size
  | .items rest => 2 * Tree.sizeOfItems rest + 1
  | .entries rest => 2 * Tree.sizeOfEntries rest + 1

theorem size_pos (tree : Tree) : 0 < tree.size := by
  cases tree <;> simp only [Tree.size] <;> omega

/-- What decreases along calls: the keys that are still to be opened, and then the piece. -/
def Expansion.extent (root : Place) (documents : List (String × Tree)) (expansion : Expansion) :
    Nat × Nat :=
  ((openableKeys root documents).card - expansion.seen.length, expansion.piece.weight)

/-- **Every call opens a key or goes down into its piece.** -/
theorem Enters.decreases {outer inner : Expansion} (enters : Enters surroundings mode outer inner)
    (confined : inner.Confined root documents) :
    Prod.Lex (· < ·) (· < ·) (inner.extent root documents) (outer.extent root documents) := by
  have fits := confined.length_le
  cases enters with
  | value =>
    refine Prod.Lex.left _ _ ?_
    simp only [List.length_cons] at fits ⊢
    omega
  | entries | items | item | entry =>
    refine Prod.Lex.right _ ?_
    simp only [Piece.weight, Tree.size, Tree.sizeOfItems, Tree.sizeOfEntries]
    omega
  | @otherItems _ _ item | @otherEntries _ _ _ item =>
    have some_size := size_pos item
    refine Prod.Lex.right _ ?_
    simp only [Piece.weight, Tree.sizeOfItems, Tree.sizeOfEntries]
    omega

/-- An expansion has an outcome. -/
def Expansion.Ends (surroundings : Surroundings) (mode : Mode) (expansion : Expansion) : Prop :=
  match expansion.piece with
  | .tree tree => ∃ outcome,
    Expands surroundings mode expansion.place expansion.seen tree expansion.memory outcome
  | .items items => ∃ outcome,
    ExpandsItems surroundings mode expansion.place expansion.seen items expansion.memory outcome
  | .entries entries => ∃ outcome,
    ExpandsEntries surroundings mode expansion.place expansion.seen entries expansion.memory
      outcome

/-- An expansion ends when all that it enters ends. -/
theorem Expansion.ends_of_enters {expansion : Expansion}
    (entered : ∀ inner, Enters surroundings mode expansion inner → inner.Ends surroundings mode) :
    expansion.Ends surroundings mode := by
  obtain ⟨place, seen, piece, memory⟩ := expansion
  cases piece with
  | tree tree =>
    cases tree with
    | mapping entries =>
      cases found : referenceOf? entries with
      | none =>
        obtain ⟨⟨outcome, after⟩, inner⟩ := entered _ (.entries found)
        exact ⟨_, .mapping found inner⟩
      | some reference =>
        rcases leads : (lead surroundings place seen reference).run.run memory with
          ⟨failure | (_ | reason | fault | ⟨there, key, value⟩), after⟩
        · exact ⟨_, .failed found leads⟩
        · exact ⟨_, .back found leads⟩
        · exact ⟨_, .noDocument found leads⟩
        · exact ⟨_, .noNode found leads⟩
        · obtain ⟨outcome, inner⟩ := entered _ (.value found leads)
          exact ⟨outcome, .value found leads inner⟩
    | list items =>
      obtain ⟨⟨outcome, after⟩, inner⟩ := entered _ .items
      exact ⟨_, .list inner⟩
    | _ => exact ⟨_, .scalar nofun nofun⟩
  | items items =>
    cases items with
    | nil => exact ⟨_, .nil⟩
    | cons item rest =>
      obtain ⟨⟨failure | result, between⟩, first⟩ := entered _ .item
      · exact ⟨_, .failed first⟩
      · obtain ⟨⟨outcome, after⟩, others⟩ := entered _ (.otherItems first)
        exact ⟨_, .cons first others⟩
  | entries entries =>
    cases entries with
    | nil => exact ⟨_, .nil⟩
    | cons entry rest =>
      obtain ⟨⟨failure | result, between⟩, first⟩ := entered _ .entry
      · exact ⟨_, .failed first⟩
      · obtain ⟨⟨outcome, after⟩, others⟩ := entered _ (.otherEntries first)
        exact ⟨_, .cons first others⟩

/-- An expansion ends when it has what all calls preserve and what confines them. -/
theorem Expansion.ends_of_invariant (root : Place) (documents : List (String × Tree))
    {holds : Expansion → Prop}
    (confined : ∀ expansion, holds expansion → expansion.Confined root documents)
    (preserved : ∀ outer inner, Enters surroundings mode outer inner → holds outer → holds inner)
    (expansion : Expansion) (start : holds expansion) : expansion.Ends surroundings mode :=
  Expansion.ends_of_enters fun inner enters =>
    ends_of_invariant root documents confined preserved inner (preserved _ _ enters start)
termination_by expansion.extent root documents
decreasing_by exact enters.decreases (confined _ (preserved _ _ enters start))

/-- A known expansion ends. -/
theorem Expansion.Known.ends {expansion : Expansion} (known : expansion.Known root documents)
    (loadable : ∀ location tree, surroundings.load location = .ok tree →
      (location, tree) ∈ documents) :
    expansion.Ends surroundings mode :=
  Expansion.ends_of_invariant root documents (fun _ known => known.confined)
    (fun _ _ enters known => known.of_enters loadable enters) expansion known

/-- Documents are closed when no reference that is written in them, or in the tree that is expanded,
leads out of them from any of their places. -/
def Closed (surroundings : Surroundings) (root : Place) (documents : List (String × Tree)) : Prop :=
  ∀ place ∈ places root documents, ∀ reference ∈ writtenAnywhere root documents, ∀ there,
    reach surroundings place (cut reference).1 = .ok (.ok there) → there ∈ places root documents

/-- What a confined expansion enters stays confined to closed documents, as far as its memory is
faithful. -/
theorem Expansion.Confined.of_enters_closed {outer inner : Expansion}
    (confined : outer.Confined root documents) (faithful : outer.memory.Faithful surroundings)
    (closed : Closed surroundings root documents) (enters : Enters surroundings mode outer inner) :
    inner.Confined root documents := by
  refine confined.of_enters enters ?_
  cases enters with
  | value found leads =>
    obtain ⟨reaches, _⟩ := leadOf_eq_value_iff.mp (lead_run_inv faithful leads).1
    exact closed _ confined.place _ (confined.written (mem_of_referenceOf? found)) _ reaches
  | _ => exact confined.place

/-- A confined expansion ends when the documents are closed and its memory is faithful. -/
theorem Expansion.Confined.ends_of_closed {expansion : Expansion}
    (confined : expansion.Confined root documents)
    (faithful : expansion.memory.Faithful surroundings)
    (closed : Closed surroundings root documents) : expansion.Ends surroundings mode :=
  Expansion.ends_of_invariant root documents
    (fun expansion (here : expansion.Confined root documents ∧
      expansion.memory.Faithful surroundings) => here.1)
    (fun _ _ enters here => ⟨here.1.of_enters_closed here.2 closed enters,
      enters.keeps (kept_faithful surroundings) here.2⟩)
    expansion ⟨confined, faithful⟩

/-- **The replacement of references ends**, in both modes and whatever is remembered, when there are
finitely many documents that load.  No key is open twice, so the expansions of references inside one
another are no more than the keys made of the places that there are and of the references written
there. -/
theorem expansion_ends (surroundings : Surroundings) (mode : Mode) (base : Option String)
    (tree : Tree) (memory : Memory) (documents : List (String × Tree))
    (loadable : ∀ location document, surroundings.load location = .ok document →
      (location, document) ∈ documents)
    (remembered : ∀ document ∈ memory.documents, document ∈ documents) :
    (∃ outcome, surroundings.expand mode ⟨tree, base⟩ [] tree memory = some outcome ∧
      (resolve surroundings mode base tree).run.run memory = outcome) ∧
    ∀ inner, Reaches surroundings mode (.whole base tree memory) inner →
      inner.seen.Nodup ∧
        inner.seen.length ≤ (openableKeys ⟨tree, base⟩ documents).card := by
  have known : (Expansion.whole base tree memory).Known ⟨tree, base⟩ documents :=
    Expansion.whole_known remembered
  constructor
  · have ends : (Expansion.whole base tree memory).Ends surroundings mode := known.ends loadable
    obtain ⟨outcome, expands⟩ := ends
    exact ⟨outcome, expand_eq_some_iff.mpr expands, resolve_run_of_expands expands⟩
  · intro inner reaches
    have knownInner := known.of_reaches loadable reaches
    exact ⟨knownInner.nodup, knownInner.confined.length_le⟩

end Known

/-! ## A definition that contains itself in another document -/

/-- A document with a definition that contains itself. -/
def recursiveDocument : Tree :=
  .mapping [("Node", .mapping [("next", .mapping [("$ref", .text "#/Node")])])]

/-- Surroundings with that document alone. -/
def recursiveSurroundings : Surroundings where
  locate _ document := .ok document
  load location :=
    if location == "nodes.json" then .ok recursiveDocument else .error .disabled

/-- A tree that names the definition, and a reference to itself. -/
def recursiveTree : Tree :=
  .mapping [("list", .mapping [("$ref", .text "nodes.json#/Node")]),
    ("self", .mapping [("$ref", .text "#/self")])]

theorem load_recursive {location : String} {document : Tree}
    (loads : recursiveSurroundings.load location = .ok document) :
    (location, document) ∈ [("nodes.json", recursiveDocument)] := by
  unfold recursiveSurroundings at loads
  dsimp only at loads
  split at loads
  case isTrue same =>
    cases loads
    rw [eq_of_beq same]
    exact List.mem_cons_self
  case isFalse => cases loads

/-- The expansion of that tree ends, strict or not, with at most four references open at once. -/
theorem expansion_ends_recursiveTree :
    (∀ location document, recursiveSurroundings.load location = .ok document →
      (location, document) ∈ [("nodes.json", recursiveDocument)]) ∧
    (∃ outcome, recursiveSurroundings.expand .collecting ⟨recursiveTree, none⟩ [] recursiveTree
      .empty = some outcome) ∧
    (∃ outcome, recursiveSurroundings.expand .strict ⟨recursiveTree, none⟩ [] recursiveTree
      .empty = some outcome) ∧
    ∀ inner, Reaches recursiveSurroundings .collecting (.whole none recursiveTree .empty) inner →
      inner.seen.length ≤ 4 := by
  have loadable : ∀ location document, recursiveSurroundings.load location = .ok document →
      (location, document) ∈ [("nodes.json", recursiveDocument)] :=
    fun _ _ loads => load_recursive loads
  have nothing : ∀ document ∈ Memory.empty.documents,
      document ∈ [("nodes.json", recursiveDocument)] :=
    fun _ member => (List.not_mem_nil member).elim
  have keys :
      (openableKeys ⟨recursiveTree, none⟩ [("nodes.json", recursiveDocument)]).card = 4 := by
    decide +kernel
  obtain ⟨⟨collected, collects, _⟩, nesting⟩ :=
    expansion_ends recursiveSurroundings .collecting none recursiveTree .empty _ loadable nothing
  obtain ⟨⟨read, reads, _⟩, _⟩ :=
    expansion_ends recursiveSurroundings .strict none recursiveTree .empty _ loadable nothing
  exact ⟨loadable, ⟨collected, collects⟩, ⟨read, reads⟩,
    fun inner reaches => keys ▸ (nesting inner reaches).2⟩

end ApiAdmission.Reference
