import ApiAdmission.Proofs.Reference.Expansion
import ApiAdmission.Proofs.Reference.Loading

/-!
# Plain expansion

Plain expansion replaces every reference by the expansion of what it names, with no memory of loaded
documents and no look at the references around it (`Surroundings.plain`).  It need not end.  A
reference can only be kept as it is written where its key is met again inside its own expansion
(`MeetsAgain`); where that never happens, the replacement of references in collecting mode is plain
expansion, with each message once (`resolveCollecting_eq_plain`).

The memory of a run says no more than the surroundings (`Memory.Faithful`), so one derivation of an
expansion carries the claim: by induction on it the plain expansion gives the same tree, and its
messages are the ones that the memory has gained (`Records`).
-/

namespace ApiAdmission.Reference

set_option autoImplicit false

/-! ## Expansion without a cycle check -/

/-- What plain expansion gives: an outcome, and the messages on the way in order, repeats
included. -/
abbrev Written (α : Type) := Except Failure α × List String

mutual
/-- Replaces the references of a tree in a place.  A reference becomes the expansion of the node that
it names, in the place of that node, and an empty mapping where there is none. -/
def Surroundings.plain (surroundings : Surroundings) (place : Place) (tree : Tree) :
    Option (Written Tree) :=
  match tree with
  | .mapping entries =>
    match referenceOf? entries with
    | some reference =>
      match reach surroundings place (cut reference).1 with
      | .error failure => some (.error failure, [])
      | .ok (.error reason) => some (.ok (.mapping []), [loadMessage reference reason])
      | .ok (.ok there) =>
        match there.root.follow (cut reference).2 with
        | .error fault => some (.ok (.mapping []), [pointerMessage reference fault.message])
        | .ok value => surroundings |>.plain there value
    | none => do
      let (outcome, messages) ← surroundings |>.plainEntries place entries
      return (outcome.map .mapping, messages)
  | .list items => do
    let (outcome, messages) ← surroundings |>.plainItems place items
    return (outcome.map .list, messages)
  | scalar => some (.ok scalar, [])
partial_fixpoint

/-- Replaces the references of the items of a list. -/
def Surroundings.plainItems (surroundings : Surroundings) (place : Place) (items : List Tree) :
    Option (Written (List Tree)) :=
  match items with
  | [] => some (.ok [], [])
  | item :: rest => do
    match ← surroundings |>.plain place item with
    | (.error failure, messages) => return (.error failure, messages)
    | (.ok item, messages) =>
      let (outcome, more) ← surroundings |>.plainItems place rest
      return (outcome.map (item :: ·), messages ++ more)
partial_fixpoint

/-- Replaces the references of the values of the entries of a mapping. -/
def Surroundings.plainEntries (surroundings : Surroundings) (place : Place)
    (entries : List (String × Tree)) : Option (Written (List (String × Tree))) :=
  match entries with
  | [] => some (.ok [], [])
  | (name, value) :: rest => do
    match ← surroundings |>.plain place value with
    | (.error failure, messages) => return (.error failure, messages)
    | (.ok value, messages) =>
      let (outcome, more) ← surroundings |>.plainEntries place rest
      return (outcome.map ((name, value) :: ·), messages ++ more)
partial_fixpoint
end

section Steps

variable {surroundings : Surroundings} {place there : Place} {entries : List (String × Tree)}
  {reference : String}

theorem plain_failed {failure : Failure} (found : referenceOf? entries = some reference)
    (reaches : reach surroundings place (cut reference).1 = .error failure) :
    surroundings.plain place (.mapping entries) = some (.error failure, []) := by
  rw [Surroundings.plain]
  simp [found, reaches]

theorem plain_noDocument {reason : String} (found : referenceOf? entries = some reference)
    (reaches : reach surroundings place (cut reference).1 = .ok (.error reason)) :
    surroundings.plain place (.mapping entries) =
      some (.ok (.mapping []), [loadMessage reference reason]) := by
  rw [Surroundings.plain]
  simp [found, reaches]

theorem plain_noNode {fault : PointerFault} (found : referenceOf? entries = some reference)
    (reaches : reach surroundings place (cut reference).1 = .ok (.ok there))
    (follows : there.root.follow (cut reference).2 = .error fault) :
    surroundings.plain place (.mapping entries) =
      some (.ok (.mapping []), [pointerMessage reference fault.message]) := by
  rw [Surroundings.plain]
  simp [found, reaches, follows]

/-- A reference becomes the expansion of its node, in the place of that node. -/
theorem plain_value {value : Tree} (found : referenceOf? entries = some reference)
    (reaches : reach surroundings place (cut reference).1 = .ok (.ok there))
    (follows : there.root.follow (cut reference).2 = .ok value) :
    surroundings.plain place (.mapping entries) = surroundings.plain there value := by
  rw [Surroundings.plain]
  simp [found, reaches, follows]

theorem plain_mapping (absent : referenceOf? entries = none) :
    surroundings.plain place (.mapping entries) =
      (surroundings.plainEntries place entries).map fun written =>
        (written.1.map .mapping, written.2) := by
  rw [Surroundings.plain]
  simp only [absent]
  cases surroundings.plainEntries place entries <;> rfl

theorem plain_list (items : List Tree) :
    surroundings.plain place (.list items) =
      (surroundings.plainItems place items).map fun written =>
        (written.1.map .list, written.2) := by
  rw [Surroundings.plain]
  cases surroundings.plainItems place items <;> rfl

theorem plain_scalar {tree : Tree} (noMapping : ∀ entries, tree ≠ .mapping entries)
    (noList : ∀ items, tree ≠ .list items) :
    surroundings.plain place tree = some (.ok tree, []) := by
  cases tree with
  | mapping entries => exact absurd rfl (noMapping entries)
  | list items => exact absurd rfl (noList items)
  | _ => rw [Surroundings.plain] <;> exact nofun

/-- A sibling that fails ends the list. -/
theorem plainItems_failed {item : Tree} {rest : List Tree} {failure : Failure}
    {messages : List String}
    (first : surroundings.plain place item = some (.error failure, messages)) :
    surroundings.plainItems place (item :: rest) = some (.error failure, messages) := by
  rw [Surroundings.plainItems]
  simp [first]

/-- Siblings are expanded each for itself. -/
theorem plainItems_cons {item result : Tree} {rest : List Tree} {messages more : List String}
    {outcome : Except Failure (List Tree)}
    (first : surroundings.plain place item = some (.ok result, messages))
    (others : surroundings.plainItems place rest = some (outcome, more)) :
    surroundings.plainItems place (item :: rest) =
      some (outcome.map (result :: ·), messages ++ more) := by
  rw [Surroundings.plainItems]
  simp [first, others]

theorem plainEntries_failed {name : String} {value : Tree} {rest : List (String × Tree)}
    {failure : Failure} {messages : List String}
    (first : surroundings.plain place value = some (.error failure, messages)) :
    surroundings.plainEntries place ((name, value) :: rest) =
      some (.error failure, messages) := by
  rw [Surroundings.plainEntries]
  simp [first]

theorem plainEntries_cons {name : String} {value result : Tree} {rest : List (String × Tree)}
    {messages more : List String} {outcome : Except Failure (List (String × Tree))}
    (first : surroundings.plain place value = some (.ok result, messages))
    (others : surroundings.plainEntries place rest = some (outcome, more)) :
    surroundings.plainEntries place ((name, value) :: rest) =
      some (outcome.map ((name, result) :: ·), messages ++ more) := by
  rw [Surroundings.plainEntries]
  simp [first, others]

end Steps

/-! ## Keys that are met again -/

/-- Some reference is met again inside its own expansion, inside the expansions with the given keys
in a place. -/
inductive MeetsAgain (surroundings : Surroundings) : Place → List String → Tree → Prop where
  /-- The reference here has the key of an expansion around it. -/
  | here {place there : Place} {seen : List String} {entries : List (String × Tree)}
      {reference : String} (found : referenceOf? entries = some reference)
      (reaches : reach surroundings place (cut reference).1 = .ok (.ok there))
      (met : cycleKey there.location (cut reference).2 ∈ seen) :
      MeetsAgain surroundings place seen (.mapping entries)
  /-- It happens in the expansion of the reference here. -/
  | inside {place there : Place} {seen : List String} {entries : List (String × Tree)}
      {reference : String} {value : Tree} (found : referenceOf? entries = some reference)
      (reaches : reach surroundings place (cut reference).1 = .ok (.ok there))
      (follows : there.root.follow (cut reference).2 = .ok value)
      (again : MeetsAgain surroundings there
        (cycleKey there.location (cut reference).2 :: seen) value) :
      MeetsAgain surroundings place seen (.mapping entries)
  /-- It happens in the value of an entry. -/
  | entry {place : Place} {seen : List String} {entries : List (String × Tree)} {name : String}
      {value : Tree} (absent : referenceOf? entries = none) (member : (name, value) ∈ entries)
      (again : MeetsAgain surroundings place seen value) :
      MeetsAgain surroundings place seen (.mapping entries)
  /-- It happens in an item. -/
  | item {place : Place} {seen : List String} {items : List Tree} {item : Tree}
      (member : item ∈ items) (again : MeetsAgain surroundings place seen item) :
      MeetsAgain surroundings place seen (.list items)

section MeetsAgain

variable {surroundings : Surroundings} {place : Place} {seen : List String}
  {entries : List (String × Tree)}

theorem meetsAgain_reference_iff {reference : String}
    (found : referenceOf? entries = some reference) :
    MeetsAgain surroundings place seen (.mapping entries) ↔
      ∃ there, reach surroundings place (cut reference).1 = .ok (.ok there) ∧
        (cycleKey there.location (cut reference).2 ∈ seen ∨
          ∃ value, there.root.follow (cut reference).2 = .ok value ∧
            MeetsAgain surroundings there (cycleKey there.location (cut reference).2 :: seen)
              value) := by
  constructor
  · intro again
    cases again with
    | here same reaches met =>
      cases found.symm.trans same
      exact ⟨_, reaches, .inl met⟩
    | inside same reaches follows again =>
      cases found.symm.trans same
      exact ⟨_, reaches, .inr ⟨_, follows, again⟩⟩
    | entry absent _ _ => cases found.symm.trans absent
  · rintro ⟨there, reaches, met | ⟨value, follows, again⟩⟩
    · exact .here found reaches met
    · exact .inside found reaches follows again

theorem meetsAgain_mapping_iff (absent : referenceOf? entries = none) :
    MeetsAgain surroundings place seen (.mapping entries) ↔
      ∃ entry ∈ entries, MeetsAgain surroundings place seen entry.2 := by
  constructor
  · intro again
    cases again with
    | here found _ _ => cases absent.symm.trans found
    | inside found _ _ _ => cases absent.symm.trans found
    | entry _ member again => exact ⟨_, member, again⟩
  · rintro ⟨⟨name, value⟩, member, again⟩
    exact .entry absent member again

end MeetsAgain

/-! ## Two uses of one definition in another document -/

/-- A document in which one definition refers to another. -/
def sharedDocument : Tree :=
  .mapping [("Pet", .mapping [("$ref", .text "#/Animal")]),
    ("Animal", .mapping [("type", .text "object")])]

/-- Surroundings with that document alone. -/
def sharedSurroundings : Surroundings where
  locate _ document := .ok document
  load location := if location == "shared.json" then .ok sharedDocument else .error .disabled

/-- A tree that uses a definition of that document twice, and names one that no document has. -/
def sharingTree : Tree :=
  .mapping [("cat", .mapping [("$ref", .text "shared.json#/Pet")]),
    ("dog", .mapping [("$ref", .text "shared.json#/Pet")]),
    ("cow", .mapping [("$ref", .text "#/Animal")])]

/-- The place of that document. -/
def sharedPlace : Place := ⟨sharedDocument, some "shared.json"⟩

theorem reach_shared :
    reach sharedSurroundings ⟨sharingTree, none⟩ (cut "shared.json#/Pet").1 =
      .ok (.ok sharedPlace) := rfl

theorem reach_self (place : Place) :
    reach sharedSurroundings place (cut "#/Animal").1 = .ok (.ok place) := rfl

theorem follow_pet :
    sharedPlace.root.follow (cut "shared.json#/Pet").2 =
      .ok (.mapping [("$ref", .text "#/Animal")]) := rfl

theorem follow_animal :
    sharedPlace.root.follow (cut "#/Animal").2 = .ok (.mapping [("type", .text "object")]) := rfl

theorem follow_nothing :
    Tree.follow (Place.root ⟨sharingTree, none⟩) (cut "#/Animal").2 =
      .error (.missingKey "Animal") := rfl

/-- The references of the example are met once each. -/
theorem sharingTree_once : ¬ MeetsAgain sharedSurroundings ⟨sharingTree, none⟩ [] sharingTree := by
  have new : cycleKey sharedPlace.location (cut "#/Animal").2 ∉
      [cycleKey sharedPlace.location (cut "shared.json#/Pet").2] := by decide +kernel
  have pet : ¬ MeetsAgain sharedSurroundings ⟨sharingTree, none⟩ []
      (.mapping [("$ref", .text "shared.json#/Pet")]) := by
    rw [meetsAgain_reference_iff rfl, reach_shared]
    rintro ⟨_, ⟨⟩, met | ⟨value, follows, again⟩⟩
    · cases met
    · cases follow_pet.symm.trans follows
      rw [meetsAgain_reference_iff rfl, reach_self] at again
      obtain ⟨_, ⟨⟩, met | ⟨value, follows, again⟩⟩ := again
      · exact new met
      · cases follow_animal.symm.trans follows
        obtain ⟨_, member, again⟩ := (meetsAgain_mapping_iff rfl).mp again
        cases List.mem_singleton.mp member
        cases again
  have cow : ¬ MeetsAgain sharedSurroundings ⟨sharingTree, none⟩ []
      (.mapping [("$ref", .text "#/Animal")]) := by
    rw [meetsAgain_reference_iff rfl, reach_self]
    rintro ⟨_, ⟨⟩, met | ⟨value, follows, _⟩⟩
    · cases met
    · cases follow_nothing.symm.trans follows
  intro again
  obtain ⟨_, member, again⟩ := (meetsAgain_mapping_iff rfl).mp again
  simp only [List.mem_cons, List.not_mem_nil, or_false] at member
  rcases member with rfl | rfl | rfl
  · exact pet again
  · exact pet again
  · exact cow again

/-! ## What a run records -/

/-- A run from one memory to another has recorded messages: the memory is faithful after it, and it
has gained those messages that are new. -/
structure Records (surroundings : Surroundings) (memory : Memory) (messages : List String)
    (after : Memory) : Prop where
  faithful : after.Faithful surroundings
  messages_eq : after.messages = messages.foldl addNew memory.messages

variable {surroundings : Surroundings}

theorem Records.trans {memory between after : Memory} {messages more : List String}
    (first : Records surroundings memory messages between)
    (second : Records surroundings between more after) :
    Records surroundings memory (messages ++ more) after where
  faithful := second.faithful
  messages_eq := by rw [List.foldl_append, ← first.messages_eq, second.messages_eq]

/-- A reference without a target records its message. -/
theorem Records.of_fail {memory after : Memory} (faithful : after.Faithful surroundings)
    (silent : after.messages = memory.messages) (message : String) :
    Records surroundings memory [message]
      { after with messages := addNew after.messages message } where
  faithful := ⟨faithful.documents, faithful.failures⟩
  messages_eq := by rw [silent]; rfl

/-! ## A run follows plain expansion -/

mutual
/-- An expansion in which no key is met again gives what plain expansion gives. -/
theorem Expands.plain_eq {place : Place} {seen : List String} {tree : Tree} {memory : Memory}
    {outcome : Outcome Tree} (once : ¬ MeetsAgain surroundings place seen tree)
    (faithful : memory.Faithful surroundings) :
    Expands surroundings .collecting place seen tree memory outcome →
      ∃ messages, surroundings.plain place tree = some (outcome.1, messages) ∧
        Records surroundings memory messages outcome.2
  | .failed found leads => by
    obtain ⟨leadsTo, known, silent⟩ := lead_run_inv faithful leads
    exact ⟨[], plain_failed found (leadOf_eq_error_iff.mp leadsTo), known, silent⟩
  | .back found leads => by
    obtain ⟨leadsTo, _⟩ := lead_run_inv faithful leads
    obtain ⟨there, reaches, met⟩ := leadOf_eq_back_iff.mp leadsTo
    exact absurd (.here found reaches met) once
  | .noDocument found leads => by
    obtain ⟨leadsTo, known, silent⟩ := lead_run_inv faithful leads
    exact ⟨_, plain_noDocument found (leadOf_eq_noDocument_iff.mp leadsTo),
      .of_fail known silent _⟩
  | .noNode found leads => by
    obtain ⟨leadsTo, known, silent⟩ := lead_run_inv faithful leads
    obtain ⟨there, reaches, _, follows⟩ := leadOf_eq_noNode_iff.mp leadsTo
    exact ⟨_, plain_noNode found reaches follows, .of_fail known silent _⟩
  | .value found leads inner => by
    obtain ⟨leadsTo, known, silent⟩ := lead_run_inv faithful leads
    obtain ⟨reaches, same, _, follows⟩ := leadOf_eq_value_iff.mp leadsTo
    have onceThere := fun again => once (.inside found reaches follows (same ▸ again))
    obtain ⟨messages, gives, records⟩ := inner.plain_eq onceThere known
    exact ⟨messages, (plain_value found reaches follows).trans gives, records.faithful,
      silent ▸ records.messages_eq⟩
  | .mapping absent inner => by
    obtain ⟨messages, gives, records⟩ := inner.plain_eq
      (fun _ member again => once (.entry absent member again)) faithful
    exact ⟨messages, by rw [plain_mapping absent, gives]; rfl, records⟩
  | .list inner => by
    obtain ⟨messages, gives, records⟩ := inner.plain_eq
      (fun _ member again => once (.item member again)) faithful
    exact ⟨messages, by rw [plain_list, gives]; rfl, records⟩
  | .scalar noMapping noList => ⟨[], plain_scalar noMapping noList, faithful, rfl⟩

theorem ExpandsItems.plain_eq {place : Place} {seen : List String} {items : List Tree}
    {memory : Memory} {outcome : Outcome (List Tree)}
    (once : ∀ item ∈ items, ¬ MeetsAgain surroundings place seen item)
    (faithful : memory.Faithful surroundings) :
    ExpandsItems surroundings .collecting place seen items memory outcome →
      ∃ messages, surroundings.plainItems place items = some (outcome.1, messages) ∧
        Records surroundings memory messages outcome.2
  | .nil => ⟨[], by rw [Surroundings.plainItems], faithful, rfl⟩
  | .failed first => by
    obtain ⟨messages, gives, records⟩ := first.plain_eq (once _ List.mem_cons_self) faithful
    exact ⟨messages, plainItems_failed gives, records⟩
  | .cons first others => by
    obtain ⟨messages, gives, records⟩ := first.plain_eq (once _ List.mem_cons_self) faithful
    obtain ⟨more, givesMore, recordsMore⟩ := others.plain_eq
      (fun item member => once item (List.mem_cons_of_mem _ member)) records.faithful
    exact ⟨messages ++ more, plainItems_cons gives givesMore, records.trans recordsMore⟩

theorem ExpandsEntries.plain_eq {place : Place} {seen : List String}
    {entries : List (String × Tree)} {memory : Memory}
    {outcome : Outcome (List (String × Tree))}
    (once : ∀ entry ∈ entries, ¬ MeetsAgain surroundings place seen entry.2)
    (faithful : memory.Faithful surroundings) :
    ExpandsEntries surroundings .collecting place seen entries memory outcome →
      ∃ messages, surroundings.plainEntries place entries = some (outcome.1, messages) ∧
        Records surroundings memory messages outcome.2
  | .nil => ⟨[], by rw [Surroundings.plainEntries], faithful, rfl⟩
  | .failed first => by
    obtain ⟨messages, gives, records⟩ := first.plain_eq (once _ List.mem_cons_self) faithful
    exact ⟨messages, plainEntries_failed gives, records⟩
  | .cons first others => by
    obtain ⟨messages, gives, records⟩ := first.plain_eq (once _ List.mem_cons_self) faithful
    obtain ⟨more, givesMore, recordsMore⟩ := others.plain_eq
      (fun entry member => once entry (List.mem_cons_of_mem _ member)) records.faithful
    exact ⟨messages ++ more, plainEntries_cons gives givesMore, records.trans recordsMore⟩
end

/-! ## Plain expansion is followed by a run -/

/-- Whatever is open around a tree and whatever a faithful memory holds, the expansion of the tree
has an outcome, as long as no key is met again. -/
def Follows (surroundings : Surroundings) (place : Place) (tree : Tree)
    (outcome : Except Failure Tree) : Prop :=
  ∀ (seen : List String) (memory : Memory), ¬ MeetsAgain surroundings place seen tree →
    memory.Faithful surroundings →
    ∃ after, Expands surroundings .collecting place seen tree memory (outcome, after)

/-- The same of the items of a list. -/
def FollowsItems (surroundings : Surroundings) (place : Place) (items : List Tree)
    (outcome : Except Failure (List Tree)) : Prop :=
  ∀ (seen : List String) (memory : Memory),
    (∀ item ∈ items, ¬ MeetsAgain surroundings place seen item) → memory.Faithful surroundings →
    ∃ after, ExpandsItems surroundings .collecting place seen items memory (outcome, after)

/-- The same of the entries of a mapping. -/
def FollowsEntries (surroundings : Surroundings) (place : Place) (entries : List (String × Tree))
    (outcome : Except Failure (List (String × Tree))) : Prop :=
  ∀ (seen : List String) (memory : Memory),
    (∀ entry ∈ entries, ¬ MeetsAgain surroundings place seen entry.2) →
    memory.Faithful surroundings →
    ∃ after, ExpandsEntries surroundings .collecting place seen entries memory (outcome, after)

section Follows

variable {place there : Place} {entries : List (String × Tree)} {reference : String}

theorem Follows.failed {failure : Failure} (found : referenceOf? entries = some reference)
    (reaches : reach surroundings place (cut reference).1 = .error failure) :
    Follows surroundings place (.mapping entries) (.error failure) := by
  intro seen memory _ faithful
  obtain ⟨after, leads, _⟩ := lead_run faithful place seen reference
  rw [leadOf_eq_error_iff.mpr reaches] at leads
  exact ⟨after, .failed found leads⟩

theorem Follows.noDocument {reason : String} (found : referenceOf? entries = some reference)
    (reaches : reach surroundings place (cut reference).1 = .ok (.error reason)) :
    Follows surroundings place (.mapping entries) (.ok (.mapping [])) := by
  intro seen memory _ faithful
  obtain ⟨after, leads, _⟩ := lead_run faithful place seen reference
  rw [leadOf_eq_noDocument_iff.mpr reaches] at leads
  exact ⟨_, .noDocument found leads⟩

theorem Follows.noNode {fault : PointerFault} (found : referenceOf? entries = some reference)
    (reaches : reach surroundings place (cut reference).1 = .ok (.ok there))
    (follows : there.root.follow (cut reference).2 = .error fault) :
    Follows surroundings place (.mapping entries) (.ok (.mapping [])) := by
  intro seen memory once faithful
  have new : cycleKey there.location (cut reference).2 ∉ seen :=
    fun met => once (.here found reaches met)
  obtain ⟨after, leads, _⟩ := lead_run faithful place seen reference
  rw [leadOf_eq_noNode_iff.mpr ⟨there, reaches, new, follows⟩] at leads
  exact ⟨_, .noNode found leads⟩

/-- The key of the reference is open around its node, and around nothing else. -/
theorem Follows.value {value : Tree} {outcome : Except Failure Tree}
    (found : referenceOf? entries = some reference)
    (reaches : reach surroundings place (cut reference).1 = .ok (.ok there))
    (follows : there.root.follow (cut reference).2 = .ok value)
    (inner : Follows surroundings there value outcome) :
    Follows surroundings place (.mapping entries) outcome := by
  intro seen memory once faithful
  have new : cycleKey there.location (cut reference).2 ∉ seen :=
    fun met => once (.here found reaches met)
  obtain ⟨between, leads, known, _⟩ := lead_run faithful place seen reference
  rw [leadOf_eq_value_iff.mpr ⟨reaches, rfl, new, follows⟩] at leads
  obtain ⟨after, expands⟩ :=
    inner _ between (fun again => once (.inside found reaches follows again)) known
  exact ⟨after, .value found leads expands⟩

theorem Follows.mapping {outcome : Except Failure (List (String × Tree))}
    (absent : referenceOf? entries = none)
    (inner : FollowsEntries surroundings place entries outcome) :
    Follows surroundings place (.mapping entries) (outcome.map .mapping) := by
  intro seen memory once faithful
  obtain ⟨after, expands⟩ :=
    inner seen memory (fun _ member again => once (.entry absent member again)) faithful
  exact ⟨after, .mapping absent expands⟩

theorem Follows.list {items : List Tree} {outcome : Except Failure (List Tree)}
    (inner : FollowsItems surroundings place items outcome) :
    Follows surroundings place (.list items) (outcome.map .list) := by
  intro seen memory once faithful
  obtain ⟨after, expands⟩ :=
    inner seen memory (fun _ member again => once (.item member again)) faithful
  exact ⟨after, .list expands⟩

theorem FollowsItems.failed {item : Tree} {rest : List Tree} {failure : Failure}
    (first : Follows surroundings place item (.error failure)) :
    FollowsItems surroundings place (item :: rest) (.error failure) := by
  intro seen memory once faithful
  obtain ⟨after, expands⟩ := first seen memory (once item List.mem_cons_self) faithful
  exact ⟨after, .failed expands⟩

/-- The memory after the first item is as faithful as the one before it. -/
theorem FollowsItems.cons {item result : Tree} {rest : List Tree}
    {outcome : Except Failure (List Tree)}
    (first : Follows surroundings place item (.ok result))
    (others : FollowsItems surroundings place rest outcome) :
    FollowsItems surroundings place (item :: rest) (outcome.map (result :: ·)) := by
  intro seen memory once faithful
  obtain ⟨between, expands⟩ := first seen memory (once item List.mem_cons_self) faithful
  obtain ⟨_, _, records⟩ := expands.plain_eq (once item List.mem_cons_self) faithful
  obtain ⟨after, expandsRest⟩ := others seen between
    (fun other member => once other (List.mem_cons_of_mem item member)) records.faithful
  exact ⟨after, .cons expands expandsRest⟩

theorem FollowsEntries.failed {name : String} {value : Tree} {rest : List (String × Tree)}
    {failure : Failure} (first : Follows surroundings place value (.error failure)) :
    FollowsEntries surroundings place ((name, value) :: rest) (.error failure) := by
  intro seen memory once faithful
  obtain ⟨after, expands⟩ := first seen memory (once (name, value) List.mem_cons_self) faithful
  exact ⟨after, .failed expands⟩

theorem FollowsEntries.cons {name : String} {value result : Tree} {rest : List (String × Tree)}
    {outcome : Except Failure (List (String × Tree))}
    (first : Follows surroundings place value (.ok result))
    (others : FollowsEntries surroundings place rest outcome) :
    FollowsEntries surroundings place ((name, value) :: rest)
      (outcome.map ((name, result) :: ·)) := by
  intro seen memory once faithful
  obtain ⟨between, expands⟩ := first seen memory (once (name, value) List.mem_cons_self) faithful
  obtain ⟨_, _, records⟩ := expands.plain_eq (once (name, value) List.mem_cons_self) faithful
  obtain ⟨after, expandsRest⟩ := others seen between
    (fun other member => once other (List.mem_cons_of_mem (name, value) member)) records.faithful
  exact ⟨after, .cons expands expandsRest⟩

end Follows

/-- Where plain expansion ends, a run follows it, by induction on the approximations of plain
expansion. -/
theorem follows_of_plain :
    (∀ place tree written, surroundings.plain place tree = some written →
      Follows surroundings place tree written.1) ∧
    (∀ place items written, surroundings.plainItems place items = some written →
      FollowsItems surroundings place items written.1) ∧
    (∀ place entries written, surroundings.plainEntries place entries = some written →
      FollowsEntries surroundings place entries written.1) := by
  refine Surroundings.plain.mutual_partial_correctness surroundings
    (fun place tree written => Follows surroundings place tree written.1)
    (fun place items written => FollowsItems surroundings place items written.1)
    (fun place entries written => FollowsEntries surroundings place entries written.1) ?_ ?_ ?_
  · intro plain plainItems plainEntries ofTree ofItems ofEntries place tree written gives
    split at gives
    case h_1 entries =>
      split at gives
      case h_1 reference found =>
        split at gives
        case h_1 failure reaches =>
          cases gives
          exact .failed found reaches
        case h_2 reason reaches =>
          cases gives
          exact .noDocument found reaches
        case h_3 there reaches =>
          split at gives
          case h_1 fault follows =>
            cases gives
            exact .noNode found reaches follows
          case h_2 value follows => exact .value found reaches follows (ofTree _ _ _ gives)
      case h_2 absent =>
        obtain ⟨⟨result, messages⟩, inner, whole⟩ := Option.bind_eq_some_iff.mp gives
        cases whole
        exact .mapping absent (ofEntries _ _ _ inner)
    case h_2 items =>
      obtain ⟨⟨result, messages⟩, inner, whole⟩ := Option.bind_eq_some_iff.mp gives
      cases whole
      exact .list (ofItems _ _ _ inner)
    case h_3 noMapping noList =>
      cases gives
      exact fun _ memory _ _ => ⟨memory, .scalar noMapping noList⟩
  · intro plain plainItems ofTree ofItems place items written gives
    cases items with
    | nil =>
      cases gives
      exact fun _ memory _ _ => ⟨memory, .nil⟩
    | cons item rest =>
      obtain ⟨⟨result | result, messages⟩, first, gives⟩ := Option.bind_eq_some_iff.mp gives
      · cases gives
        exact .failed (ofTree _ _ _ first)
      · obtain ⟨⟨results, more⟩, others, whole⟩ := Option.bind_eq_some_iff.mp gives
        cases whole
        exact .cons (ofTree _ _ _ first) (ofItems _ _ _ others)
  · intro plain plainEntries ofTree ofEntries place entries written gives
    cases entries with
    | nil =>
      cases gives
      exact fun _ memory _ _ => ⟨memory, .nil⟩
    | cons entry rest =>
      obtain ⟨⟨result | result, messages⟩, first, gives⟩ := Option.bind_eq_some_iff.mp gives
      · cases gives
        exact .failed (ofTree _ _ _ first)
      · obtain ⟨⟨results, more⟩, others, whole⟩ := Option.bind_eq_some_iff.mp gives
        cases whole
        exact .cons (ofTree _ _ _ first) (ofEntries _ _ _ others)

/-- **Without a key that is met again, replacing references is plain expansion.**  Collecting mode
gives the outcome of plain expansion with each of its messages once, and ends exactly where plain
expansion does. -/
theorem resolveCollecting_eq_plain (surroundings : Surroundings) (base : Option String)
    (tree : Tree) (once : ¬ MeetsAgain surroundings ⟨tree, base⟩ [] tree) :
    resolveCollecting surroundings base tree =
      match surroundings.plain ⟨tree, base⟩ tree with
      | some (outcome, messages) => (outcome, messages.foldl addNew [])
      | none => (.error (.breakdown .endless), []) := by
  have known := Memory.faithful_empty surroundings
  have run : resolveCollecting surroundings base tree =
      (((surroundings.expand .collecting ⟨tree, base⟩ [] tree .empty).getD
        (.error (.breakdown .endless), .empty)).1,
       ((surroundings.expand .collecting ⟨tree, base⟩ [] tree .empty).getD
        (.error (.breakdown .endless), .empty)).2.messages) := rfl
  rw [run]
  cases ends : surroundings.expand .collecting ⟨tree, base⟩ [] tree .empty with
  | some outcome =>
    obtain ⟨messages, gives, records⟩ := (expand_eq_some_iff.mp ends).plain_eq once known
    rw [gives]
    exact Prod.ext rfl records.messages_eq
  | none =>
    cases gives : surroundings.plain ⟨tree, base⟩ tree with
    | none => rfl
    | some written =>
      obtain ⟨after, expands⟩ := follows_of_plain.1 _ _ _ gives [] .empty once known
      cases ends.symm.trans (expand_eq_some_iff.mpr expands)

/-- Both uses are expanded in full, in the place of the other document, and what is missing leaves
its message. -/
theorem resolveCollecting_sharingTree :
    ¬ MeetsAgain sharedSurroundings ⟨sharingTree, none⟩ [] sharingTree ∧
    resolveCollecting sharedSurroundings none sharingTree =
      (.ok (.mapping [("cat", .mapping [("type", .text "object")]),
        ("dog", .mapping [("type", .text "object")]), ("cow", .mapping [])]),
        [pointerMessage "#/Animal" "key 'Animal' not found"]) := by
  refine ⟨sharingTree_once, ?_⟩
  have nothing : ∀ place, sharedSurroundings.plainEntries place [] = some (.ok [], []) :=
    fun place => by rw [Surroundings.plainEntries]
  have animal : sharedSurroundings.plain sharedPlace (.mapping [("type", .text "object")]) =
      some (.ok (.mapping [("type", .text "object")]), []) := by
    have word : sharedSurroundings.plain sharedPlace (.text "object") =
        some (.ok (.text "object"), []) := plain_scalar nofun nofun
    rw [plain_mapping rfl, plainEntries_cons word (nothing _)]
    rfl
  have pet : sharedSurroundings.plain ⟨sharingTree, none⟩
      (.mapping [("$ref", .text "shared.json#/Pet")]) =
        some (.ok (.mapping [("type", .text "object")]), []) := by
    rw [plain_value rfl reach_shared follow_pet, plain_value rfl (reach_self _) follow_animal,
      animal]
  have cow : sharedSurroundings.plain ⟨sharingTree, none⟩
      (.mapping [("$ref", .text "#/Animal")]) =
        some (.ok (.mapping []), [pointerMessage "#/Animal" "key 'Animal' not found"]) :=
    plain_noNode rfl (reach_self _) follow_nothing
  have whole : sharedSurroundings.plain ⟨sharingTree, none⟩ sharingTree =
      some (.ok (.mapping [("cat", .mapping [("type", .text "object")]),
        ("dog", .mapping [("type", .text "object")]), ("cow", .mapping [])]),
        [pointerMessage "#/Animal" "key 'Animal' not found"]) := by
    have entries : sharedSurroundings.plainEntries ⟨sharingTree, none⟩
        [("cat", _), ("dog", _), ("cow", _)] = _ :=
      plainEntries_cons pet (plainEntries_cons pet (plainEntries_cons cow (nothing _)))
    exact (plain_mapping rfl).trans (congrArg (Option.map _) entries)
  rw [resolveCollecting_eq_plain _ _ _ sharingTree_once, whole]
  rfl

end ApiAdmission.Reference
