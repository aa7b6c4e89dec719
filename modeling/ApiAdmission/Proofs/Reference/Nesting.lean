import ApiAdmission.Proofs.Outcome
import ApiAdmission.Proofs.Reference.Expansion
import ApiAdmission.Proofs.Reference.Loading
import Mathlib.Logic.Relation

/-!
# Expansions inside expansions

The expansion of a tree enters the expansions of its members one after the other, and the expansion
of a reference enters that of the value it leads to.  `Enters` has one rule for each of these calls,
with the memory that the call starts from; `Reaches` is a chain of them.  The keys that an expansion
has seen are those of the references whose expansions are around it, so they tell how deep the
expansions of references are nested.

What holds of every expansion of a run is shown along such chains, and what holds of its memories is
shown once for all outcomes (`Expands.keeps`).
-/

namespace ApiAdmission.Reference

set_option autoImplicit false

/-! ## The nodes of a tree -/

/-- A node of a tree: the tree itself, or a node of an item or of the value of an entry. -/
inductive Inside (node : Tree) : Tree → Prop where
  | here : Inside node node
  | item {items : List Tree} {item : Tree} (member : item ∈ items) (inside : Inside node item) :
      Inside node (.list items)
  | entry {entries : List (String × Tree)} {name : String} {value : Tree}
      (member : (name, value) ∈ entries) (inside : Inside node value) :
      Inside node (.mapping entries)

theorem Inside.trans {node middle tree : Tree} (inner : Inside node middle)
    (outer : Inside middle tree) : Inside node tree := by
  induction outer with
  | here => exact inner
  | item member _ ih => exact .item member ih
  | entry member _ ih => exact .entry member ih

theorem inside_of_step {tree value : Tree} {segment : String}
    (steps : tree.step segment = .ok value) : Inside value tree := by
  cases tree with
  | mapping entries =>
    cases stored : Tree.lookup? segment entries with
    | none => simp [Tree.step, stored] at steps
    | some found =>
      simp only [Tree.step, stored, Except.ok.injEq] at steps
      subst steps
      exact .entry (Tree.mem_of_lookup? stored) .here
  | list items =>
    cases indexed : (Number.integer? segment).bind (Tree.atIndex? items) with
    | none => simp [Tree.step, indexed] at steps
    | some found =>
      simp only [Tree.step, indexed, Except.ok.injEq] at steps
      subst steps
      obtain ⟨index, _, at_index⟩ := Option.bind_eq_some_iff.mp indexed
      refine .item ?_ .here
      unfold Tree.atIndex? at at_index
      split at at_index
      · dsimp only at at_index
        split at at_index
        · exact List.mem_of_getElem? at_index
        · cases at_index
      · exact List.mem_of_getElem? at_index
  | _ => cases steps

theorem inside_of_followSegments {tree value : Tree} {segments : List String}
    (follows : tree.followSegments segments = .ok value) : Inside value tree := by
  induction segments generalizing tree with
  | nil =>
    cases follows
    exact .here
  | cons segment rest ih =>
    rw [Tree.followSegments] at follows
    cases steps : tree.step segment with
    | error fault =>
      rw [steps] at follows
      cases follows
    | ok next =>
      rw [steps] at follows
      exact (ih follows).trans (inside_of_step steps)

/-- A pointer leads to a node of its document. -/
theorem inside_of_follow {tree value : Tree} {pointer : String}
    (follows : tree.follow pointer = .ok value) : Inside value tree := by
  unfold Tree.follow at follows
  split at follows
  · cases follows
    exact .here
  · exact inside_of_followSegments follows

/-! ## The calls of an expansion -/

/-- What is expanded: a tree, or what is left of the members of one. -/
inductive Piece where
  | tree (tree : Tree)
  | items (items : List Tree)
  | entries (entries : List (String × Tree))

/-- An expansion at its start. -/
structure Expansion where
  /-- Where the piece stands. -/
  place : Place
  /-- The keys of the references whose expansions are around this one, the innermost first. -/
  seen : List String
  /-- What is expanded. -/
  piece : Piece
  /-- What is known so far. -/
  memory : Memory

/-- The expansion of a document with which the replacement of its references starts. -/
def Expansion.whole (base : Option String) (tree : Tree) (memory : Memory) : Expansion :=
  ⟨⟨tree, base⟩, [], .tree tree, memory⟩

/-- An expansion enters another one. -/
inductive Enters (surroundings : Surroundings) (mode : Mode) : Expansion → Expansion → Prop where
  /-- A reference enters the value that it leads to, with its own key seen. -/
  | value {place there : Place} {seen : List String} {entries : List (String × Tree)}
      {reference key : String} {value : Tree} {memory after : Memory}
      (found : referenceOf? entries = some reference)
      (leads : (lead surroundings place seen reference).run.run memory =
        (.ok (.value there key value), after)) :
      Enters surroundings mode ⟨place, seen, .tree (.mapping entries), memory⟩
        ⟨there, key :: seen, .tree value, after⟩
  /-- A mapping without a reference enters its entries. -/
  | entries {place : Place} {seen : List String} {entries : List (String × Tree)}
      {memory : Memory} (absent : referenceOf? entries = none) :
      Enters surroundings mode ⟨place, seen, .tree (.mapping entries), memory⟩
        ⟨place, seen, .entries entries, memory⟩
  /-- A list enters its items. -/
  | items {place : Place} {seen : List String} {items : List Tree} {memory : Memory} :
      Enters surroundings mode ⟨place, seen, .tree (.list items), memory⟩
        ⟨place, seen, .items items, memory⟩
  /-- Items enter the first one. -/
  | item {place : Place} {seen : List String} {item : Tree} {rest : List Tree} {memory : Memory} :
      Enters surroundings mode ⟨place, seen, .items (item :: rest), memory⟩
        ⟨place, seen, .tree item, memory⟩
  /-- After the first item, unless it fails, come the others. -/
  | otherItems {place : Place} {seen : List String} {item result : Tree} {rest : List Tree}
      {memory between : Memory}
      (first : Expands surroundings mode place seen item memory (.ok result, between)) :
      Enters surroundings mode ⟨place, seen, .items (item :: rest), memory⟩
        ⟨place, seen, .items rest, between⟩
  /-- Entries enter the value of the first one. -/
  | entry {place : Place} {seen : List String} {name : String} {value : Tree}
      {rest : List (String × Tree)} {memory : Memory} :
      Enters surroundings mode ⟨place, seen, .entries ((name, value) :: rest), memory⟩
        ⟨place, seen, .tree value, memory⟩
  /-- After the first entry, unless its value fails, come the others. -/
  | otherEntries {place : Place} {seen : List String} {name : String} {value result : Tree}
      {rest : List (String × Tree)} {memory between : Memory}
      (first : Expands surroundings mode place seen value memory (.ok result, between)) :
      Enters surroundings mode ⟨place, seen, .entries ((name, value) :: rest), memory⟩
        ⟨place, seen, .entries rest, between⟩

/-- An expansion comes to another one through a chain of calls. -/
abbrev Reaches (surroundings : Surroundings) (mode : Mode) : Expansion → Expansion → Prop :=
  Relation.ReflTransGen (Enters surroundings mode)

variable {surroundings : Surroundings} {mode : Mode}

/-- What every call preserves holds of all that is reached. -/
theorem Reaches.preserves {holds : Expansion → Prop} {outer inner : Expansion}
    (reaches : Reaches surroundings mode outer inner)
    (preserved : ∀ {before after}, Enters surroundings mode before after →
      holds before → holds after)
    (start : holds outer) : holds inner := by
  induction reaches with
  | refl => exact start
  | tail _ enters ih => exact preserved enters ih

/-! ## What each expansion enters -/

section Entered

variable {place : Place} {seen : List String} {memory : Memory} {inner : Expansion}

section Mapping

variable {entries : List (String × Tree)} {reference : String} {after : Memory}

/-- A reference to a value enters the value alone. -/
theorem enters_value_iff {there : Place} {key : String} {value : Tree}
    (found : referenceOf? entries = some reference)
    (leads : (lead surroundings place seen reference).run.run memory =
      (.ok (.value there key value), after)) :
    Enters surroundings mode ⟨place, seen, .tree (.mapping entries), memory⟩ inner ↔
      inner = ⟨there, key :: seen, .tree value, after⟩ := by
  constructor
  · intro enters
    cases enters with
    | value same others =>
      cases found.symm.trans same
      cases leads.symm.trans others
      rfl
    | entries absent => cases found.symm.trans absent
  · rintro rfl
    exact .value found leads

/-- Any other reference enters nothing. -/
theorem not_enters_of_lead {goal : Lead} (found : referenceOf? entries = some reference)
    (leads : (lead surroundings place seen reference).run.run memory = (.ok goal, after))
    (noValue : ∀ there key value, goal ≠ .value there key value) :
    ¬ Enters surroundings mode ⟨place, seen, .tree (.mapping entries), memory⟩ inner := by
  intro enters
  cases enters with
  | value same others =>
    cases found.symm.trans same
    cases leads.symm.trans others
    exact noValue _ _ _ rfl
  | entries absent => cases found.symm.trans absent

theorem enters_mapping_iff (absent : referenceOf? entries = none) :
    Enters surroundings mode ⟨place, seen, .tree (.mapping entries), memory⟩ inner ↔
      inner = ⟨place, seen, .entries entries, memory⟩ := by
  constructor
  · intro enters
    cases enters with
    | value found _ => cases absent.symm.trans found
    | entries _ => rfl
  · rintro rfl
    exact .entries absent

end Mapping

theorem enters_list_iff {items : List Tree} :
    Enters surroundings mode ⟨place, seen, .tree (.list items), memory⟩ inner ↔
      inner = ⟨place, seen, .items items, memory⟩ := by
  constructor
  · intro enters
    cases enters
    rfl
  · rintro rfl
    exact .items

theorem not_enters_of_scalar {tree : Tree} (noMapping : ∀ entries, tree ≠ .mapping entries)
    (noList : ∀ items, tree ≠ .list items) :
    ¬ Enters surroundings mode ⟨place, seen, .tree tree, memory⟩ inner := by
  intro enters
  cases enters with
  | value | entries => exact noMapping _ rfl
  | items => exact noList _ rfl

theorem not_enters_of_noItems :
    ¬ Enters surroundings mode ⟨place, seen, .items [], memory⟩ inner := by
  intro enters
  cases enters

theorem not_enters_of_noEntries :
    ¬ Enters surroundings mode ⟨place, seen, .entries [], memory⟩ inner := by
  intro enters
  cases enters

/-- Items enter the first one, and the others with what is known after it. -/
theorem enters_items_iff {item result : Tree} {rest : List Tree} {between : Memory}
    (first : Expands surroundings mode place seen item memory (.ok result, between)) :
    Enters surroundings mode ⟨place, seen, .items (item :: rest), memory⟩ inner ↔
      inner = ⟨place, seen, .tree item, memory⟩ ∨ inner = ⟨place, seen, .items rest, between⟩ := by
  constructor
  · intro enters
    cases enters with
    | item => exact .inl rfl
    | otherItems again =>
      cases first.eq_some.symm.trans again.eq_some
      exact .inr rfl
  · rintro (rfl | rfl)
    · exact .item
    · exact .otherItems first

theorem enters_entries_iff {name : String} {value result : Tree} {rest : List (String × Tree)}
    {between : Memory}
    (first : Expands surroundings mode place seen value memory (.ok result, between)) :
    Enters surroundings mode ⟨place, seen, .entries ((name, value) :: rest), memory⟩ inner ↔
      inner = ⟨place, seen, .tree value, memory⟩ ∨
        inner = ⟨place, seen, .entries rest, between⟩ := by
  constructor
  · intro enters
    cases enters with
    | entry => exact .inl rfl
    | otherEntries again =>
      cases first.eq_some.symm.trans again.eq_some
      exact .inr rfl
  · rintro (rfl | rfl)
    · exact .entry
    · exact .otherEntries first

end Entered

/-! ## What is met on the way -/

/-- An expansion of which something holds is reached. -/
def ReachesSome (surroundings : Surroundings) (mode : Mode) (holds : Expansion → Prop)
    (start : Expansion) : Prop :=
  ∃ inner, Reaches surroundings mode start inner ∧ holds inner

section ReachesSome

variable {holds : Expansion → Prop} {start : Expansion}

/-- It is the start, or it is reached from what the start enters. -/
theorem reachesSome_iff :
    ReachesSome surroundings mode holds start ↔
      holds start ∨
        ∃ next, Enters surroundings mode start next ∧
          ReachesSome surroundings mode holds next := by
  constructor
  · rintro ⟨inner, reaches, here⟩
    rcases reaches.cases_head with rfl | ⟨next, enters, rest⟩
    · exact .inl here
    · exact .inr ⟨next, enters, inner, rest, here⟩
  · rintro (here | ⟨next, enters, inner, rest, there⟩)
    · exact ⟨start, .refl, here⟩
    · exact ⟨inner, rest.head enters, there⟩

/-- Where nothing is entered, it is the start. -/
theorem reachesSome_of_none (enters : ∀ {inner}, ¬ Enters surroundings mode start inner) :
    ReachesSome surroundings mode holds start ↔ holds start := by
  rw [reachesSome_iff, or_iff_left]
  rintro ⟨next, entered, _⟩
  exact enters entered

/-- Where one expansion is entered, it is the start or reached from there. -/
theorem reachesSome_of_one {next : Expansion}
    (enters : ∀ {inner}, Enters surroundings mode start inner ↔ inner = next) :
    ReachesSome surroundings mode holds start ↔
      holds start ∨ ReachesSome surroundings mode holds next := by
  rw [reachesSome_iff]
  simp only [enters, exists_eq_left]

/-- Where two are entered, it is the start or reached from one of them. -/
theorem reachesSome_of_two {first second : Expansion}
    (enters : ∀ {inner}, Enters surroundings mode start inner ↔
      inner = first ∨ inner = second) :
    ReachesSome surroundings mode holds start ↔
      holds start ∨ ReachesSome surroundings mode holds first ∨
        ReachesSome surroundings mode holds second := by
  rw [reachesSome_iff]
  simp only [enters, or_and_right, exists_or, exists_eq_left]

end ReachesSome

/-! ## What a run does to the memory -/

/-- What following a reference and saying something keep of a memory. -/
structure Kept (surroundings : Surroundings) (holds : Memory → Prop) : Prop where
  leading : ∀ {place : Place} {seen : List String} {reference : String} {memory after : Memory}
    {outcome : Except Failure Lead},
    (lead surroundings place seen reference).run.run memory = (outcome, after) →
    holds memory → holds after
  saying : ∀ {memory : Memory} (message : String), holds memory →
    holds { memory with messages := addNew memory.messages message }

section Kept

variable {holds : Memory → Prop}

/-- A failing reference changes the memory at most by its message. -/
theorem Kept.failing (kept : Kept surroundings holds) (mode : Mode) (failure : String → Failure)
    {memory : Memory} (message : String) (before : holds memory) :
    holds ((fail mode failure message).run.run memory).2 := by
  cases mode with
  | collecting => exact kept.saying message before
  | strict => exact before

mutual
/-- An expansion keeps of a memory what its steps keep. -/
theorem Expands.keeps (kept : Kept surroundings holds) {place : Place} {seen : List String}
    {tree : Tree} {memory : Memory} {outcome : Outcome Tree} (before : holds memory) :
    Expands surroundings mode place seen tree memory outcome → holds outcome.2
  | .failed _ leads => kept.leading leads before
  | .back _ leads => kept.leading leads before
  | .noDocument _ leads => kept.failing mode _ _ (kept.leading leads before)
  | .noNode _ leads => kept.failing mode _ _ (kept.leading leads before)
  | .value _ leads inner => inner.keeps kept (kept.leading leads before)
  | .mapping _ inner => inner.keeps kept before
  | .list inner => inner.keeps kept before
  | .scalar _ _ => before

theorem ExpandsItems.keeps (kept : Kept surroundings holds) {place : Place} {seen : List String}
    {items : List Tree} {memory : Memory} {outcome : Outcome (List Tree)} (before : holds memory) :
    ExpandsItems surroundings mode place seen items memory outcome → holds outcome.2
  | .nil => before
  | .failed first => first.keeps kept before
  | .cons first others => by
    have whole := others.keeps kept (first.keeps kept before)
    exact whole

theorem ExpandsEntries.keeps (kept : Kept surroundings holds) {place : Place} {seen : List String}
    {entries : List (String × Tree)} {memory : Memory}
    {outcome : Outcome (List (String × Tree))} (before : holds memory) :
    ExpandsEntries surroundings mode place seen entries memory outcome → holds outcome.2
  | .nil => before
  | .failed first => first.keeps kept before
  | .cons first others => by
    have whole := others.keeps kept (first.keeps kept before)
    exact whole
end

/-- An expansion that is entered starts with what the one around it has kept. -/
theorem Enters.keeps (kept : Kept surroundings holds) {outer inner : Expansion}
    (enters : Enters surroundings mode outer inner) (before : holds outer.memory) :
    holds inner.memory := by
  cases enters with
  | value found leads => exact kept.leading leads before
  | entries | items | item | entry => exact before
  | otherItems first => exact first.keeps kept before
  | otherEntries first => exact first.keeps kept before

/-- Every expansion of a run starts with what the steps before it have kept. -/
theorem Reaches.keeps (kept : Kept surroundings holds) {outer inner : Expansion}
    (reaches : Reaches surroundings mode outer inner) (before : holds outer.memory) :
    holds inner.memory :=
  reaches.preserves (fun enters before => enters.keeps kept before) before

end Kept

/-- A memory stays faithful. -/
theorem kept_faithful (surroundings : Surroundings) :
    Kept surroundings (·.Faithful surroundings) where
  leading leads faithful := (lead_run_inv faithful leads).2.1
  saying _ faithful := ⟨faithful.documents, faithful.failures⟩

/-- Messages are only added. -/
theorem kept_messages (surroundings : Surroundings) (messages : List String) :
    Kept surroundings (messages <+: ·.messages) where
  leading leads before := (lead_grows leads).1.messages_eq.symm ▸ before
  saying message before := before.trans (by
    unfold addNew
    split
    · exact List.prefix_rfl
    · exact List.prefix_append _ _)

end ApiAdmission.Reference
