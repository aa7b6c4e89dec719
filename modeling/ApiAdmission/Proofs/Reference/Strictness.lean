import ApiAdmission.Proofs.Reference.Nesting
import ApiAdmission.Proofs.Resolver.Rendering

/-!
# Strict and collecting mode

The two modes differ only in what a reference without a target does.  So they run alike, call by
call and memory by memory, up to the first such reference (`Expands.strictly`).  If there is none,
they give the same tree.  If there is one, collecting mode leaves its message as the first one, and
strict mode fails there; the failure goes through every call around it, and it keeps its kind and
its words.

So strict mode fails exactly where collecting mode has something to say, with the first message that
it leaves, and a lenient reading of a text fails exactly where its resolution complains about a
reference (`resolveStrictly_agrees`).
-/

namespace ApiAdmission.Reference

set_option autoImplicit false

/-! ## Problems with references -/

/-- What is wrong with a reference that has no target. -/
inductive Problem where
  /-- It names no document, for a reason. -/
  | noDocument (reference reason : String)
  /-- It names no node of its document. -/
  | noNode (reference : String) (fault : PointerFault)

/-- The message that collecting mode leaves about a problem. -/
def Problem.message : Problem → String
  | .noDocument reference reason => loadMessage reference reason
  | .noNode reference fault => pointerMessage reference fault.message

/-- The failure that a problem is to strict mode. -/
def Problem.failure : Problem → Failure
  | .noDocument reference reason => .badRemoteReference (loadMessage reference reason)
  | .noNode reference fault => .badReference (pointerMessage reference fault.message)

/-- Messages about documents and about nodes are told apart by their first words. -/
theorem loadMessage_ne_pointerMessage (reference reason other cause : String) :
    loadMessage reference reason ≠ pointerMessage other cause := by
  intro same
  have first : (loadMessage reference reason).toList.head? = some 'U' := by
    have word : "Unable to load remote reference ".toList.head? = some 'U' := by decide +kernel
    unfold loadMessage
    simp only [String.toList_append, List.append_assoc, List.head?_append, word, Option.some_or]
  have second : (pointerMessage other cause).toList.head? = some 'r' := by
    have word : "reference ".toList.head? = some 'r' := by decide +kernel
    unfold pointerMessage
    simp only [String.toList_append, List.append_assoc, List.head?_append, word, Option.some_or]
  rw [same, second] at first
  cases first

/-- An expansion meets a problem when it is that of the reference with the problem. -/
inductive Expansion.Meets (surroundings : Surroundings) : Expansion → Problem → Prop where
  | noDocument {place : Place} {seen : List String} {entries : List (String × Tree)}
      {reference reason : String} {memory after : Memory}
      (found : referenceOf? entries = some reference)
      (leads : (lead surroundings place seen reference).run.run memory =
        (.ok (.noDocument reason), after)) :
      Meets surroundings ⟨place, seen, .tree (.mapping entries), memory⟩
        (.noDocument reference reason)
  | noNode {place : Place} {seen : List String} {entries : List (String × Tree)}
      {reference : String} {fault : PointerFault} {memory after : Memory}
      (found : referenceOf? entries = some reference)
      (leads : (lead surroundings place seen reference).run.run memory =
        (.ok (.noNode fault), after)) :
      Meets surroundings ⟨place, seen, .tree (.mapping entries), memory⟩ (.noNode reference fault)

/-- Collecting mode meets a problem, and has said nothing since the start until then. -/
def Expansion.MeetsFirst (surroundings : Surroundings) (start : Expansion) (problem : Problem) :
    Prop :=
  ∃ inner, Reaches surroundings .collecting start inner ∧ inner.Meets surroundings problem ∧
    inner.memory.messages = start.memory.messages

/-! ## Strict mode up to the first problem -/

/-- An expansion in strict mode ends with a failure. -/
def Expansion.FailsStrictly (surroundings : Surroundings) (expansion : Expansion)
    (failure : Failure) : Prop :=
  ∃ after, match expansion.piece with
    | .tree tree => Expands surroundings .strict expansion.place expansion.seen tree
        expansion.memory (.error failure, after)
    | .items items => ExpandsItems surroundings .strict expansion.place expansion.seen items
        expansion.memory (.error failure, after)
    | .entries entries => ExpandsEntries surroundings .strict expansion.place expansion.seen entries
        expansion.memory (.error failure, after)

/-- Strict mode stops at the first problem.  Collecting mode leaves its message there, and ends with
the messages that are given. -/
def Expansion.Stopped (surroundings : Surroundings) (start : Expansion) (messages : List String) :
    Prop :=
  ∃ problem, start.MeetsFirst surroundings problem ∧
    start.FailsStrictly surroundings problem.failure ∧
    addNew start.memory.messages problem.message <+: messages

variable {surroundings : Surroundings}

/-- An expansion in which a silent run enters one that is stopped is stopped there too, if it passes
failures on. -/
theorem Expansion.Stopped.of_enters {outer inner : Expansion} {messages more : List String}
    (stopped : inner.Stopped surroundings messages)
    (enters : Enters surroundings .collecting outer inner)
    (silent : inner.memory.messages = outer.memory.messages)
    (passes : ∀ failure, inner.FailsStrictly surroundings failure →
      outer.FailsStrictly surroundings failure)
    (added : messages <+: more) : outer.Stopped surroundings more := by
  obtain ⟨problem, ⟨met, reaches, meets, unsaid⟩, fails, said⟩ := stopped
  exact ⟨problem, ⟨met, reaches.head enters, meets, unsaid.trans silent⟩,
    passes _ fails, silent ▸ said.trans added⟩

mutual
/-- A run in collecting mode is one in strict mode that says nothing, or strict mode stops at the
first problem. -/
theorem Expands.strictly {place : Place} {seen : List String} {tree : Tree} {memory : Memory}
    {outcome : Outcome Tree} :
    Expands surroundings .collecting place seen tree memory outcome →
      (Expands surroundings .strict place seen tree memory outcome ∧
        outcome.2.messages = memory.messages) ∨
      Expansion.Stopped surroundings ⟨place, seen, .tree tree, memory⟩ outcome.2.messages
  | .failed found leads => .inl ⟨.failed found leads, (lead_grows leads).1.messages_eq⟩
  | .back found leads => .inl ⟨.back found leads, (lead_grows leads).1.messages_eq⟩
  | .noDocument found leads => by
    have silent := (lead_grows leads).1.messages_eq
    refine .inr ⟨_, ⟨_, .refl, .noDocument found leads, rfl⟩, ⟨_, .noDocument found leads⟩, ?_⟩
    exact silent ▸ List.prefix_rfl
  | .noNode found leads => by
    have silent := (lead_grows leads).1.messages_eq
    refine .inr ⟨_, ⟨_, .refl, .noNode found leads, rfl⟩, ⟨_, .noNode found leads⟩, ?_⟩
    exact silent ▸ List.prefix_rfl
  | .value found leads inner => by
    have silent := (lead_grows leads).1.messages_eq
    rcases inner.strictly with ⟨strict, unsaid⟩ | stopped
    · exact .inl ⟨.value found leads strict, unsaid.trans silent⟩
    · exact .inr (stopped.of_enters (.value found leads) silent
        (fun _ ⟨stop, fails⟩ => ⟨stop, .value found leads fails⟩) List.prefix_rfl)
  | .mapping absent inner => by
    rcases inner.strictly with ⟨strict, unsaid⟩ | stopped
    · exact .inl ⟨.mapping absent strict, unsaid⟩
    · exact .inr (stopped.of_enters (.entries absent) rfl
        (fun _ ⟨stop, fails⟩ => ⟨stop, .mapping absent fails⟩) List.prefix_rfl)
  | .list inner => by
    rcases inner.strictly with ⟨strict, unsaid⟩ | stopped
    · exact .inl ⟨.list strict, unsaid⟩
    · exact .inr (stopped.of_enters .items rfl
        (fun _ ⟨stop, fails⟩ => ⟨stop, .list fails⟩) List.prefix_rfl)
  | .scalar noMapping noList => .inl ⟨.scalar noMapping noList, rfl⟩

theorem ExpandsItems.strictly {place : Place} {seen : List String} {items : List Tree}
    {memory : Memory} {outcome : Outcome (List Tree)} :
    ExpandsItems surroundings .collecting place seen items memory outcome →
      (ExpandsItems surroundings .strict place seen items memory outcome ∧
        outcome.2.messages = memory.messages) ∨
      Expansion.Stopped surroundings ⟨place, seen, .items items, memory⟩ outcome.2.messages
  | .nil => .inl ⟨.nil, rfl⟩
  | .failed first => by
    rcases first.strictly with ⟨strict, unsaid⟩ | stopped
    · exact .inl ⟨.failed strict, unsaid⟩
    · exact .inr (stopped.of_enters .item rfl
        (fun _ ⟨stop, fails⟩ => ⟨stop, .failed fails⟩) List.prefix_rfl)
  | .cons first others => by
    rcases first.strictly with ⟨strictFirst, unsaid⟩ | stopped
    · rcases others.strictly with ⟨strictOthers, more⟩ | stopped
      · exact .inl ⟨.cons strictFirst strictOthers, more.trans unsaid⟩
      · exact .inr (stopped.of_enters (.otherItems first) unsaid
          (fun _ ⟨stop, fails⟩ => ⟨stop, .cons strictFirst fails⟩) List.prefix_rfl)
    · have more := others.keeps (kept_messages _ _) List.prefix_rfl
      exact .inr (stopped.of_enters .item rfl
        (fun _ ⟨stop, fails⟩ => ⟨stop, .failed fails⟩) more)

theorem ExpandsEntries.strictly {place : Place} {seen : List String}
    {entries : List (String × Tree)} {memory : Memory}
    {outcome : Outcome (List (String × Tree))} :
    ExpandsEntries surroundings .collecting place seen entries memory outcome →
      (ExpandsEntries surroundings .strict place seen entries memory outcome ∧
        outcome.2.messages = memory.messages) ∨
      Expansion.Stopped surroundings ⟨place, seen, .entries entries, memory⟩ outcome.2.messages
  | .nil => .inl ⟨.nil, rfl⟩
  | .failed first => by
    rcases first.strictly with ⟨strict, unsaid⟩ | stopped
    · exact .inl ⟨.failed strict, unsaid⟩
    · exact .inr (stopped.of_enters .entry rfl
        (fun _ ⟨stop, fails⟩ => ⟨stop, .failed fails⟩) List.prefix_rfl)
  | .cons first others => by
    rcases first.strictly with ⟨strictFirst, unsaid⟩ | stopped
    · rcases others.strictly with ⟨strictOthers, more⟩ | stopped
      · exact .inl ⟨.cons strictFirst strictOthers, more.trans unsaid⟩
      · exact .inr (stopped.of_enters (.otherEntries first) unsaid
          (fun _ ⟨stop, fails⟩ => ⟨stop, .cons strictFirst fails⟩) List.prefix_rfl)
    · have more := others.keeps (kept_messages _ _) List.prefix_rfl
      exact .inr (stopped.of_enters .entry rfl
        (fun _ ⟨stop, fails⟩ => ⟨stop, .failed fails⟩) more)
end

/-! ## The two modes from the start -/

section Start

variable {base : Option String} {tree result : Tree} {messages : List String}

/-- A tree from collecting mode comes from an expansion that ends. -/
theorem expands_of_resolveCollecting
    (collects : resolveCollecting surroundings base tree = (.ok result, messages)) :
    ∃ after, Expands surroundings .collecting ⟨tree, base⟩ [] tree .empty (.ok result, after) ∧
      after.messages = messages := by
  unfold resolveCollecting at collects
  change (((surroundings.expand .collecting ⟨tree, base⟩ [] tree .empty).getD
      (.error (.breakdown .endless), .empty)).1,
    ((surroundings.expand .collecting ⟨tree, base⟩ [] tree .empty).getD
      (.error (.breakdown .endless), .empty)).2.messages) = _ at collects
  cases ends : surroundings.expand .collecting ⟨tree, base⟩ [] tree .empty with
  | none =>
    rw [ends] at collects
    cases collects
  | some outcome =>
    rw [ends] at collects
    obtain ⟨given, after⟩ := outcome
    cases collects
    exact ⟨after, expand_eq_some_iff.mp ends, rfl⟩

/-- An expansion that ends gives what replacing references in collecting mode gives. -/
theorem resolveCollecting_of_expands {outcome : Outcome Tree}
    (expands : Expands surroundings .collecting ⟨tree, base⟩ [] tree .empty outcome) :
    resolveCollecting surroundings base tree = (outcome.1, outcome.2.messages) := by
  rw [resolveCollecting, resolve_run_of_expands expands]

/-- In strict mode too. -/
theorem resolveStrictly_of_expands {outcome : Outcome Tree}
    (expands : Expands surroundings .strict ⟨tree, base⟩ [] tree .empty outcome) :
    resolveStrictly surroundings base tree = outcome.1 := by
  rw [resolveStrictly, resolve_run_of_expands expands]

/-- Strict mode gives the tree of a collecting mode that says nothing, or it fails at the problem
that collecting mode speaks of first. -/
theorem resolveStrictly_cases
    (collects : resolveCollecting surroundings base tree = (.ok result, messages)) :
    (messages = [] ∧ resolveStrictly surroundings base tree = .ok result) ∨
    ∃ problem, (Expansion.whole base tree .empty).MeetsFirst surroundings problem ∧
      messages.head? = some problem.message ∧
      resolveStrictly surroundings base tree = .error problem.failure := by
  obtain ⟨after, expands, rfl⟩ := expands_of_resolveCollecting collects
  rcases expands.strictly with ⟨strict, unsaid⟩ | ⟨problem, meets, ⟨stop, fails⟩, rest, said⟩
  · exact .inl ⟨unsaid, resolveStrictly_of_expands strict⟩
  · refine .inr ⟨problem, meets, ?_, resolveStrictly_of_expands fails⟩
    exact said ▸ rfl

end Start

/-- A reading that fails at references agrees with a tree and messages about references: it gives
the tree where there are no messages, and fails with the first one otherwise. -/
structure Agrees (reading : Except Failure Tree) (result : Tree) (messages : List String) :
    Prop where
  silent : messages = [] → reading = .ok result
  spoken : ∀ first ∈ messages.head?,
    reading = .error (.badRemoteReference first) ∨ reading = .error (.badReference first)

/-- Such a reading fails exactly where there are messages. -/
theorem Agrees.fails_iff {reading : Except Failure Tree} {result : Tree} {messages : List String}
    (agrees : Agrees reading result messages) :
    (∃ failure, reading = .error failure) ↔ messages ≠ [] := by
  cases messages with
  | nil => simp [agrees.silent rfl]
  | cons first rest =>
    rcases agrees.spoken first rfl with fails | fails <;> simp [fails]

/-- Strict mode agrees with collecting mode. -/
theorem agrees_of_resolveCollecting {base : Option String} {tree result : Tree}
    {messages : List String}
    (collects : resolveCollecting surroundings base tree = (.ok result, messages)) :
    Agrees (resolveStrictly surroundings base tree) result messages := by
  rcases resolveStrictly_cases collects with ⟨rfl, gives⟩ | ⟨problem, _, heads, fails⟩
  · exact ⟨fun _ => gives, nofun⟩
  · refine ⟨?_, ?_⟩
    · rintro rfl
      cases heads
    · intro first same
      cases heads.symm.trans same
      cases problem with
      | noDocument reference reason => exact .inl fails
      | noNode reference fault => exact .inr fails

/-- A lenient reading of a text that can be read is a strict replacement of its references. -/
theorem readStrictly_of_parse {base : Option String} {text : String} {tree : Tree}
    (reads : parseMapping text = .ok tree) :
    Resolver.readStrictly surroundings text base = resolveStrictly surroundings base tree := by
  rw [Resolver.readStrictly, reads]
  rfl

/-- **Strict mode agrees with collecting mode.**  Where collecting mode gives a tree, strict mode
gives the same tree if there is no message, and fails with the first message otherwise: as for a
document that cannot be loaded exactly if that is what the message was left for.  So a lenient
reading of a text fails exactly where the resolution of its tree complains about a reference.  In a
rendering of the text these complaints come first, before those about its structure. -/
theorem resolveStrictly_agrees (surroundings : Surroundings) (base : Option String) :
    (∀ tree result messages, resolveCollecting surroundings base tree = (.ok result, messages) →
      Agrees (resolveStrictly surroundings base tree) result messages ∧
      ∀ first ∈ messages.head?,
        (resolveStrictly surroundings base tree = .error (.badRemoteReference first) ↔
          ∃ reference reason, first = loadMessage reference reason ∧
            (Expansion.whole base tree .empty).MeetsFirst surroundings
              (.noDocument reference reason))) ∧
    (∀ text tree result messages, parseMapping text = .ok tree →
      resolveCollecting surroundings base tree = (.ok result, messages) →
      ((∃ failure, (Resolver.standard surroundings).parseLenient text base = .error failure) ↔
        messages ≠ []) ∧
      Agrees ((Resolver.standard surroundings).parseLenient text base) result messages) ∧
    ∀ family text document told,
      Resolver.renderText surroundings family text base = .ok ⟨some document, told⟩ →
      ∃ tree messages more, parseMapping text = .ok tree ∧
        resolveCollecting surroundings base tree = (.ok document.tree, messages) ∧
        Definition.structureMessages (.of family document.version) document.tree = .ok more ∧
        told = messages ++ more ∧
        ((∃ failure, (Resolver.standard surroundings).parseLenient text base = .error failure) ↔
          messages ≠ []) ∧
        Agrees ((Resolver.standard surroundings).parseLenient text base) document.tree
          messages := by
  have lenient : ∀ {text tree result messages}, parseMapping text = .ok tree →
      resolveCollecting surroundings base tree = (.ok result, messages) →
      Agrees ((Resolver.standard surroundings).parseLenient text base) result messages := by
    intro text tree result messages reads collects
    show Agrees (Resolver.readStrictly surroundings text base) result messages
    rw [readStrictly_of_parse reads]
    exact agrees_of_resolveCollecting collects
  refine ⟨?_, ?_, ?_⟩
  · intro tree result messages collects
    refine ⟨agrees_of_resolveCollecting collects, fun first same => ?_⟩
    rcases resolveStrictly_cases collects with ⟨rfl, _⟩ | ⟨problem, meets, heads, fails⟩
    · cases same
    · cases heads.symm.trans same
      cases problem with
      | noDocument reference reason => exact iff_of_true fails ⟨_, _, rfl, meets⟩
      | noNode reference fault =>
        refine iff_of_false ?_ ?_
        · rw [fails]
          exact nofun
        · rintro ⟨other, reason, words, _⟩
          exact loadMessage_ne_pointerMessage _ _ _ _ words.symm
  · intro text tree result messages reads collects
    have agrees := lenient reads collects
    exact ⟨agrees.fails_iff, agrees⟩
  · intro family text document told renders
    obtain ⟨tree, _, messages, more, reads, rendering, version, same⟩ :=
      rendering_of_renderText renders
    have agrees := lenient reads rendering.collects
    exact ⟨tree, messages, more, reads, rendering.collects, version ▸ rendering.checks, same,
      agrees.fails_iff, agrees⟩

/-! ## A definition with a reference to nothing -/

/-- Surroundings in which nothing loads. -/
def barrenSurroundings : Surroundings where
  locate _ document := .ok document
  load _ := .error .disabled

/-- A text with a reference to nothing. -/
def danglingText : String :=
  "\x7b\"swagger\":\"2.0\",\"x-a\":\x7b\"$ref\":\"#/b\"\x7d\x7d"

/-- Its tree. -/
def danglingTree : Tree :=
  .mapping [("swagger", .text "2.0"), ("x-a", .mapping [("$ref", .text "#/b")])]

/-- The tree with a mapping in place of the reference. -/
def mendedTree : Tree := .mapping [("swagger", .text "2.0"), ("x-a", .mapping [])]

theorem parseMapping_danglingText : parseMapping danglingText = .ok danglingTree := rfl

theorem resolveCollecting_danglingTree :
    resolveCollecting barrenSurroundings none danglingTree =
      (.ok mendedTree, [pointerMessage "#/b" "key 'b' not found"]) := by
  have leads : (lead barrenSurroundings ⟨danglingTree, none⟩ [] "#/b").run.run .empty =
      (.ok (.noNode (.missingKey "b")), .empty) := rfl
  have word : Expands barrenSurroundings .collecting ⟨danglingTree, none⟩ [] (.text "2.0") .empty
      (.ok (.text "2.0"), .empty) := .scalar nofun nofun
  have reference : Expands barrenSurroundings .collecting ⟨danglingTree, none⟩ []
      (.mapping [("$ref", .text "#/b")]) .empty
      (.ok (.mapping []), ⟨[], [], [pointerMessage "#/b" "key 'b' not found"], []⟩) :=
    .noNode rfl leads
  exact resolveCollecting_of_expands (.mapping rfl (.cons word (.cons reference .nil)))

theorem renderText_danglingText :
    ∃ told, Resolver.renderText barrenSurroundings .swagger2 danglingText none =
      .ok ⟨some ⟨.swagger2, "2.0", mendedTree⟩, told⟩ := by
  have checked : (Definition.structureMessages .swagger2 mendedTree).toBool = true := by
    decide +kernel
  cases checks : Definition.structureMessages .swagger2 mendedTree with
  | error breakdown =>
    rw [checks] at checked
    cases checked
  | ok more =>
    have renders : Resolver.renderText barrenSurroundings .swagger2 danglingText none =
        Resolver.renderTree barrenSurroundings .swagger2 "2.0" none danglingTree := rfl
    have standard : Definition.Standard.of .swagger2 "2.0" = .swagger2 := rfl
    refine ⟨[pointerMessage "#/b" "key 'b' not found"] ++ more, ?_⟩
    rw [renders, Resolver.renderTree, resolveCollecting_danglingTree]
    simp only [bind, Except.bind, standard, checks]
    rfl

/-- The lenient reading fails at the reference, and names it as the rendering does first. -/
theorem resolveStrictly_agrees_danglingText :
    parseMapping danglingText = .ok danglingTree ∧
    resolveCollecting barrenSurroundings none danglingTree =
      (.ok mendedTree, [pointerMessage "#/b" "key 'b' not found"]) ∧
    resolveStrictly barrenSurroundings none danglingTree =
      .error (.badReference (pointerMessage "#/b" "key 'b' not found")) ∧
    (∃ failure,
      (Resolver.standard barrenSurroundings).parseLenient danglingText none = .error failure) ∧
    ∃ told, Resolver.renderText barrenSurroundings .swagger2 danglingText none =
        .ok ⟨some ⟨.swagger2, "2.0", mendedTree⟩, told⟩ ∧
      told.head? = some (pointerMessage "#/b" "key 'b' not found") := by
  obtain ⟨onTrees, onTexts, onRenderings⟩ := resolveStrictly_agrees barrenSurroundings none
  have collects := resolveCollecting_danglingTree
  obtain ⟨agrees, kind⟩ := onTrees _ _ _ collects
  have fails : resolveStrictly barrenSurroundings none danglingTree =
      .error (.badReference (pointerMessage "#/b" "key 'b' not found")) := by
    rcases agrees.spoken _ rfl with remote | fails
    · obtain ⟨reference, reason, words, _⟩ := (kind _ rfl).mp remote
      exact absurd words.symm (loadMessage_ne_pointerMessage _ _ _ _)
    · exact fails
  have reading := (onTexts _ _ _ _ parseMapping_danglingText collects).1.mpr (List.cons_ne_nil _ _)
  obtain ⟨more, renders⟩ := renderText_danglingText
  obtain ⟨tree, messages, others, reads, same, _, told, _⟩ := onRenderings _ _ _ _ renders
  cases parseMapping_danglingText.symm.trans reads
  cases collects.symm.trans same
  exact ⟨parseMapping_danglingText, collects, fails, reading, _, renders, told ▸ rfl⟩

end ApiAdmission.Reference
