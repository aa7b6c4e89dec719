import ApiAdmission.Reference.Resolution

/-!
# Expansions step by step

`Expands` says which outcome the replacement of the references of a tree has, one rule for each way
that a step can go: what a mapping with a reference leads to, or the members of a mapping or a list
one after the other.  A derivation is finite, so it also says that the work ends.  The expansion
gives an outcome exactly where there is a derivation of it (`expand_eq_some_iff`), and what holds of
all outcomes is shown by induction on derivations from here on.
-/

namespace ApiAdmission.Reference

set_option autoImplicit false

variable {surroundings : Surroundings} {mode : Mode}

mutual
/-- The outcome of expanding a tree in a place, inside the expansions with the given keys. -/
inductive Expands (surroundings : Surroundings) (mode : Mode) :
    Place → List String → Tree → Memory → Outcome Tree → Prop where
  /-- Finding out where a reference leads fails. -/
  | failed {place : Place} {seen : List String} {entries : List (String × Tree)}
      {reference : String} {memory after : Memory} {failure : Failure}
      (found : referenceOf? entries = some reference)
      (leads : (lead surroundings place seen reference).run.run memory = (.error failure, after)) :
      Expands surroundings mode place seen (.mapping entries) memory (.error failure, after)
  /-- A reference that leads back is kept. -/
  | back {place : Place} {seen : List String} {entries : List (String × Tree)}
      {reference : String} {memory after : Memory}
      (found : referenceOf? entries = some reference)
      (leads : (lead surroundings place seen reference).run.run memory = (.ok .back, after)) :
      Expands surroundings mode place seen (.mapping entries) memory
        (.ok (.mapping entries), after)
  /-- A reference to no document fails as the mode says. -/
  | noDocument {place : Place} {seen : List String} {entries : List (String × Tree)}
      {reference reason : String} {memory after : Memory}
      (found : referenceOf? entries = some reference)
      (leads : (lead surroundings place seen reference).run.run memory =
        (.ok (.noDocument reason), after)) :
      Expands surroundings mode place seen (.mapping entries) memory
        ((fail mode .badRemoteReference (loadMessage reference reason)).run.run after)
  /-- A reference to no node fails as the mode says. -/
  | noNode {place : Place} {seen : List String} {entries : List (String × Tree)}
      {reference : String} {fault : PointerFault} {memory after : Memory}
      (found : referenceOf? entries = some reference)
      (leads : (lead surroundings place seen reference).run.run memory =
        (.ok (.noNode fault), after)) :
      Expands surroundings mode place seen (.mapping entries) memory
        ((fail mode .badReference (pointerMessage reference fault.message)).run.run after)
  /-- A reference to a value becomes the expansion of the value in its own place. -/
  | value {place there : Place} {seen : List String} {entries : List (String × Tree)}
      {reference key : String} {value : Tree} {memory after : Memory} {outcome : Outcome Tree}
      (found : referenceOf? entries = some reference)
      (leads : (lead surroundings place seen reference).run.run memory =
        (.ok (.value there key value), after))
      (inner : Expands surroundings mode there (key :: seen) value after outcome) :
      Expands surroundings mode place seen (.mapping entries) memory outcome
  /-- A mapping without a reference is expanded entry by entry. -/
  | mapping {place : Place} {seen : List String} {entries : List (String × Tree)}
      {memory after : Memory} {outcome : Except Failure (List (String × Tree))}
      (absent : referenceOf? entries = none)
      (inner : ExpandsEntries surroundings mode place seen entries memory (outcome, after)) :
      Expands surroundings mode place seen (.mapping entries) memory (outcome.map .mapping, after)
  /-- A list is expanded item by item. -/
  | list {place : Place} {seen : List String} {items : List Tree} {memory after : Memory}
      {outcome : Except Failure (List Tree)}
      (inner : ExpandsItems surroundings mode place seen items memory (outcome, after)) :
      Expands surroundings mode place seen (.list items) memory (outcome.map .list, after)
  /-- Any other tree stays as it is. -/
  | scalar {place : Place} {seen : List String} {tree : Tree} {memory : Memory}
      (noMapping : ∀ entries, tree ≠ .mapping entries) (noList : ∀ items, tree ≠ .list items) :
      Expands surroundings mode place seen tree memory (.ok tree, memory)

/-- The outcome of expanding the items of a list. -/
inductive ExpandsItems (surroundings : Surroundings) (mode : Mode) :
    Place → List String → List Tree → Memory → Outcome (List Tree) → Prop where
  | nil {place : Place} {seen : List String} {memory : Memory} :
      ExpandsItems surroundings mode place seen [] memory (.ok [], memory)
  | failed {place : Place} {seen : List String} {item : Tree} {rest : List Tree}
      {memory after : Memory} {failure : Failure}
      (first : Expands surroundings mode place seen item memory (.error failure, after)) :
      ExpandsItems surroundings mode place seen (item :: rest) memory (.error failure, after)
  | cons {place : Place} {seen : List String} {item result : Tree} {rest : List Tree}
      {memory between after : Memory} {outcome : Except Failure (List Tree)}
      (first : Expands surroundings mode place seen item memory (.ok result, between))
      (others : ExpandsItems surroundings mode place seen rest between (outcome, after)) :
      ExpandsItems surroundings mode place seen (item :: rest) memory
        (outcome.map (result :: ·), after)

/-- The outcome of expanding the values of the entries of a mapping. -/
inductive ExpandsEntries (surroundings : Surroundings) (mode : Mode) :
    Place → List String → List (String × Tree) → Memory → Outcome (List (String × Tree)) →
      Prop where
  | nil {place : Place} {seen : List String} {memory : Memory} :
      ExpandsEntries surroundings mode place seen [] memory (.ok [], memory)
  | failed {place : Place} {seen : List String} {name : String} {value : Tree}
      {rest : List (String × Tree)} {memory after : Memory} {failure : Failure}
      (first : Expands surroundings mode place seen value memory (.error failure, after)) :
      ExpandsEntries surroundings mode place seen ((name, value) :: rest) memory
        (.error failure, after)
  | cons {place : Place} {seen : List String} {name : String} {value result : Tree}
      {rest : List (String × Tree)} {memory between after : Memory}
      {outcome : Except Failure (List (String × Tree))}
      (first : Expands surroundings mode place seen value memory (.ok result, between))
      (others : ExpandsEntries surroundings mode place seen rest between (outcome, after)) :
      ExpandsEntries surroundings mode place seen ((name, value) :: rest) memory
        (outcome.map ((name, result) :: ·), after)
end

/-! ## The expansion follows the rules -/

mutual
/-- A derivation gives the outcome of the expansion. -/
theorem Expands.eq_some {place : Place} {seen : List String} {tree : Tree} {memory : Memory}
    {outcome : Outcome Tree} :
    Expands surroundings mode place seen tree memory outcome →
      surroundings.expand mode place seen tree memory = some outcome
  | .failed found leads => by simp [Surroundings.expand, found, leads]
  | .back found leads => by simp [Surroundings.expand, found, leads]
  | .noDocument found leads => by simp [Surroundings.expand, found, leads]
  | .noNode found leads => by simp [Surroundings.expand, found, leads]
  | .value found leads inner => by
    rw [← inner.eq_some]
    simp [Surroundings.expand.eq_def _ _ place, found, leads]
  | .mapping absent inner => by simp [Surroundings.expand, absent, inner.eq_some]
  | .list inner => by simp [Surroundings.expand, inner.eq_some]
  | .scalar noMapping noList => by
    cases tree with
    | mapping entries => exact absurd rfl (noMapping entries)
    | list items => exact absurd rfl (noList items)
    | _ => simp [Surroundings.expand]

theorem ExpandsItems.eq_some {place : Place} {seen : List String} {items : List Tree}
    {memory : Memory} {outcome : Outcome (List Tree)} :
    ExpandsItems surroundings mode place seen items memory outcome →
      surroundings.expandItems mode place seen items memory = some outcome
  | .nil => by rw [Surroundings.expandItems]
  | .failed first => by simp [Surroundings.expandItems, first.eq_some]
  | .cons first others => by simp [Surroundings.expandItems, first.eq_some, others.eq_some]

theorem ExpandsEntries.eq_some {place : Place} {seen : List String}
    {entries : List (String × Tree)} {memory : Memory}
    {outcome : Outcome (List (String × Tree))} :
    ExpandsEntries surroundings mode place seen entries memory outcome →
      surroundings.expandEntries mode place seen entries memory = some outcome
  | .nil => by rw [Surroundings.expandEntries]
  | .failed first => by simp [Surroundings.expandEntries, first.eq_some]
  | .cons first others => by simp [Surroundings.expandEntries, first.eq_some, others.eq_some]
end

/-- Every outcome of the expansion has a derivation, by induction on the approximations of the
expansion. -/
theorem expands_of_eq_some :
    (∀ place seen tree memory outcome,
      surroundings.expand mode place seen tree memory = some outcome →
      Expands surroundings mode place seen tree memory outcome) ∧
    (∀ place seen items memory outcome,
      surroundings.expandItems mode place seen items memory = some outcome →
      ExpandsItems surroundings mode place seen items memory outcome) ∧
    (∀ place seen entries memory outcome,
      surroundings.expandEntries mode place seen entries memory = some outcome →
      ExpandsEntries surroundings mode place seen entries memory outcome) := by
  refine Surroundings.expand.mutual_partial_correctness surroundings mode
    (fun place seen tree memory outcome =>
      Expands surroundings mode place seen tree memory outcome)
    (fun place seen items memory outcome =>
      ExpandsItems surroundings mode place seen items memory outcome)
    (fun place seen entries memory outcome =>
      ExpandsEntries surroundings mode place seen entries memory outcome) ?_ ?_ ?_
  · intro expand expandItems expandEntries ofTree ofItems ofEntries place seen tree memory outcome
      gives
    split at gives
    case h_1 entries =>
      split at gives
      case h_1 reference found =>
        split at gives
        case h_1 failure after leads =>
          cases gives
          exact .failed found leads
        case h_2 after leads =>
          cases gives
          exact .back found leads
        case h_3 reason after leads =>
          cases gives
          exact .noDocument found leads
        case h_4 fault after leads =>
          cases gives
          exact .noNode found leads
        case h_5 there key value after leads =>
          exact .value found leads (ofTree _ _ _ _ _ gives)
      case h_2 absent =>
        obtain ⟨⟨result, after⟩, inner, whole⟩ := Option.bind_eq_some_iff.mp gives
        cases whole
        exact .mapping absent (ofEntries _ _ _ _ _ inner)
    case h_2 items =>
      obtain ⟨⟨result, after⟩, inner, whole⟩ := Option.bind_eq_some_iff.mp gives
      cases whole
      exact .list (ofItems _ _ _ _ _ inner)
    case h_3 noMapping noList =>
      cases gives
      exact .scalar noMapping noList
  · intro expand expandItems ofTree ofItems place seen items memory outcome gives
    cases items with
    | nil =>
      cases gives
      exact .nil
    | cons item rest =>
      obtain ⟨⟨result | result, between⟩, first, gives⟩ := Option.bind_eq_some_iff.mp gives
      · cases gives
        exact .failed (ofTree _ _ _ _ _ first)
      · obtain ⟨⟨results, after⟩, others, whole⟩ := Option.bind_eq_some_iff.mp gives
        cases whole
        exact .cons (ofTree _ _ _ _ _ first) (ofItems _ _ _ _ _ others)
  · intro expand expandEntries ofTree ofEntries place seen entries memory outcome gives
    cases entries with
    | nil =>
      cases gives
      exact .nil
    | cons entry rest =>
      obtain ⟨⟨result | result, between⟩, first, gives⟩ := Option.bind_eq_some_iff.mp gives
      · cases gives
        exact .failed (ofTree _ _ _ _ _ first)
      · obtain ⟨⟨results, after⟩, others, whole⟩ := Option.bind_eq_some_iff.mp gives
        cases whole
        exact .cons (ofTree _ _ _ _ _ first) (ofEntries _ _ _ _ _ others)

/-- **The expansion gives an outcome exactly where there is a derivation of it.** -/
theorem expand_eq_some_iff {place : Place} {seen : List String} {tree : Tree} {memory : Memory}
    {outcome : Outcome Tree} :
    surroundings.expand mode place seen tree memory = some outcome ↔
      Expands surroundings mode place seen tree memory outcome :=
  ⟨expands_of_eq_some.1 place seen tree memory outcome, Expands.eq_some⟩

/-- Replacing the references of a tree gives what its expansion ends with. -/
theorem resolve_run_of_expands {base : Option String} {tree : Tree} {memory : Memory}
    {outcome : Outcome Tree}
    (expands : Expands surroundings mode ⟨tree, base⟩ [] tree memory outcome) :
    (resolve surroundings mode base tree).run.run memory = outcome := by
  have run : (resolve surroundings mode base tree).run.run memory =
      (surroundings.expand mode ⟨tree, base⟩ [] tree memory).getD
        (.error (.breakdown .endless), memory) := rfl
  rw [run, expand_eq_some_iff.mpr expands, Option.getD_some]

end ApiAdmission.Reference
