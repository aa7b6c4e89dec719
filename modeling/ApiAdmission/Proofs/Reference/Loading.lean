import ApiAdmission.Proofs.Outcome
import ApiAdmission.Proofs.Tree.Entries
import ApiAdmission.Reference.Resolution

/-!
# Loading behind a memory

Work on references remembers what loading gave.  As long as the memory says of every location what
loading there gives (`Memory.Faithful`), remembering cannot be told from loading: where a reference
leads is a matter of the surroundings alone (`leadOf`), the memory stays faithful, and no message is
added (`lead_run`).

Whatever a memory says, it is asked first, and nothing is loaded of which it knows
(`loadOnce_of_known`, `loadOnce_of_unknown`).  So following a reference changes the memory at most
by what loading gives for the location that the reference names (`lead_learns`), and leads to nodes
of its own document or of one in the memory (`lead_grows`).
-/

namespace ApiAdmission.Reference

set_option autoImplicit false

/-! ## What the surroundings alone say -/

/-- What loading a document comes to for a reference: the tree, or the reason why there is none;
other faults go through. -/
def fetched (surroundings : Surroundings) (location : String) :
    Except Failure (Except String Tree) :=
  match surroundings.load location with
  | .ok tree => .ok (.ok tree)
  | .error (.breakdown breakdown) => .error (.breakdown breakdown)
  | .error fault => .ok (.error fault.reason)

/-- The document that a reference in a place names, or the reason why there is none. -/
def reach (surroundings : Surroundings) (place : Place) (document : String) :
    Except Failure (Except String Place) :=
  if document == "" then .ok (.ok place)
  else
    match surroundings.locate place.location document with
    | .error (.breakdown breakdown) => .error (.breakdown breakdown)
    | .error (.noBase part) =>
      .ok (.error ("relative reference " ++ part ++ " has no document location to resolve against"))
    | .ok location =>
      match fetched surroundings location with
      | .ok (.ok root) => .ok (.ok ⟨root, some location⟩)
      | .ok (.error reason) => .ok (.error reason)
      | .error failure => .error failure

/-- A document part in a place names the document at a location. -/
def Place.Names (surroundings : Surroundings) (place : Place) (part location : String) : Prop :=
  part ≠ "" ∧ surroundings.locate place.location part = .ok location

section Reach

variable {surroundings : Surroundings} {place : Place} {document : String}

/-- A reference reaches its own place, or a document that it locates and that loads. -/
theorem reach_cases {there : Place}
    (reaches : reach surroundings place document = .ok (.ok there)) :
    (document = "" ∧ there = place) ∨
      (document ≠ "" ∧ ∃ location, surroundings.locate place.location document = .ok location ∧
        there.location = some location ∧ surroundings.load location = .ok there.root) := by
  unfold reach at reaches
  split at reaches
  case isTrue own =>
    cases reaches
    exact .inl ⟨eq_of_beq own, rfl⟩
  case isFalse other =>
    cases locates : surroundings.locate place.location document with
    | error fault =>
      rw [locates] at reaches
      cases fault <;> cases reaches
    | ok location =>
      rw [locates] at reaches
      cases loads : surroundings.load location with
      | error fault =>
        simp only [fetched, loads] at reaches
        cases fault <;> cases reaches
      | ok root =>
        simp only [fetched, loads] at reaches
        cases reaches
        exact .inr ⟨by simpa using other, location, rfl, rfl, loads⟩

theorem reach_of_load {location : String} {root : Tree} (named : document ≠ "")
    (locates : surroundings.locate place.location document = .ok location)
    (loads : surroundings.load location = .ok root) :
    reach surroundings place document = .ok (.ok ⟨root, some location⟩) := by
  simp [reach, named, locates, fetched, loads]

/-- It fails where it cannot be located, or where it is located and loading breaks down. -/
theorem reach_eq_error_iff {failure : Failure} :
    reach surroundings place document = .error failure ↔
      ∃ breakdown, failure = .breakdown breakdown ∧ document ≠ "" ∧
        (surroundings.locate place.location document = .error (.breakdown breakdown) ∨
          ∃ location, surroundings.locate place.location document = .ok location ∧
            surroundings.load location = .error (.breakdown breakdown)) := by
  unfold reach
  split
  case isTrue own => simp [eq_of_beq own]
  case isFalse other =>
    have named : document ≠ "" := by simpa using other
    cases surroundings.locate place.location document with
    | error fault => cases fault <;> simp [named, eq_comm]
    | ok location =>
      simp only [fetched]
      cases loads : surroundings.load location with
      | ok root => simp [loads]
      | error fault => cases fault <;> simp [loads, named, eq_comm]

/-- It reaches no document, for a reason, where it has nothing to be relative to, or where it is
located and loading fails in a way that is foreseen. -/
theorem reach_eq_reason_iff {reason : String} :
    reach surroundings place document = .ok (.error reason) ↔
      document ≠ "" ∧
        ((∃ part, surroundings.locate place.location document = .error (.noBase part) ∧
          reason = "relative reference " ++ part ++
            " has no document location to resolve against") ∨
          ∃ location fault, surroundings.locate place.location document = .ok location ∧
            surroundings.load location = .error fault ∧
            (∀ breakdown, fault ≠ .breakdown breakdown) ∧ reason = fault.reason) := by
  unfold reach
  split
  case isTrue own => simp [eq_of_beq own]
  case isFalse other =>
    have named : document ≠ "" := by simpa using other
    cases surroundings.locate place.location document with
    | error fault => cases fault <;> simp [named, eq_comm]
    | ok location =>
      simp only [fetched]
      cases loads : surroundings.load location with
      | ok root => simp [loads]
      | error fault => cases fault <;> simp [loads, named, eq_comm]

end Reach

/-- Where a reference in a document that it has reached leads. -/
def leadIn (there : Place) (seen : List String) (pointer : String) : Lead :=
  if seen.contains (cycleKey there.location pointer) then .back
  else
    match there.root.follow pointer with
    | .error fault => .noNode fault
    | .ok value => .value there (cycleKey there.location pointer) value

/-- Where a reference in a place leads, inside the expansions with the given keys. -/
def leadOf (surroundings : Surroundings) (place : Place) (seen : List String)
    (reference : String) : Except Failure Lead :=
  match reach surroundings place (cut reference).1 with
  | .error failure => .error failure
  | .ok (.error reason) => .ok (.noDocument reason)
  | .ok (.ok there) => .ok (leadIn there seen (cut reference).2)

theorem leadIn_eq_value_iff {here there : Place} {seen : List String} {pointer key : String}
    {value : Tree} :
    leadIn here seen pointer = .value there key value ↔
      there = here ∧ key = cycleKey here.location pointer ∧ key ∉ seen ∧
        here.root.follow pointer = .ok value := by
  unfold leadIn
  by_cases met : cycleKey here.location pointer ∈ seen
  · simp only [List.contains_eq_mem, met, decide_true, if_true, reduceCtorEq, false_iff]
    rintro ⟨_, rfl, new, _⟩
    exact new met
  · cases follows : here.root.follow pointer with
    | error fault => simp [met]
    | ok found =>
      simp only [List.contains_eq_mem, met, decide_false, Bool.false_eq_true, if_false,
        Lead.value.injEq, Except.ok.injEq]
      constructor
      · rintro ⟨rfl, rfl, rfl⟩
        exact ⟨rfl, rfl, met, rfl⟩
      · rintro ⟨rfl, rfl, _, rfl⟩
        exact ⟨rfl, rfl, rfl⟩

section LeadOf

variable {surroundings : Surroundings} {place : Place} {seen : List String} {reference : String}

theorem leadOf_eq_error_iff {failure : Failure} :
    leadOf surroundings place seen reference = .error failure ↔
      reach surroundings place (cut reference).1 = .error failure := by
  unfold leadOf
  rcases reach surroundings place (cut reference).1 with failure | (reason | there) <;> simp

theorem leadOf_eq_noDocument_iff {reason : String} :
    leadOf surroundings place seen reference = .ok (.noDocument reason) ↔
      reach surroundings place (cut reference).1 = .ok (.error reason) := by
  unfold leadOf leadIn
  rcases reach surroundings place (cut reference).1 with failure | (other | there)
  · simp
  · simp
  · simp only [Except.ok.injEq, reduceCtorEq, iff_false]
    split
    · exact nofun
    · split <;> exact nofun

/-- A reference leads back where its key is the key of an expansion around it. -/
theorem leadOf_eq_back_iff :
    leadOf surroundings place seen reference = .ok .back ↔
      ∃ there, reach surroundings place (cut reference).1 = .ok (.ok there) ∧
        cycleKey there.location (cut reference).2 ∈ seen := by
  unfold leadOf leadIn
  rcases reach surroundings place (cut reference).1 with failure | (other | there)
  · simp
  · simp
  · by_cases met : cycleKey there.location (cut reference).2 ∈ seen
    · simp [met]
    · simp only [List.contains_eq_mem, met, decide_false, Bool.false_eq_true, if_false,
        Except.ok.injEq, exists_eq_left', iff_false]
      split <;> exact nofun

theorem leadOf_eq_noNode_iff {fault : PointerFault} :
    leadOf surroundings place seen reference = .ok (.noNode fault) ↔
      ∃ there, reach surroundings place (cut reference).1 = .ok (.ok there) ∧
        cycleKey there.location (cut reference).2 ∉ seen ∧
        there.root.follow (cut reference).2 = .error fault := by
  unfold leadOf leadIn
  rcases reach surroundings place (cut reference).1 with failure | (other | there)
  · simp
  · simp
  · by_cases met : cycleKey there.location (cut reference).2 ∈ seen
    · simp [met]
    · cases follows : there.root.follow (cut reference).2 <;> simp [met, follows]

theorem leadOf_eq_value_iff {there : Place} {key : String} {value : Tree} :
    leadOf surroundings place seen reference = .ok (.value there key value) ↔
      reach surroundings place (cut reference).1 = .ok (.ok there) ∧
        key = cycleKey there.location (cut reference).2 ∧ key ∉ seen ∧
        there.root.follow (cut reference).2 = .ok value := by
  unfold leadOf
  rcases reach surroundings place (cut reference).1 with failure | (reason | reached)
  · simp
  · simp
  · simp only [Except.ok.injEq, leadIn_eq_value_iff]
    constructor
    · rintro ⟨rfl, rfl, new, follows⟩
      exact ⟨rfl, rfl, new, follows⟩
    · rintro ⟨rfl, rfl, new, follows⟩
      exact ⟨rfl, rfl, new, follows⟩

end LeadOf

/-! ## What a memory knows -/

/-- What a memory knows of a location: the tree that was loaded there, or the reason why there is
none. -/
def Memory.answer? (memory : Memory) (location : String) : Option (Except String Tree) :=
  match Tree.lookup? location memory.documents with
  | some tree => some (.ok tree)
  | none =>
    ((memory.failures.find? fun failure => failure.1 == location).map Prod.snd).map .error

/-- A memory after asking for a location, by what loading there comes to. -/
def Memory.learn (memory : Memory) (location : String) :
    Except Failure (Except String Tree) → Memory
  | .ok (.ok tree) =>
    { memory with
      requests := memory.requests ++ [location]
      documents := memory.documents ++ [(location, tree)] }
  | .ok (.error reason) =>
    { memory with
      requests := memory.requests ++ [location]
      failures := memory.failures ++ [(location, reason)] }
  | .error _ => { memory with requests := memory.requests ++ [location] }

section Known

variable {surroundings : Surroundings} {memory : Memory} {location : String}

theorem Memory.document_of_answer {tree : Tree}
    (known : memory.answer? location = some (.ok tree)) :
    (location, tree) ∈ memory.documents := by
  unfold Memory.answer? at known
  cases stored : Tree.lookup? location memory.documents with
  | some found =>
    rw [stored] at known
    cases known
    exact Tree.mem_of_lookup? stored
  | none =>
    rw [stored] at known
    obtain ⟨reason, _, other⟩ := Option.map_eq_some_iff.mp known
    cases other

theorem Memory.failure_of_answer {reason : String}
    (known : memory.answer? location = some (.error reason)) :
    (location, reason) ∈ memory.failures := by
  unfold Memory.answer? at known
  cases stored : Tree.lookup? location memory.documents with
  | some found =>
    rw [stored] at known
    cases known
  | none =>
    rw [stored] at known
    obtain ⟨found, remembered, same⟩ := Option.map_eq_some_iff.mp known
    cases same
    obtain ⟨failure, stored, rfl⟩ := Option.map_eq_some_iff.mp remembered
    have there : failure.1 = location := by simpa using List.find?_some stored
    exact there ▸ List.mem_of_find?_eq_some stored

@[simp] theorem Memory.messages_learn (gives : Except Failure (Except String Tree)) :
    (memory.learn location gives).messages = memory.messages := by
  rcases gives with failure | (reason | tree) <;> rfl

@[simp] theorem Memory.requests_learn (gives : Except Failure (Except String Tree)) :
    (memory.learn location gives).requests = memory.requests ++ [location] := by
  rcases gives with failure | (reason | tree) <;> rfl

theorem Memory.mem_documents_learn {gives : Except Failure (Except String Tree)}
    {entry : String × Tree} :
    entry ∈ (memory.learn location gives).documents ↔
      entry ∈ memory.documents ∨ entry.1 = location ∧ gives = .ok (.ok entry.2) := by
  obtain ⟨name, tree⟩ := entry
  rcases gives with failure | (reason | loaded) <;> simp [Memory.learn, eq_comm]

theorem Memory.mem_failures_learn {gives : Except Failure (Except String Tree)}
    {failure : String × String} :
    failure ∈ (memory.learn location gives).failures ↔
      failure ∈ memory.failures ∨ failure.1 = location ∧ gives = .ok (.error failure.2) := by
  obtain ⟨name, reason⟩ := failure
  rcases gives with fault | (given | loaded) <;> simp [Memory.learn, eq_comm]

/-- What a memory knows is not loaded. -/
theorem loadOnce_of_known {answer : Except String Tree}
    (known : memory.answer? location = some answer) :
    (loadOnce surroundings location).run.run memory = (.ok answer, memory) := by
  change (match Tree.lookup? location memory.documents with
    | some tree => _
    | none => _ : Work (Except String Tree)) memory = _
  unfold Memory.answer? at known
  cases stored : Tree.lookup? location memory.documents with
  | some tree =>
    rw [stored] at known
    cases known
    rfl
  | none =>
    rw [stored] at known
    obtain ⟨reason, remembered, rfl⟩ := Option.map_eq_some_iff.mp known
    dsimp only
    rw [remembered]
    rfl

/-- What a memory does not know is loaded and remembered. -/
theorem loadOnce_of_unknown (unknown : memory.answer? location = none) :
    (loadOnce surroundings location).run.run memory =
      (fetched surroundings location, memory.learn location (fetched surroundings location)) := by
  change (match Tree.lookup? location memory.documents with
    | some tree => _
    | none => _ : Work (Except String Tree)) memory = _
  unfold Memory.answer? at unknown
  cases stored : Tree.lookup? location memory.documents with
  | some tree =>
    rw [stored] at unknown
    cases unknown
  | none =>
    rw [stored, Option.map_eq_none_iff] at unknown
    dsimp only
    rw [unknown]
    unfold fetched
    cases surroundings.load location with
    | ok tree => rfl
    | error fault => cases fault <;> rfl

/-- Loading gives what is known, or what it comes to for what is not known. -/
theorem loadOnce_cases {after : Memory} {outcome : Except Failure (Except String Tree)}
    (loads : (loadOnce surroundings location).run.run memory = (outcome, after)) :
    (∃ answer, memory.answer? location = some answer ∧ outcome = .ok answer ∧ after = memory) ∨
      (memory.answer? location = none ∧ outcome = fetched surroundings location ∧
        after = memory.learn location outcome) := by
  cases known : memory.answer? location with
  | some answer =>
    rw [loadOnce_of_known known] at loads
    cases loads
    exact .inl ⟨answer, rfl, rfl, rfl⟩
  | none =>
    rw [loadOnce_of_unknown known] at loads
    cases loads
    exact .inr ⟨rfl, rfl, rfl⟩

end Known

/-! ## Faithful memories -/

/-- A memory that says of a location only what loading there gives. -/
structure Memory.Faithful (surroundings : Surroundings) (memory : Memory) : Prop where
  documents : ∀ entry ∈ memory.documents, surroundings.load entry.1 = .ok entry.2
  failures : ∀ failure ∈ memory.failures,
    ∃ fault, surroundings.load failure.1 = .error fault ∧
      (∀ breakdown, fault ≠ .breakdown breakdown) ∧ fault.reason = failure.2

theorem Memory.faithful_empty (surroundings : Surroundings) :
    Memory.empty.Faithful surroundings :=
  ⟨fun _ member => (List.not_mem_nil member).elim, fun _ member => (List.not_mem_nil member).elim⟩

section Run

variable {surroundings : Surroundings} {memory : Memory}

theorem fetched_eq_ok_iff {location : String} {tree : Tree} :
    fetched surroundings location = .ok (.ok tree) ↔ surroundings.load location = .ok tree := by
  unfold fetched
  cases surroundings.load location with
  | ok loaded => simp
  | error fault => cases fault <;> simp

theorem fetched_eq_reason_iff {location reason : String} :
    fetched surroundings location = .ok (.error reason) ↔
      ∃ fault, surroundings.load location = .error fault ∧
        (∀ breakdown, fault ≠ .breakdown breakdown) ∧ fault.reason = reason := by
  unfold fetched
  cases surroundings.load location with
  | ok loaded => simp
  | error fault => cases fault <;> simp

/-- What a faithful memory knows of a location is what loading gives there. -/
theorem Memory.Faithful.fetched_of_answer (faithful : memory.Faithful surroundings)
    {location : String} {answer : Except String Tree}
    (known : memory.answer? location = some answer) :
    fetched surroundings location = .ok answer := by
  cases answer with
  | ok tree =>
    exact fetched_eq_ok_iff.mpr (faithful.documents _ (Memory.document_of_answer known))
  | error reason =>
    exact fetched_eq_reason_iff.mpr (faithful.failures _ (Memory.failure_of_answer known))

/-- A faithful memory stays faithful with what loading gives. -/
theorem Memory.Faithful.learn (faithful : memory.Faithful surroundings) (location : String) :
    (memory.learn location (fetched surroundings location)).Faithful surroundings where
  documents entry member := by
    rcases Memory.mem_documents_learn.mp member with before | ⟨rfl, gives⟩
    · exact faithful.documents entry before
    · exact fetched_eq_ok_iff.mp gives
  failures failure member := by
    rcases Memory.mem_failures_learn.mp member with before | ⟨rfl, gives⟩
    · exact faithful.failures failure before
    · exact fetched_eq_reason_iff.mp gives

/-- Loading behind a faithful memory gives what loading gives. -/
theorem loadOnce_run (faithful : memory.Faithful surroundings) (location : String) :
    ∃ after, (loadOnce surroundings location).run.run memory =
        (fetched surroundings location, after) ∧
      after.Faithful surroundings ∧ after.messages = memory.messages := by
  cases known : memory.answer? location with
  | some answer =>
    rw [faithful.fetched_of_answer known]
    exact ⟨memory, loadOnce_of_known known, faithful, rfl⟩
  | none =>
    exact ⟨_, loadOnce_of_unknown known, faithful.learn location, Memory.messages_learn _⟩

section Target

variable {place : Place} {part : String}

/-- What is had of the document at a location, as the place of that document. -/
def placed (location : String) (answer : Except String Tree) : Except String Place :=
  answer.map fun root => ⟨root, some location⟩

/-- Finding a document that is named is loading it, behind the memory. -/
theorem target_of_names {location : String} (names : place.Names surroundings part location) :
    (target surroundings place part).run.run memory =
      match (loadOnce surroundings location).run.run memory with
      | (outcome, after) => (outcome.map (placed location), after) := by
  have other : (part == "") = false := by simpa using names.1
  unfold target
  rw [other, names.2]
  simp only [Bool.false_eq_true, if_false]
  rw [run_bind]
  rcases (loadOnce surroundings location).run.run memory with ⟨failure | (reason | root), after⟩ <;>
    rfl

theorem reach_of_names {location : String} (names : place.Names surroundings part location) :
    reach surroundings place part = (fetched surroundings location).map (placed location) := by
  have other : (part == "") = false := by simpa using names.1
  unfold reach
  rw [other, names.2]
  simp only [Bool.false_eq_true, if_false]
  rcases fetched surroundings location with failure | (reason | root) <;> rfl

/-- Where none is named, nothing is loaded. -/
theorem target_of_nameless (nameless : ∀ location, ¬ place.Names surroundings part location) :
    (target surroundings place part).run.run memory = (reach surroundings place part, memory) := by
  unfold target reach
  cases own : part == "" with
  | true => rfl
  | false =>
    simp only [Bool.false_eq_true, if_false]
    cases locates : surroundings.locate place.location part with
    | error fault => cases fault <;> rfl
    | ok location => exact absurd ⟨by simpa using own, locates⟩ (nameless location)

/-- Finding a document changes the memory at most by what loading gives for the location that is
named, and only where nothing was known of it. -/
theorem target_learns {after : Memory} {outcome : Except Failure (Except String Place)}
    (reaches : (target surroundings place part).run.run memory = (outcome, after)) :
    after = memory ∨ ∃ location, place.Names surroundings part location ∧
      memory.answer? location = none ∧
      after = memory.learn location (fetched surroundings location) := by
  by_cases named : ∃ location, place.Names surroundings part location
  · obtain ⟨location, names⟩ := named
    rw [target_of_names names] at reaches
    rcases loads : (loadOnce surroundings location).run.run memory with ⟨loaded, between⟩
    rw [loads] at reaches
    cases reaches
    rcases loadOnce_cases loads with ⟨_, _, _, same⟩ | ⟨unknown, rfl, same⟩
    · exact .inl same
    · exact .inr ⟨location, names, unknown, same⟩
  · rw [target_of_nameless (not_exists.mp named)] at reaches
    cases reaches
    exact .inl rfl

/-- Finding the document that a reference names is a matter of the surroundings too. -/
theorem target_run (faithful : memory.Faithful surroundings) (place : Place) (part : String) :
    ∃ after, (target surroundings place part).run.run memory =
        (reach surroundings place part, after) ∧
      after.Faithful surroundings ∧ after.messages = memory.messages := by
  by_cases named : ∃ location, place.Names surroundings part location
  · obtain ⟨location, names⟩ := named
    obtain ⟨after, loads, known, silent⟩ := loadOnce_run faithful location
    refine ⟨after, ?_, known, silent⟩
    rw [target_of_names names, loads, reach_of_names names]
  · exact ⟨memory, target_of_nameless (not_exists.mp named), faithful, rfl⟩

end Target

/-- Finding out where a reference leads starts with finding its document, and depends on nothing
else of the memory. -/
theorem lead_run_eq (place : Place) (seen : List String) (reference : String) :
    (lead surroundings place seen reference).run.run memory =
      match (target surroundings place (cut reference).1).run.run memory with
      | (.error failure, after) => (.error failure, after)
      | (.ok (.error reason), after) => (.ok (.noDocument reason), after)
      | (.ok (.ok there), after) => (.ok (leadIn there seen (cut reference).2), after) := by
  unfold lead
  rw [run_bind]
  rcases (target surroundings place (cut reference).1).run.run memory
    with ⟨failure | (reason | there), after⟩
  · rfl
  · rfl
  · unfold leadIn
    dsimp only
    cases seen.contains (cycleKey there.location (cut reference).2) with
    | true => rfl
    | false =>
      simp only [Bool.false_eq_true, if_false]
      cases there.root.follow (cut reference).2 <;> rfl

/-- Finding out where a reference leads remembers what finding its document does. -/
theorem target_of_lead {place : Place} {seen : List String} {reference : String} {after : Memory}
    {outcome : Except Failure Lead}
    (leads : (lead surroundings place seen reference).run.run memory = (outcome, after)) :
    ∃ reached, (target surroundings place (cut reference).1).run.run memory =
      (reached, after) := by
  rw [lead_run_eq] at leads
  rcases reaches : (target surroundings place (cut reference).1).run.run memory
    with ⟨reached, between⟩
  rw [reaches] at leads
  rcases reached with failure | (reason | there) <;> cases leads <;> exact ⟨_, rfl⟩

/-- **What following a reference does to a memory**: nothing, or what loading gives for the location
that the reference names is learnt, where nothing was known of it. -/
theorem lead_learns {place : Place} {seen : List String} {reference : String} {after : Memory}
    {outcome : Except Failure Lead}
    (leads : (lead surroundings place seen reference).run.run memory = (outcome, after)) :
    after = memory ∨ ∃ location, place.Names surroundings (cut reference).1 location ∧
      memory.answer? location = none ∧
      after = memory.learn location (fetched surroundings location) := by
  obtain ⟨_, reaches⟩ := target_of_lead leads
  exact target_learns reaches

/-- **Where a reference leads does not depend on a faithful memory.**  The memory stays faithful,
and nothing is said. -/
theorem lead_run (faithful : memory.Faithful surroundings) (place : Place) (seen : List String)
    (reference : String) :
    ∃ after, (lead surroundings place seen reference).run.run memory =
        (leadOf surroundings place seen reference, after) ∧
      after.Faithful surroundings ∧ after.messages = memory.messages := by
  obtain ⟨after, reaches, known, silent⟩ := target_run faithful place (cut reference).1
  refine ⟨after, ?_, known, silent⟩
  rw [lead_run_eq, reaches]
  unfold leadOf
  rcases reach surroundings place (cut reference).1 with failure | (reason | there) <;> rfl

/-- What the lead of a reference is, where the memory is faithful. -/
theorem lead_run_inv {after : Memory} {place : Place} {seen : List String} {reference : String}
    {outcome : Except Failure Lead} (faithful : memory.Faithful surroundings)
    (leads : (lead surroundings place seen reference).run.run memory = (outcome, after)) :
    leadOf surroundings place seen reference = outcome ∧ after.Faithful surroundings ∧
      after.messages = memory.messages := by
  obtain ⟨same, ran, known, silent⟩ := lead_run faithful place seen reference
  cases ran.symm.trans leads
  exact ⟨rfl, known, silent⟩

end Run

/-! ## Memories that grow -/

section Growth

variable {surroundings : Surroundings} {memory after : Memory}

/-- A memory that has grown out of another one by loading.  Its documents were known before or are
what loading gives, and nothing is said. -/
structure Memory.Grown (surroundings : Surroundings) (memory after : Memory) : Prop where
  documents : ∀ entry ∈ after.documents,
    entry ∈ memory.documents ∨ surroundings.load entry.1 = .ok entry.2
  messages_eq : after.messages = memory.messages

theorem Memory.Grown.refl (memory : Memory) : memory.Grown surroundings memory :=
  ⟨fun _ member => .inl member, rfl⟩

theorem Memory.Grown.learn (memory : Memory) (location : String) :
    memory.Grown surroundings (memory.learn location (fetched surroundings location)) where
  documents _ member :=
    (Memory.mem_documents_learn.mp member).imp_right fun ⟨same, gives⟩ =>
      same ▸ fetched_eq_ok_iff.mp gives
  messages_eq := Memory.messages_learn _

/-- A document that is had is remembered from then on, whatever was known before. -/
theorem loadOnce_grows {location : String} {outcome : Except Failure (Except String Tree)}
    (loads : (loadOnce surroundings location).run.run memory = (outcome, after)) :
    memory.Grown surroundings after ∧
      ∀ root, outcome = .ok (.ok root) → (location, root) ∈ after.documents := by
  rcases loadOnce_cases loads with ⟨answer, known, rfl, rfl⟩ | ⟨_, rfl, rfl⟩
  · refine ⟨.refl after, ?_⟩
    rintro root ⟨⟩
    exact Memory.document_of_answer known
  · exact ⟨.learn memory location, fun root gives =>
      Memory.mem_documents_learn.mpr (.inr ⟨rfl, gives⟩)⟩

/-- A place is remembered when its document is. -/
def Place.Remembered (memory : Memory) (place : Place) : Prop :=
  ∃ location root, place = ⟨root, some location⟩ ∧ (location, root) ∈ memory.documents

/-- A reference names a document of its own place or one that is remembered from then on. -/
theorem target_grows {place : Place} {document : String}
    {outcome : Except Failure (Except String Place)}
    (reaches : (target surroundings place document).run.run memory = (outcome, after)) :
    memory.Grown surroundings after ∧
      ∀ there, outcome = .ok (.ok there) → there = place ∨ there.Remembered after := by
  by_cases named : ∃ location, place.Names surroundings document location
  · obtain ⟨location, names⟩ := named
    rw [target_of_names names] at reaches
    rcases loads : (loadOnce surroundings location).run.run memory with ⟨loaded, between⟩
    obtain ⟨grown, stored⟩ := loadOnce_grows loads
    rw [loads] at reaches
    cases reaches
    refine ⟨grown, fun there gives => ?_⟩
    rcases loaded with failure | (reason | root) <;> cases gives
    exact .inr ⟨location, root, rfl, stored root rfl⟩
  · rw [target_of_nameless (not_exists.mp named)] at reaches
    cases reaches
    refine ⟨.refl memory, fun there gives => ?_⟩
    rcases reach_cases gives with ⟨_, same⟩ | ⟨other, location, locates, _⟩
    · exact .inl same
    · exact absurd ⟨location, other, locates⟩ named

/-- **What a reference leads to**, whatever was known before: a node of its own document or of one
that is remembered from then on, under a key that is not open. -/
theorem lead_grows {place : Place} {seen : List String} {reference : String}
    {outcome : Except Failure Lead}
    (leads : (lead surroundings place seen reference).run.run memory = (outcome, after)) :
    memory.Grown surroundings after ∧
      ∀ there key value, outcome = .ok (.value there key value) →
        (there = place ∨ there.Remembered after) ∧
          key = cycleKey there.location (cut reference).2 ∧ key ∉ seen ∧
          there.root.follow (cut reference).2 = .ok value := by
  rw [lead_run_eq] at leads
  rcases reaches : (target surroundings place (cut reference).1).run.run memory
    with ⟨reached, between⟩
  obtain ⟨grown, origin⟩ := target_grows reaches
  rw [reaches] at leads
  rcases reached with failure | (reason | there) <;> cases leads
  · exact ⟨grown, nofun⟩
  · exact ⟨grown, nofun⟩
  · refine ⟨grown, fun other key value gives => ?_⟩
    obtain ⟨rfl, rfl, new, follows⟩ := leadIn_eq_value_iff.mp (Except.ok.inj gives)
    exact ⟨origin other rfl, rfl, new, follows⟩

end Growth

end ApiAdmission.Reference
