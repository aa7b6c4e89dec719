import ApiAdmission.Proofs.Reference.Requests
import ApiAdmission.Reference.Surroundings

/-!
# One view of every document

Work on references may be done in several calls that share a memory, and the files and the network
may change between the calls.  What a loading gave for a location, the tree or the reason why there
is none, is what the memory answers from then on: the location is never asked for again
(`kept_first_answer`), and every reference that names it, in any document and by any spelling, leads
where that answer leads it (`one_view`).

A loading that breaks down ends its call and is not remembered, so there a later call asks again.
-/

namespace ApiAdmission.Reference

set_option autoImplicit false

variable {surroundings : Surroundings} {mode : Mode} {location : String}
  {answer : Except String Tree}

/-! ## What a memory answers -/

section Answers

variable {memory : Memory}

/-- What is learnt is what the memory answers. -/
theorem Memory.answer?_learn (unknown : memory.answer? location = none) :
    (memory.learn location (.ok answer)).answer? location = some answer := by
  unfold Memory.answer? at unknown ⊢
  cases stored : Tree.lookup? location memory.documents with
  | some tree =>
    rw [stored] at unknown
    cases unknown
  | none =>
    rw [stored, Option.map_eq_none_iff, Option.map_eq_none_iff] at unknown
    cases answer with
    | ok tree => simp [Memory.learn, Tree.lookup?_append, stored, Tree.lookup?]
    | error reason => simp [Memory.learn, stored, List.find?_append, unknown]

/-- Of other locations it answers what it did. -/
theorem Memory.answer?_learn_of_ne {other : String} (different : other ≠ location)
    (gives : Except Failure (Except String Tree)) :
    (memory.learn location gives).answer? other = memory.answer? other := by
  have apart : (location == other) = false := by simpa using Ne.symm different
  rcases gives with failure | (reason | tree)
  · rfl
  · simp [Memory.answer?, Memory.learn, List.find?_append, apart]
  · simp [Memory.answer?, Memory.learn, Tree.lookup?_append, Tree.lookup?, apart]

theorem Memory.count_learn (gives : Except Failure (Except String Tree)) :
    (memory.learn location gives).requests.count location =
      memory.requests.count location + 1 := by
  simp

theorem Memory.count_learn_of_ne {other : String} (different : other ≠ location)
    (gives : Except Failure (Except String Tree)) :
    (memory.learn location gives).requests.count other = memory.requests.count other := by
  simp [Ne.symm different]

/-- A memory that answers for a location, and has asked for it so many times. -/
def Memory.Settled (location : String) (answer : Except String Tree) (times : Nat)
    (memory : Memory) : Prop :=
  memory.answer? location = some answer ∧ memory.requests.count location = times

/-- A memory that knows nothing of a location, and has asked for it so many times in vain. -/
def Memory.Open (location : String) (times : Nat) (memory : Memory) : Prop :=
  memory.answer? location = none ∧ memory.requests.count location = times

end Answers

/-! ## What every step keeps -/

/-- **What is known of a location stays known, and the location is not asked for again**, whatever
the surroundings have become. -/
theorem kept_answer (surroundings : Surroundings) (location : String)
    (answer : Except String Tree) (times : Nat) :
    Kept surroundings (Memory.Settled location answer times) where
  leading leads settled := by
    rcases lead_learns leads with rfl | ⟨other, _, unknown, rfl⟩
    · exact settled
    · have different : location ≠ other := by
        rintro rfl
        cases settled.1.symm.trans unknown
      exact ⟨(Memory.answer?_learn_of_ne different _).trans settled.1,
        (Memory.count_learn_of_ne different _).trans settled.2⟩
  saying _ settled := settled

/-- In surroundings that have an answer for a location, nothing becomes known of the location but
that answer, when the location is asked for once more. -/
theorem kept_first_answer (gives : fetched surroundings location = .ok answer) (times : Nat) :
    Kept surroundings fun memory =>
      memory.Open location times ∨ memory.Settled location answer (times + 1) where
  leading leads known := by
    rcases known with unknown | settled
    · rcases lead_learns leads with rfl | ⟨other, _, _, rfl⟩
      · exact .inl unknown
      · by_cases same : location = other
        · subst same
          rw [gives]
          exact .inr ⟨Memory.answer?_learn unknown.1, unknown.2 ▸ Memory.count_learn _⟩
        · exact .inl ⟨(Memory.answer?_learn_of_ne same _).trans unknown.1,
            (Memory.count_learn_of_ne same _).trans unknown.2⟩
    · exact .inr ((kept_answer surroundings location answer _).leading leads settled)
  saying _ known := known

/-! ## Where references see an answer -/

/-- Where a reference leads by the answer for the location that it names. -/
def leadBy (location : String) (answer : Except String Tree) (seen : List String)
    (pointer : String) : Lead :=
  match answer with
  | .ok root => leadIn ⟨root, some location⟩ seen pointer
  | .error reason => .noDocument reason

/-- If an expansion is that of a reference to a location, then the reference leads where an answer
leads it, and the location has then been asked for so many times. -/
def Expansion.Sees (surroundings : Surroundings) (location : String)
    (answer : Except String Tree) (times : Nat) (expansion : Expansion) : Prop :=
  ∀ reference, expansion.RefersBy reference →
    expansion.place.Names surroundings (cut reference).1 location →
    ∃ after, (lead surroundings expansion.place expansion.seen reference).run.run
        expansion.memory = (.ok (leadBy location answer expansion.seen (cut reference).2), after) ∧
      after.requests.count location = times

section Sees

variable {place : Place} {seen : List String} {reference : String} {memory : Memory}

/-- Where a reference leads is a matter of what loading gives behind the memory. -/
theorem lead_of_names {after : Memory}
    (names : place.Names surroundings (cut reference).1 location)
    (loads : (loadOnce surroundings location).run.run memory = (.ok answer, after)) :
    (lead surroundings place seen reference).run.run memory =
      (.ok (leadBy location answer seen (cut reference).2), after) := by
  rw [lead_run_eq, target_of_names names, loads]
  cases answer <;> rfl

theorem Expansion.sees_of_settled {expansion : Expansion} {times : Nat}
    (settled : expansion.memory.Settled location answer times) :
    expansion.Sees surroundings location answer times :=
  fun _ _ names => ⟨_, lead_of_names names (loadOnce_of_known settled.1), settled.2⟩

theorem Expansion.sees_of_open {expansion : Expansion} {times : Nat}
    (gives : fetched surroundings location = .ok answer)
    (unknown : expansion.memory.Open location times) :
    expansion.Sees surroundings location answer (times + 1) := by
  intro reference _ names
  have loads : (loadOnce surroundings location).run.run expansion.memory =
      (.ok answer, expansion.memory.learn location (.ok answer)) := by
    rw [loadOnce_of_unknown unknown.1, gives]
  exact ⟨_, lead_of_names names loads, unknown.2 ▸ Memory.count_learn _⟩

end Sees

/-! ## Calls that share a memory -/

/-- A call: what the work finds around it, and the tree whose references are replaced. -/
structure Call where
  surroundings : Surroundings
  tree : Tree

/-- What is known after calls in a row, in one mode and with one location for their trees. -/
def memoryAfter (mode : Mode) (base : Option String) (calls : List Call) : Memory :=
  calls.foldl (fun memory call =>
    ((resolve call.surroundings mode base call.tree).run.run memory).2) .empty

/-- An expansion comes up in a call that is made after others. -/
def ComesUp (mode : Mode) (base : Option String) (earlier : List Call) (call : Call)
    (expansion : Expansion) : Prop :=
  Reaches call.surroundings mode (.whole base call.tree (memoryAfter mode base earlier)) expansion

section Calls

variable {base : Option String} {holds : Memory → Prop}

/-- A call keeps of a memory what its steps keep. -/
theorem resolve_keeps (kept : Kept surroundings holds) {tree : Tree} {memory : Memory}
    (before : holds memory) :
    holds ((resolve surroundings mode base tree).run.run memory).2 := by
  have run : (resolve surroundings mode base tree).run.run memory =
      (surroundings.expand mode ⟨tree, base⟩ [] tree memory).getD
        (.error (.breakdown .endless), memory) := rfl
  rw [run]
  cases gives : surroundings.expand mode ⟨tree, base⟩ [] tree memory with
  | none => exact before
  | some outcome => exact (expand_eq_some_iff.mp gives).keeps kept before

theorem memoryAfter_append (earlier later : List Call) :
    memoryAfter mode base (earlier ++ later) =
      later.foldl (fun memory call =>
        ((resolve call.surroundings mode base call.tree).run.run memory).2)
        (memoryAfter mode base earlier) :=
  List.foldl_append

/-- Calls in a row keep of a memory what the steps keep in all surroundings. -/
theorem memoryAfter_keeps (kept : ∀ surroundings, Kept surroundings holds)
    {earlier : List Call} (later : List Call) (before : holds (memoryAfter mode base earlier)) :
    holds (memoryAfter mode base (earlier ++ later)) := by
  induction later generalizing earlier with
  | nil => rwa [List.append_nil]
  | cons call rest ih =>
    rw [List.append_cons]
    refine ih ?_
    rw [memoryAfter_append]
    exact resolve_keeps (kept call.surroundings) before

/-- A location that a call asks for was unknown before, and is settled after it. -/
theorem settled_of_asked {earlier : List Call} {first : Call}
    (gives : fetched first.surroundings location = .ok answer)
    (asked : (memoryAfter mode base earlier).requests.count location <
      (memoryAfter mode base (earlier ++ [first])).requests.count location) :
    (memoryAfter mode base earlier).Open location
        ((memoryAfter mode base earlier).requests.count location) ∧
      (memoryAfter mode base (earlier ++ [first])).Settled location answer
        ((memoryAfter mode base earlier).requests.count location + 1) := by
  have run : memoryAfter mode base (earlier ++ [first]) =
      ((resolve first.surroundings mode base first.tree).run.run
        (memoryAfter mode base earlier)).2 := memoryAfter_append earlier [first]
  rw [run] at asked ⊢
  -- If the location were known before, the call would not have asked for it.
  cases known : (memoryAfter mode base earlier).answer? location with
  | some other =>
    have settled : Memory.Settled location other
        ((memoryAfter mode base earlier).requests.count location)
        ((resolve first.surroundings mode base first.tree).run.run
          (memoryAfter mode base earlier)).2 :=
      resolve_keeps (kept_answer first.surroundings location other _) ⟨known, rfl⟩
    exact absurd settled.2 (Nat.ne_of_gt asked)
  | none =>
    refine ⟨⟨known, rfl⟩, ?_⟩
    exact (resolve_keeps (kept_first_answer gives _) (.inl ⟨known, rfl⟩)).resolve_left
      fun unknown => Nat.ne_of_gt asked unknown.2

end Calls

/-- **One view of every document.**  Messages are only added, each once.  When a call asks for a
location and loading gives a tree there, or a reason why there is none, then no later call asks for
it, whatever the files and the network have become; and every reference that names the location, in
that call and in all later ones, leads where this first answer leads it. -/
theorem one_view (mode : Mode) (base : Option String) (earlier : List Call) :
    (memoryAfter mode base earlier).messages.Nodup ∧
    (∀ later, (memoryAfter mode base earlier).messages <+:
      (memoryAfter mode base (earlier ++ later)).messages) ∧
    ∀ first location answer, fetched first.surroundings location = .ok answer →
      let times := (memoryAfter mode base earlier).requests.count location
      times < (memoryAfter mode base (earlier ++ [first])).requests.count location →
      (∀ expansion, ComesUp mode base earlier first expansion →
        expansion.Sees first.surroundings location answer (times + 1)) ∧
      ∀ later,
        (memoryAfter mode base (earlier ++ first :: later)).requests.count location = times + 1 ∧
        ∀ call expansion, ComesUp mode base (earlier ++ first :: later) call expansion →
          expansion.Sees call.surroundings location answer (times + 1) := by
  refine ⟨?_, fun later => ?_, fun first location answer gives => ?_⟩
  · have empty : (memoryAfter mode base []).messages.Nodup := List.nodup_nil
    exact memoryAfter_keeps kept_nodup earlier empty
  · exact memoryAfter_keeps (fun surroundings => kept_messages surroundings _) later
      List.prefix_rfl
  intro times asked
  obtain ⟨unknown, settled⟩ := settled_of_asked gives asked
  refine ⟨fun expansion comesUp => ?_, fun later => ?_⟩
  · rcases comesUp.keeps (kept_first_answer gives times) (.inl unknown) with still | known
    · exact Expansion.sees_of_open gives still
    · exact Expansion.sees_of_settled known
  · have lasting : Memory.Settled location answer (times + 1)
        (memoryAfter mode base (earlier ++ first :: later)) := by
      rw [List.append_cons]
      exact memoryAfter_keeps (fun surroundings => kept_answer surroundings location answer _)
        later settled
    refine ⟨lasting.2, fun call expansion comesUp => ?_⟩
    exact Expansion.sees_of_settled (comesUp.keeps (kept_answer _ location answer _) lasting)

/-! ## A document that goes away -/

section Vanished

/-- A world whose network answers in one way at one address. -/
def worldAnswering (answer : NetworkAnswer) : World where
  files := ⟨.directory [], []⟩
  environment := []
  network := [("https://h/pet.json", answer)]
  standardInput := ""
  terminal := false
  systemName := "Linux"
  homes := []

/-- A call while a document is there, with a reference by its whole address. -/
def presentCall : Call where
  surroundings := (worldAnswering (.response 200 "\x7b\"kept\": \"old\"\x7d")).surroundings true
  tree := .mapping [("$ref", .text "https://h/pet.json")]

/-- A call when the document has gone, with a reference by its name. -/
def vanishedCall : Call where
  surroundings := (worldAnswering (.response 404 "")).surroundings true
  tree := .mapping [("$ref", .text "pet.json")]

/-- What the document holds. -/
def oldPet : Tree := .mapping [("kept", .text "old")]

/-- What is known after the first call. -/
def knownPet : Memory := Memory.empty.learn "https://h/pet.json" (.ok (.ok oldPet))

theorem fetched_present :
    fetched presentCall.surroundings "https://h/pet.json" = .ok (.ok oldPet) := rfl

/-- The reference of the first call leads to the document, which is known from then on. -/
theorem lead_presentCall :
    (lead presentCall.surroundings ⟨presentCall.tree, some "https://h/root.json"⟩ []
        "https://h/pet.json").run.run .empty =
      (.ok (.value ⟨oldPet, some "https://h/pet.json"⟩ "https://h/pet.json#" oldPet), knownPet) := by
  have whole : cut "https://h/pet.json" = ("https://h/pet.json", "") := by decide +kernel
  have names : (⟨presentCall.tree, some "https://h/root.json"⟩ : Place).Names
      presentCall.surroundings (cut "https://h/pet.json").1 "https://h/pet.json" := by
    rw [whole]
    exact ⟨by decide, rfl⟩
  have loads : (loadOnce presentCall.surroundings "https://h/pet.json").run.run .empty =
      (.ok (.ok oldPet), knownPet) := by
    rw [loadOnce_of_unknown rfl, fetched_present]
    rfl
  have leads : leadIn ⟨oldPet, some "https://h/pet.json"⟩ [] "" =
      .value ⟨oldPet, some "https://h/pet.json"⟩ "https://h/pet.json#" oldPet := by
    refine leadIn_eq_value_iff.mpr ⟨rfl, ?_, List.not_mem_nil, rfl⟩
    decide +kernel
  rw [lead_of_names names loads, whole, leadBy, leads]

theorem memoryAfter_presentCall :
    memoryAfter .collecting (some "https://h/root.json") [presentCall] = knownPet := by
  have scalar : Expands presentCall.surroundings .collecting
      ⟨oldPet, some "https://h/pet.json"⟩ ["https://h/pet.json#"] (.text "old") knownPet
      (.ok (.text "old"), knownPet) :=
    .scalar nofun nofun
  have expands : Expands presentCall.surroundings .collecting
      ⟨presentCall.tree, some "https://h/root.json"⟩ [] presentCall.tree .empty
      (.ok oldPet, knownPet) :=
    .value rfl lead_presentCall (.mapping rfl (.cons scalar .nil))
  exact congrArg Prod.snd (resolve_run_of_expands expands)

/-- The document has gone when it is named again, but its first content is what the reference leads
to, and the network is not asked. -/
theorem one_view_vanished :
    fetched presentCall.surroundings "https://h/pet.json" = .ok (.ok oldPet) ∧
    fetched vanishedCall.surroundings "https://h/pet.json" =
      .ok (.error "HTTP 404 fetching https://h/pet.json") ∧
    (memoryAfter .collecting (some "https://h/root.json") []).requests.count
        "https://h/pet.json" <
      (memoryAfter .collecting (some "https://h/root.json") [presentCall]).requests.count
        "https://h/pet.json" ∧
    (memoryAfter .collecting (some "https://h/root.json")
      [presentCall, vanishedCall]).requests.count "https://h/pet.json" = 1 ∧
    ∃ after, (lead vanishedCall.surroundings ⟨vanishedCall.tree, some "https://h/root.json"⟩ []
        "pet.json").run.run (memoryAfter .collecting (some "https://h/root.json") [presentCall]) =
      (.ok (.value ⟨oldPet, some "https://h/pet.json"⟩ "https://h/pet.json#" oldPet), after) := by
  have asked : (memoryAfter .collecting (some "https://h/root.json") []).requests.count
        "https://h/pet.json" <
      (memoryAfter .collecting (some "https://h/root.json") [presentCall]).requests.count
        "https://h/pet.json" := by
    rw [memoryAfter_presentCall]
    decide
  obtain ⟨_, _, views⟩ := one_view .collecting (some "https://h/root.json") []
  obtain ⟨_, later⟩ := views presentCall _ _ fetched_present asked
  obtain ⟨_, sees⟩ := later []
  obtain ⟨after, leads, _⟩ := sees vanishedCall _ .refl "pet.json" ⟨_, rfl, rfl⟩ ⟨by decide, rfl⟩
  exact ⟨fetched_present, rfl, asked, (later [vanishedCall]).1, after, leads⟩

end Vanished

end ApiAdmission.Reference
