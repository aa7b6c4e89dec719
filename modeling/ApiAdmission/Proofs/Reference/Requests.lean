import ApiAdmission.Proofs.Reference.Outcomes

/-!
# What a run asks for

A run remembers the locations that it has asked for.  Following a reference asks for one more at
most, and only for the location that its document part names (`lead_asks`).  As long as nothing is
known that was not asked for (`Memory.Asked`), a location that is named has been asked for then.

So what a run has asked for in the end is what it started with, and what is named by the references
that it comes to (`mem_requests_iff`).
-/

namespace ApiAdmission.Reference

set_option autoImplicit false

variable {surroundings : Surroundings} {mode : Mode}

/-! ## Steps -/

/-- Nothing is known that was not asked for. -/
structure Memory.Asked (memory : Memory) : Prop where
  documents : ∀ entry ∈ memory.documents, entry.1 ∈ memory.requests
  failures : ∀ failure ∈ memory.failures, failure.1 ∈ memory.requests

theorem Memory.asked_empty : Memory.empty.Asked :=
  ⟨fun _ member => (List.not_mem_nil member).elim, fun _ member => (List.not_mem_nil member).elim⟩

section Steps

variable {memory after : Memory}

theorem Memory.Asked.learn (asked : memory.Asked) (location : String)
    (gives : Except Failure (Except String Tree)) : (memory.learn location gives).Asked where
  documents entry member := by
    rw [Memory.requests_learn]
    rcases Memory.mem_documents_learn.mp member with before | ⟨same, _⟩
    · exact List.mem_append_left _ (asked.documents entry before)
    · exact List.mem_append_right _ (List.mem_singleton.mpr same)
  failures failure member := by
    rw [Memory.requests_learn]
    rcases Memory.mem_failures_learn.mp member with before | ⟨same, _⟩
    · exact List.mem_append_left _ (asked.failures failure before)
    · exact List.mem_append_right _ (List.mem_singleton.mpr same)

/-- What is known was asked for. -/
theorem Memory.Asked.of_answer (asked : memory.Asked) {location : String}
    {answer : Except String Tree} (known : memory.answer? location = some answer) :
    location ∈ memory.requests := by
  cases answer with
  | ok tree => exact asked.documents _ (Memory.document_of_answer known)
  | error reason => exact asked.failures _ (Memory.failure_of_answer known)

/-- A document is asked for unless something is known of it. -/
theorem loadOnce_asks {location : String} {outcome : Except Failure (Except String Tree)}
    (loads : (loadOnce surroundings location).run.run memory = (outcome, after))
    (asked : memory.Asked) : location ∈ after.requests := by
  rcases loadOnce_cases loads with ⟨answer, known, _, rfl⟩ | ⟨_, _, rfl⟩
  · exact asked.of_answer known
  · simp

/-- **Following a reference asks for one location at most**, the one that its document part names
there; and that one has been asked for afterwards, when all that is known was asked for. -/
theorem lead_asks {place : Place} {seen : List String} {reference : String}
    {outcome : Except Failure Lead}
    (leads : (lead surroundings place seen reference).run.run memory = (outcome, after)) :
    (after.requests = memory.requests ∨
      ∃ location, place.Names surroundings (cut reference).1 location ∧
        after.requests = memory.requests ++ [location]) ∧
    (memory.Asked → after.Asked ∧ ∀ location,
      place.Names surroundings (cut reference).1 location → location ∈ after.requests) := by
  have learns := lead_learns leads
  refine ⟨?_, fun asked => ⟨?_, fun location names => ?_⟩⟩
  · rcases learns with rfl | ⟨location, names, _, rfl⟩
    · exact .inl rfl
    · exact .inr ⟨location, names, Memory.requests_learn _⟩
  · rcases learns with rfl | ⟨location, _, _, rfl⟩
    · exact asked
    · exact asked.learn location _
  · obtain ⟨_, reaches⟩ := target_of_lead leads
    rw [target_of_names names] at reaches
    rcases loads : (loadOnce surroundings location).run.run memory with ⟨loaded, between⟩
    rw [loads] at reaches
    cases reaches
    exact loadOnce_asks loads asked

end Steps

/-! ## Runs -/

theorem kept_asked (surroundings : Surroundings) : Kept surroundings Memory.Asked where
  leading leads asked := ((lead_asks leads).2 asked).1
  saying _ asked := ⟨asked.documents, asked.failures⟩

/-- Requests are only added. -/
theorem kept_requests (surroundings : Surroundings) (requests : List String) :
    Kept surroundings (requests <+: ·.requests) where
  leading leads before := by
    rcases (lead_asks leads).1 with same | ⟨_, _, same⟩
    · exact same ▸ before
    · exact same ▸ before.trans (List.prefix_append _ _)
  saying _ before := before

theorem kept_request (surroundings : Surroundings) (location : String) :
    Kept surroundings (location ∈ ·.requests) where
  leading {_ _ _ memory _ _} leads before :=
    ((kept_requests surroundings memory.requests).leading leads List.prefix_rfl).subset before
  saying _ before := before

/-- An expansion is that of a reference to the document at a location. -/
def Expansion.Names (surroundings : Surroundings) (expansion : Expansion) (location : String) :
    Prop :=
  ∃ reference, expansion.RefersBy reference ∧
    expansion.place.Names surroundings (cut reference).1 location

section Asks

variable {location : String}

/-- A request that a reference adds is for the location that it names. -/
theorem names_of_lead {place : Place} {seen : List String} {entries : List (String × Tree)}
    {reference : String} {memory after : Memory} {outcome : Except Failure Lead}
    (found : referenceOf? entries = some reference)
    (leads : (lead surroundings place seen reference).run.run memory = (outcome, after))
    (asked : location ∈ after.requests) :
    location ∈ memory.requests ∨ ReachesSome surroundings mode (·.Names surroundings location)
      ⟨place, seen, .tree (.mapping entries), memory⟩ := by
  rcases (lead_asks leads).1 with same | ⟨other, names, same⟩
  · exact .inl (same ▸ asked)
  · rw [same] at asked
    rcases List.mem_append.mp asked with before | new
    · exact .inl before
    · cases List.mem_singleton.mp new
      exact .inr ⟨_, .refl, reference, ⟨entries, rfl, found⟩, names⟩

theorem requests_of_fail (failure : String → Failure) (message : String) (memory : Memory) :
    ((fail mode failure message).run.run memory).2.requests = memory.requests := by
  cases mode <;> rfl

mutual
/-- Every request that an expansion adds is named by a reference that it comes to. -/
theorem Expands.names {place : Place} {seen : List String} {tree : Tree} {memory : Memory}
    {outcome : Outcome Tree} :
    Expands surroundings mode place seen tree memory outcome →
      location ∈ outcome.2.requests →
      location ∈ memory.requests ∨ ReachesSome surroundings mode (·.Names surroundings location)
        ⟨place, seen, .tree tree, memory⟩
  | .failed found leads => names_of_lead found leads
  | .back found leads => names_of_lead found leads
  | .noDocument found leads => by
    rw [requests_of_fail]
    exact names_of_lead found leads
  | .noNode found leads => by
    rw [requests_of_fail]
    exact names_of_lead found leads
  | .value found leads inner => by
    intro asked
    rcases inner.names asked with before | reaches
    · exact names_of_lead found leads before
    · exact .inr (reachesSome_of_enters (.value found leads) reaches)
  | .mapping absent inner => fun asked =>
    (inner.names asked).imp_right (reachesSome_of_enters (.entries absent))
  | .list inner => fun asked => (inner.names asked).imp_right (reachesSome_of_enters .items)
  | .scalar _ _ => .inl

theorem ExpandsItems.names {place : Place} {seen : List String} {items : List Tree}
    {memory : Memory} {outcome : Outcome (List Tree)} :
    ExpandsItems surroundings mode place seen items memory outcome →
      location ∈ outcome.2.requests →
      location ∈ memory.requests ∨ ReachesSome surroundings mode (·.Names surroundings location)
        ⟨place, seen, .items items, memory⟩
  | .nil => .inl
  | .failed first => fun asked => (first.names asked).imp_right (reachesSome_of_enters .item)
  | .cons first others => by
    intro asked
    rcases others.names asked with between | reaches
    · exact (first.names between).imp_right (reachesSome_of_enters .item)
    · exact .inr (reachesSome_of_enters (.otherItems first) reaches)

theorem ExpandsEntries.names {place : Place} {seen : List String}
    {entries : List (String × Tree)} {memory : Memory}
    {outcome : Outcome (List (String × Tree))} :
    ExpandsEntries surroundings mode place seen entries memory outcome →
      location ∈ outcome.2.requests →
      location ∈ memory.requests ∨ ReachesSome surroundings mode (·.Names surroundings location)
        ⟨place, seen, .entries entries, memory⟩
  | .nil => .inl
  | .failed first => fun asked => (first.names asked).imp_right (reachesSome_of_enters .entry)
  | .cons first others => by
    intro asked
    rcases others.names asked with between | reaches
    · exact (first.names between).imp_right (reachesSome_of_enters .entry)
    · exact .inr (reachesSome_of_enters (.otherEntries first) reaches)
end

/-- The expansion of a reference starts with finding out where it leads, and keeps of that what
every step keeps. -/
theorem Expands.led {place : Place} {seen : List String} {entries : List (String × Tree)}
    {reference : String} {memory : Memory} {outcome : Outcome Tree}
    (found : referenceOf? entries = some reference)
    (expands : Expands surroundings mode place seen (.mapping entries) memory outcome) :
    ∃ led between, (lead surroundings place seen reference).run.run memory = (led, between) ∧
      ∀ holds, Kept surroundings holds → holds between → holds outcome.2 := by
  cases expands with
  | failed same leads | back same leads =>
    cases found.symm.trans same
    exact ⟨_, _, leads, fun _ _ => id⟩
  | noDocument same leads | noNode same leads =>
    cases found.symm.trans same
    exact ⟨_, _, leads, fun _ kept => kept.failing mode _ _⟩
  | value same leads inner =>
    cases found.symm.trans same
    exact ⟨_, _, leads, fun _ kept before => inner.keeps kept before⟩
  | mapping absent => cases found.symm.trans absent
  | scalar noMapping => exact absurd rfl (noMapping _)

/-- What a reference names has been asked for when its expansion ends. -/
theorem Expansion.Names.asked {expansion : Expansion} {failure : Option Failure} {after : Memory}
    (names : expansion.Names surroundings location) (known : expansion.memory.Asked)
    (ends : expansion.EndsWith surroundings mode failure after) : location ∈ after.requests := by
  obtain ⟨reference, ⟨entries, piece, found⟩, names⟩ := names
  obtain ⟨place, seen, _, memory⟩ := expansion
  cases piece
  obtain ⟨outcome, _, expands⟩ := ends
  obtain ⟨led, between, leads, keeps⟩ := expands.led found
  exact keeps _ (kept_request surroundings location) (((lead_asks leads).2 known).2 _ names)

end Asks

/-- **What a run asks for**: a location that has been asked for when an expansion ends, had been so
before or is named by a reference that it comes to; and all of these are asked for. -/
theorem mem_requests_iff {start : Expansion} {failure : Option Failure} {after : Memory}
    (known : start.memory.Asked) (ends : start.EndsWith surroundings mode failure after)
    {location : String} :
    location ∈ after.requests ↔
      location ∈ start.memory.requests ∨
        ∃ inner, Reaches surroundings mode start inner ∧ inner.Names surroundings location := by
  constructor
  · intro asked
    obtain ⟨place, seen, piece, memory⟩ := start
    cases piece <;> obtain ⟨outcome, _, expands⟩ := ends <;> exact expands.names asked
  · rintro (before | ⟨inner, reaches, names⟩)
    · exact ends.keeps (kept_request surroundings location) before
    · obtain ⟨_, between, innerEnds, keeps⟩ := reaches.continues ends
      have knownInner := reaches.keeps (kept_asked surroundings) known
      exact keeps _ (kept_request surroundings location) (names.asked knownInner innerEnds)

end ApiAdmission.Reference
