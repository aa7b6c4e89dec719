import ApiAdmission.Proofs.Reference.Messages
import Mathlib.Data.List.Nodup

/-!
# How expansions end

An expansion ends with a failure or without one, and leaves a memory (`Expansion.EndsWith`).  Both
are seen from outside: a failure goes through every expansion around it (`Reaches.passes`), and when
an expansion ends, so has every one inside it, and what its end is like and every step keeps still
holds at the end of the outer one (`Reaches.continues`).

So what a single reference does shows in the outcome of a whole run.  A reference without a target
is the end of a strict run, and in a collecting run it becomes an empty mapping and has its message
from then on.  A collecting run fails only where finding out where a reference leads breaks down
(`Expands.breaks`).
-/

namespace ApiAdmission.Reference

set_option autoImplicit false

/-! ## The end of an expansion -/

/-- What work fails with, if it fails. -/
def failureOf {α : Type} : Except Failure α → Option Failure
  | .ok _ => none
  | .error failure => some failure

@[simp] theorem failureOf_map {α β : Type} (change : α → β) (outcome : Except Failure α) :
    failureOf (outcome.map change) = failureOf outcome := by
  cases outcome <;> rfl

/-- An expansion ends with a failure or without one, and leaves a memory. -/
def Expansion.EndsWith (surroundings : Surroundings) (mode : Mode) (expansion : Expansion)
    (failure : Option Failure) (after : Memory) : Prop :=
  match expansion.piece with
  | .tree tree => ∃ outcome, failureOf outcome = failure ∧
    Expands surroundings mode expansion.place expansion.seen tree expansion.memory (outcome, after)
  | .items items => ∃ outcome, failureOf outcome = failure ∧
    ExpandsItems surroundings mode expansion.place expansion.seen items expansion.memory
      (outcome, after)
  | .entries entries => ∃ outcome, failureOf outcome = failure ∧
    ExpandsEntries surroundings mode expansion.place expansion.seen entries expansion.memory
      (outcome, after)

variable {surroundings : Surroundings} {mode : Mode}

/-- However an expansion ends, it keeps what every step keeps. -/
theorem Expansion.EndsWith.keeps {holds : Memory → Prop} (kept : Kept surroundings holds)
    {expansion : Expansion} {failure : Option Failure} {after : Memory}
    (ends : expansion.EndsWith surroundings mode failure after)
    (before : holds expansion.memory) : holds after := by
  obtain ⟨place, seen, piece, memory⟩ := expansion
  cases piece <;> obtain ⟨outcome, _, expands⟩ := ends <;> exact expands.keeps kept before

/-- A failure of what an expansion enters is its own. -/
theorem Enters.passes {outer inner : Expansion} {failure : Failure} {after : Memory}
    (enters : Enters surroundings mode outer inner)
    (fails : inner.EndsWith surroundings mode (some failure) after) :
    outer.EndsWith surroundings mode (some failure) after := by
  cases enters with
  | value found leads =>
    obtain ⟨outcome, same, expands⟩ := fails
    exact ⟨outcome, same, .value found leads expands⟩
  | entries absent =>
    obtain ⟨outcome, same, expands⟩ := fails
    exact ⟨_, by rwa [failureOf_map], .mapping absent expands⟩
  | items =>
    obtain ⟨outcome, same, expands⟩ := fails
    exact ⟨_, by rwa [failureOf_map], .list expands⟩
  | otherItems first | otherEntries first =>
    obtain ⟨outcome, same, expands⟩ := fails
    exact ⟨_, by rwa [failureOf_map], .cons first expands⟩
  | item | entry =>
    obtain ⟨outcome | outcome, same, expands⟩ := fails <;> cases same
    exact ⟨_, rfl, .failed expands⟩

/-- So it is that of every expansion around. -/
theorem Reaches.passes {outer inner : Expansion} {failure : Failure} {after : Memory}
    (reaches : Reaches surroundings mode outer inner)
    (fails : inner.EndsWith surroundings mode (some failure) after) :
    outer.EndsWith surroundings mode (some failure) after := by
  induction reaches using Relation.ReflTransGen.head_induction_on with
  | refl => exact fails
  | head enters _ ih => exact enters.passes ih

/-- An expansion that ends has seen the end of what it enters, and keeps what every step keeps. -/
theorem Enters.continues {outer inner : Expansion} {failure : Option Failure} {after : Memory}
    (enters : Enters surroundings mode outer inner)
    (ends : outer.EndsWith surroundings mode failure after) :
    ∃ inside between, inner.EndsWith surroundings mode inside between ∧
      ∀ holds, Kept surroundings holds → holds between → holds after := by
  cases enters with
  | value found leads =>
    obtain ⟨outcome, _, expands⟩ := ends
    -- What a reference without a target comes to is no pair by its form, so the pair gets a name.
    generalize whole : (outcome, after) = given at expands
    cases expands with
    | value same others inner =>
      cases found.symm.trans same
      cases leads.symm.trans others
      subst whole
      exact ⟨_, after, ⟨outcome, rfl, inner⟩, fun _ _ => id⟩
    | failed same others | back same others | noDocument same others | noNode same others =>
      cases found.symm.trans same
      cases leads.symm.trans others
    | mapping absent => cases found.symm.trans absent
    | scalar noMapping => exact absurd rfl (noMapping _)
  | entries absent =>
    obtain ⟨outcome, _, expands⟩ := ends
    generalize whole : (outcome, after) = given at expands
    cases expands with
    | mapping _ inner =>
      cases whole
      exact ⟨_, after, ⟨_, rfl, inner⟩, fun _ _ => id⟩
    | failed found | back found | noDocument found | noNode found | value found =>
      cases absent.symm.trans found
    | scalar noMapping => exact absurd rfl (noMapping _)
  | items =>
    obtain ⟨outcome, _, expands⟩ := ends
    cases expands with
    | list inner => exact ⟨_, after, ⟨_, rfl, inner⟩, fun _ _ => id⟩
    | scalar _ noList => exact absurd rfl (noList _)
  | item | entry =>
    obtain ⟨outcome, _, expands⟩ := ends
    cases expands with
    | failed first => exact ⟨_, after, ⟨_, rfl, first⟩, fun _ _ => id⟩
    | cons first others =>
      exact ⟨_, _, ⟨_, rfl, first⟩, fun _ kept before => others.keeps kept before⟩
  | otherItems first | otherEntries first =>
    obtain ⟨outcome, _, expands⟩ := ends
    cases expands with
    | failed again => cases first.eq_some.symm.trans again.eq_some
    | cons again others =>
      cases first.eq_some.symm.trans again.eq_some
      exact ⟨_, after, ⟨_, rfl, others⟩, fun _ _ => id⟩

/-- So has every expansion around it. -/
theorem Reaches.continues {outer inner : Expansion} {failure : Option Failure} {after : Memory}
    (reaches : Reaches surroundings mode outer inner)
    (ends : outer.EndsWith surroundings mode failure after) :
    ∃ inside between, inner.EndsWith surroundings mode inside between ∧
      ∀ holds, Kept surroundings holds → holds between → holds after := by
  induction reaches with
  | refl => exact ⟨failure, after, ends, fun _ _ => id⟩
  | tail _ enters ih =>
    obtain ⟨inside, between, ends, keeps⟩ := ih
    obtain ⟨deeper, earlier, ends, keepsBefore⟩ := enters.continues ends
    exact ⟨deeper, earlier, ends, fun holds kept => keeps holds kept ∘ keepsBefore holds kept⟩

/-! ## References without a target -/

/-- An expansion is that of a reference. -/
def Expansion.RefersBy (expansion : Expansion) (reference : String) : Prop :=
  ∃ entries, expansion.piece = .tree (.mapping entries) ∧ referenceOf? entries = some reference

/-- A reference becomes an empty mapping, and its message is there from then on. -/
def Expansion.BecomesEmpty (surroundings : Surroundings) (expansion : Expansion)
    (message : String) : Prop :=
  ∃ tree after, expansion.piece = .tree tree ∧
    surroundings.expand .collecting expansion.place expansion.seen tree expansion.memory =
      some (.ok (.mapping []), after) ∧
    after.messages = addNew expansion.memory.messages message

section Meets

variable {expansion : Expansion} {problem : Problem}

/-- In collecting mode a reference with a problem becomes an empty mapping. -/
theorem Expansion.Meets.becomesEmpty (meets : expansion.Meets surroundings problem) :
    expansion.BecomesEmpty surroundings problem.message := by
  cases meets with
  | noDocument found leads =>
    refine ⟨_, _, rfl, expand_eq_some_iff.mpr (.noDocument found leads), ?_⟩
    show addNew _ _ = addNew _ _
    rw [(lead_grows leads).1.messages_eq]
    rfl
  | noNode found leads =>
    refine ⟨_, _, rfl, expand_eq_some_iff.mpr (.noNode found leads), ?_⟩
    show addNew _ _ = addNew _ _
    rw [(lead_grows leads).1.messages_eq]
    rfl

/-- In strict mode it is the end. -/
theorem Expansion.Meets.fails (meets : expansion.Meets surroundings problem) :
    ∃ after, expansion.EndsWith surroundings .strict (some problem.failure) after := by
  cases meets with
  | noDocument found leads => exact ⟨_, _, rfl, .noDocument found leads⟩
  | noNode found leads => exact ⟨_, _, rfl, .noNode found leads⟩

/-- The messages of a collecting run that ends begin with those of the time when a problem was met,
and with the one about it. -/
theorem Reaches.records {start : Expansion} {failure : Option Failure} {after : Memory}
    (reaches : Reaches surroundings .collecting start expansion)
    (meets : expansion.Meets surroundings problem)
    (ends : start.EndsWith surroundings .collecting failure after) :
    addNew expansion.memory.messages problem.message <+: after.messages := by
  obtain ⟨inside, between, inner, keeps⟩ := reaches.continues ends
  have added := keeps _ (kept_messages surroundings between.messages) List.prefix_rfl
  obtain ⟨tree, left, piece, expands, said⟩ := meets.becomesEmpty
  obtain ⟨place, seen, _, memory⟩ := expansion
  cases piece
  obtain ⟨outcome, _, again⟩ := inner
  cases expands.symm.trans again.eq_some
  exact said ▸ added

/-- What comes of a problem in the outcome of a run: in collecting mode the reference becomes an
empty mapping, and its message comes next after the messages until then, unless it is among them; in
strict mode the run fails. -/
def Expansion.Reports (surroundings : Surroundings) (expansion : Expansion) (problem : Problem)
    (mode : Mode) (outcome : Outcome Tree) : Prop :=
  match mode with
  | .collecting => expansion.BecomesEmpty surroundings problem.message ∧
    addNew expansion.memory.messages problem.message <+: outcome.2.messages
  | .strict => outcome.1 = .error problem.failure

/-- Every problem that a run meets comes out of it. -/
theorem Reaches.reports {place : Place} {seen : List String} {tree : Tree} {memory : Memory}
    {outcome : Outcome Tree}
    (reaches : Reaches surroundings mode ⟨place, seen, .tree tree, memory⟩ expansion)
    (meets : expansion.Meets surroundings problem)
    (expands : Expands surroundings mode place seen tree memory outcome) :
    expansion.Reports surroundings problem mode outcome := by
  cases mode with
  | collecting => exact ⟨meets.becomesEmpty, reaches.records meets ⟨_, rfl, expands⟩⟩
  | strict =>
    obtain ⟨after, fails⟩ := meets.fails
    obtain ⟨failed | failed, same, again⟩ := reaches.passes fails <;> cases same
    cases again.eq_some.symm.trans expands.eq_some
    rfl

end Meets

/-! ## References that break down -/

/-- Finding out where a reference leads fails. -/
def Expansion.Breaks (surroundings : Surroundings) (expansion : Expansion) (failure : Failure) :
    Prop :=
  ∃ entries reference after, expansion.piece = .tree (.mapping entries) ∧
    referenceOf? entries = some reference ∧
    (lead surroundings expansion.place expansion.seen reference).run.run expansion.memory =
      (.error failure, after)

/-- Such a reference fails in both modes. -/
theorem Expansion.Breaks.fails {expansion : Expansion} {failure : Failure}
    (breaks : expansion.Breaks surroundings failure) :
    ∃ after, expansion.EndsWith surroundings mode (some failure) after := by
  obtain ⟨entries, reference, after, piece, found, leads⟩ := breaks
  obtain ⟨place, seen, _, memory⟩ := expansion
  cases piece
  exact ⟨after, _, rfl, .failed found leads⟩

section Collecting

variable {failure : Failure}

/-- What enters an expansion with a failing one, reaches one that breaks down. -/
theorem reachesSome_of_enters {holds : Expansion → Prop} {outer inner : Expansion}
    (enters : Enters surroundings mode outer inner)
    (reaches : ReachesSome surroundings mode holds inner) :
    ReachesSome surroundings mode holds outer :=
  reachesSome_iff.mpr (.inr ⟨inner, enters, reaches⟩)

mutual
/-- A collecting run that fails has met a reference that breaks down. -/
theorem Expands.breaks {place : Place} {seen : List String} {tree : Tree} {memory : Memory}
    {outcome : Outcome Tree} :
    Expands surroundings .collecting place seen tree memory outcome →
      outcome.1 = .error failure →
      ReachesSome surroundings .collecting (·.Breaks surroundings failure)
        ⟨place, seen, .tree tree, memory⟩
  | .failed found leads => by
    rintro ⟨⟩
    exact ⟨_, .refl, _, _, _, rfl, found, leads⟩
  | .back _ _ => nofun
  | .noDocument _ _ => nofun
  | .noNode _ _ => nofun
  | .value found leads inner => fun fails =>
    reachesSome_of_enters (.value found leads) (inner.breaks fails)
  | .mapping absent inner => by
    intro fails
    refine reachesSome_of_enters (.entries absent) (inner.breaks ?_)
    exact map_eq_error_iff.mp fails
  | .list inner => by
    intro fails
    exact reachesSome_of_enters .items (inner.breaks (map_eq_error_iff.mp fails))
  | .scalar _ _ => nofun

theorem ExpandsItems.breaks {place : Place} {seen : List String} {items : List Tree}
    {memory : Memory} {outcome : Outcome (List Tree)} :
    ExpandsItems surroundings .collecting place seen items memory outcome →
      outcome.1 = .error failure →
      ReachesSome surroundings .collecting (·.Breaks surroundings failure)
        ⟨place, seen, .items items, memory⟩
  | .nil => nofun
  | .failed first => fun fails =>
    reachesSome_of_enters .item (first.breaks (congrArg _ (Except.error.inj fails)))
  | .cons first others => fun fails =>
    reachesSome_of_enters (.otherItems first) (others.breaks (map_eq_error_iff.mp fails))

theorem ExpandsEntries.breaks {place : Place} {seen : List String}
    {entries : List (String × Tree)} {memory : Memory}
    {outcome : Outcome (List (String × Tree))} :
    ExpandsEntries surroundings .collecting place seen entries memory outcome →
      outcome.1 = .error failure →
      ReachesSome surroundings .collecting (·.Breaks surroundings failure)
        ⟨place, seen, .entries entries, memory⟩
  | .nil => nofun
  | .failed first => fun fails =>
    reachesSome_of_enters .entry (first.breaks (congrArg _ (Except.error.inj fails)))
  | .cons first others => fun fails =>
    reachesSome_of_enters (.otherEntries first) (others.breaks (map_eq_error_iff.mp fails))
end

end Collecting

/-! ## What the surroundings say of a reference -/

section Faithful

variable {expansion : Expansion}

/-- The references of a run that break down, as far as its memory is faithful, are those that the
surroundings fail to lead anywhere. -/
theorem Expansion.breaks_iff (faithful : expansion.memory.Faithful surroundings)
    {failure : Failure} :
    expansion.Breaks surroundings failure ↔
      ∃ reference, expansion.RefersBy reference ∧
        reach surroundings expansion.place (cut reference).1 = .error failure := by
  constructor
  · rintro ⟨entries, reference, after, piece, found, leads⟩
    exact ⟨reference, ⟨entries, piece, found⟩,
      leadOf_eq_error_iff.mp (lead_run_inv faithful leads).1⟩
  · rintro ⟨reference, ⟨entries, piece, found⟩, reaches⟩
    obtain ⟨after, leads, _⟩ := lead_run faithful expansion.place expansion.seen reference
    rw [leadOf_eq_error_iff.mpr reaches] at leads
    exact ⟨entries, reference, after, piece, found, leads⟩

/-- A reference has no target in its surroundings: it names no document, or it names no node of its
document and leads back to no reference around it. -/
inductive Expansion.Misses (surroundings : Surroundings) (expansion : Expansion) : Problem → Prop
    where
  | noDocument {reference reason : String} (refers : expansion.RefersBy reference)
      (reaches : reach surroundings expansion.place (cut reference).1 = .ok (.error reason)) :
      Misses surroundings expansion (.noDocument reference reason)
  | noNode {reference : String} {there : Place} {fault : PointerFault}
      (refers : expansion.RefersBy reference)
      (reaches : reach surroundings expansion.place (cut reference).1 = .ok (.ok there))
      (new : cycleKey there.location (cut reference).2 ∉ expansion.seen)
      (follows : there.root.follow (cut reference).2 = .error fault) :
      Misses surroundings expansion (.noNode reference fault)

/-- The problems of a run, as far as its memory is faithful, are the references without a target. -/
theorem Expansion.meets_iff_misses (faithful : expansion.memory.Faithful surroundings)
    {problem : Problem} :
    expansion.Meets surroundings problem ↔ expansion.Misses surroundings problem := by
  obtain ⟨place, seen, piece, memory⟩ := expansion
  constructor
  · rintro (⟨found, leads⟩ | ⟨found, leads⟩)
    · exact .noDocument ⟨_, rfl, found⟩
        (leadOf_eq_noDocument_iff.mp (lead_run_inv faithful leads).1)
    · obtain ⟨there, reaches, new, follows⟩ :=
        leadOf_eq_noNode_iff.mp (lead_run_inv faithful leads).1
      exact .noNode ⟨_, rfl, found⟩ reaches new follows
  · rintro (⟨⟨entries, piece, found⟩, reaches⟩ | ⟨⟨entries, piece, found⟩, reaches, new, follows⟩)
    · cases piece
      obtain ⟨after, leads, _⟩ := lead_run faithful place seen _
      exact .noDocument found (leadOf_eq_noDocument_iff.mpr reaches ▸ leads)
    · cases piece
      obtain ⟨after, leads, _⟩ := lead_run faithful place seen _
      exact .noNode found (leadOf_eq_noNode_iff.mpr ⟨_, reaches, new, follows⟩ ▸ leads)

end Faithful

/-! ## Messages are left once -/

theorem nodup_addNew {values : List String} (nodup : values.Nodup) (value : String) :
    (addNew values value).Nodup := by
  unfold addNew
  split
  case isTrue => exact nodup
  case isFalse new =>
    rw [← List.concat_eq_append]
    exact nodup.concat (by simpa using new)

theorem kept_nodup (surroundings : Surroundings) : Kept surroundings (·.messages.Nodup) where
  leading leads nodup := (lead_grows leads).1.messages_eq.symm ▸ nodup
  saying message nodup := nodup_addNew nodup message

end ApiAdmission.Reference
