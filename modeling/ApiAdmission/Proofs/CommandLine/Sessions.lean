import ApiAdmission.CommandLine.Run
import ApiAdmission.Proofs.Outcome

/-!
# Sessions that give a value

A part of a run gives a value exactly if each of its steps does, and what it prints is what they
print, one after the other.
-/

namespace ApiAdmission.CommandLine

set_option autoImplicit false

/-- How a session stands after it has printed more. -/
def Standing.printing (standing : Standing) (printed : List Printed) : Standing :=
  { standing with printed := printed.foldl Printed.followedBy standing.printed }

theorem Standing.printing_append (standing : Standing) (first second : List Printed) :
    standing.printing (first ++ second) = (standing.printing first).printing second := by
  simp [printing, List.foldl_append]

namespace Session

variable {α β : Type} {before after : Standing}

/-- A session gives a value and leaves another standing. -/
def Gives (session : Session α) (before : Standing) (value : α) (after : Standing) : Prop :=
  session.run.run before = (.ok value, after)

theorem gives_bind_iff {first : Session α} {next : α → Session β} {result : β} :
    (first >>= next).Gives before result after ↔
      ∃ value between, first.Gives before value between ∧
        (next value).Gives between result after := by
  have runs : (first >>= next).run.run before =
      match first.run.run before with
      | (.ok value, between) => (next value).run.run between
      | (.error failure, between) => (.error failure, between) := by
    rw [ExceptT.run_bind, StateT.run_bind]
    show (match first.run.run before with | (outcome, between) => _) = _
    cases first.run.run before with
    | mk outcome between => cases outcome <;> rfl
  unfold Gives
  rw [runs]
  cases first.run.run before with
  | mk outcome between =>
    cases outcome with
    | error failure =>
      refine iff_of_false (fun given => ?_) fun ⟨_, _, given, _⟩ => ?_ <;>
        cases (Prod.mk.inj given).1
    | ok value =>
      refine ⟨fun given => ⟨value, between, rfl, given⟩, ?_⟩
      rintro ⟨_, _, here, given⟩
      obtain ⟨⟨⟩, rfl⟩ := Prod.mk.inj here
      exact given

theorem gives_pure_iff {value result : α} :
    (pure value : Session α).Gives before result after ↔ result = value ∧ after = before := by
  show ((Except.ok value : Except Failure α), before) = (.ok result, after) ↔ _
  simp [eq_comm]

theorem not_gives_throw {failure : Failure} {result : α} :
    ¬ (throw failure : Session α).Gives before result after := by
  show ¬ ((Except.error failure : Except Failure α), before) = (.ok result, after)
  simp

theorem gives_orBreakDown_iff {given : Except Breakdown α} {result : α} :
    (orBreakDown given).Gives before result after ↔ given = .ok result ∧ after = before := by
  cases given with
  | error breakdown => exact iff_of_false not_gives_throw nofun
  | ok value => exact gives_pure_iff.trans (by simp [eq_comm])

theorem gives_print_iff {printed : Printed} {result : Unit} :
    (print printed).Gives before result after ↔ after = before.printing [printed] := by
  show ((Except.ok () : Except Failure Unit), before.printing [printed]) = (.ok result, after) ↔ _
  simp [eq_comm]

theorem gives_useConsole_iff {console : Console} {result : Unit} :
    (useConsole console).Gives before result after ↔
      after = { before with console := console } := by
  show ((Except.ok () : Except Failure Unit), { before with console := console }) =
    (.ok result, after) ↔ _
  simp [eq_comm]

theorem gives_printChecked_iff {checked : Except Breakdown Printed} {result : Unit} :
    (printChecked checked).Gives before result after ↔
      ∃ printed, checked = .ok printed ∧ after = before.printing [printed] := by
  simp only [printChecked, gives_bind_iff, gives_orBreakDown_iff, gives_print_iff]
  constructor
  · rintro ⟨printed, _, ⟨given, rfl⟩, prints⟩
    exact ⟨printed, given, prints⟩
  · rintro ⟨printed, given, prints⟩
    exact ⟨printed, before, ⟨given, rfl⟩, prints⟩

/-- A loop that prints for every member gives a value exactly if everything can be printed. -/
theorem gives_loop_iff {members : List α} {shown : α → Except Breakdown Printed}
    {result : PUnit} :
    (forIn members PUnit.unit fun member _ => do
        printChecked (shown member)
        pure (ForInStep.yield PUnit.unit) : Session PUnit).Gives before result after ↔
      ∃ printed, members.mapM shown = .ok printed ∧ after = before.printing printed := by
  induction members generalizing before with
  | nil =>
    rw [List.forIn_nil, gives_pure_iff, List.mapM_nil]
    constructor
    · rintro ⟨-, rfl⟩
      exact ⟨[], rfl, rfl⟩
    · rintro ⟨_, ⟨⟩, rfl⟩
      exact ⟨rfl, rfl⟩
  | cons member rest ih =>
    rw [List.forIn_cons, bind_assoc, gives_bind_iff, List.mapM_cons]
    simp only [pure_bind, ih, gives_printChecked_iff]
    constructor
    · rintro ⟨_, _, ⟨printed, shown_, rfl⟩, others, showsRest, rfl⟩
      refine ⟨printed :: others, bind_eq_ok_iff.mpr ⟨_, shown_, bind_eq_ok_iff.mpr
        ⟨_, showsRest, rfl⟩⟩, ?_⟩
      rw [← Standing.printing_append]
      rfl
    · rintro ⟨_, given, rfl⟩
      obtain ⟨printed, shown_, given⟩ := bind_eq_ok_iff.mp given
      obtain ⟨others, showsRest, given⟩ := bind_eq_ok_iff.mp given
      cases given
      refine ⟨(), before.printing [printed], ⟨printed, shown_, rfl⟩, others, showsRest, ?_⟩
      rw [← Standing.printing_append]
      rfl

end Session

end ApiAdmission.CommandLine
