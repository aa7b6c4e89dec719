import ApiAdmission.Resolver.Basic

/-!
# What consultations give

A consultation runs with the calls that were logged before it.  No consultation of a validation
reads that log: each gives the same outcome whatever was asked before, and adds the same calls
behind it.  `Yields` says both at once, and the steps of a consultation combine: the outcome of
the first step decides what follows, and the calls of the steps stand one after the other
(`Yields.bind`).
-/

namespace ApiAdmission.Consultation

set_option autoImplicit false

variable {α β : Type}

/-- A consultation gives an outcome and adds calls to the log, whatever was logged before. -/
def Yields (consultation : Consultation α) (outcome : Except Failure α) (calls : List Call) :
    Prop :=
  ∀ earlier : List Call, consultation.run.run earlier = (outcome, earlier ++ calls)

namespace Yields

variable {consultation : Consultation α} {outcome : Except Failure α} {calls : List Call}

/-- What a consultation yields is what it gives from the start. -/
theorem start_eq (yields : consultation.Yields outcome calls) :
    consultation.start = (outcome, calls) :=
  yields []

/-! ## Single steps -/

theorem pure (value : α) : (Pure.pure value : Consultation α).Yields (.ok value) [] := by
  intro earlier
  rw [List.append_nil]
  rfl

theorem throw (failure : Failure) :
    (MonadExcept.throw failure : Consultation α).Yields (.error failure) [] := by
  intro earlier
  rw [List.append_nil]
  rfl

theorem log (call : Call) : (Consultation.log call).Yields (.ok ()) [call] :=
  fun _ => rfl

theorem ofFailure (outcome : Except Failure α) :
    (Consultation.ofFailure outcome).Yields outcome [] := by
  cases outcome with
  | ok value => exact pure value
  | error failure => exact throw failure

theorem ofBreakdown_ok {result : Except Breakdown α} {value : α} (gives : result = .ok value) :
    (Consultation.ofBreakdown result).Yields (.ok value) [] := by
  rw [gives]
  exact pure value

theorem ofBreakdown_error {result : Except Breakdown α} {breakdown : Breakdown}
    (gives : result = .error breakdown) :
    (Consultation.ofBreakdown result).Yields (.error (.breakdown breakdown)) [] := by
  rw [gives]
  exact throw (.breakdown breakdown)

/-! ## Steps one after the other -/

/-- After a step that gives a value comes the step that the value asks for. -/
theorem bind {next : α → Consultation β} {value : α} {result : Except Failure β}
    {more : List Call} (first : consultation.Yields (.ok value) calls)
    (second : (next value).Yields result more) :
    (consultation >>= next).Yields result (calls ++ more) := by
  intro earlier
  have ran : consultation earlier = (.ok value, earlier ++ calls) := first earlier
  calc (consultation >>= next) earlier
      = ExceptT.bindCont next (consultation earlier).1 (consultation earlier).2 := rfl
    _ = next value (earlier ++ calls) := by rw [ran]; rfl
    _ = (result, earlier ++ (calls ++ more)) := by
        rw [← List.append_assoc]
        exact second (earlier ++ calls)

/-- Nothing comes after a step that fails. -/
theorem bind_error {next : α → Consultation β} {failure : Failure}
    (first : consultation.Yields (.error failure) calls) :
    (consultation >>= next).Yields (.error failure) calls := by
  intro earlier
  have ran : consultation earlier = (.error failure, earlier ++ calls) := first earlier
  calc (consultation >>= next) earlier
      = ExceptT.bindCont next (consultation earlier).1 (consultation earlier).2 := rfl
    _ = (.error failure, earlier ++ calls) := by rw [ran]; rfl

/-- The outcome of a step is what follows from it, when nothing is asked in between. -/
theorem bind_pure {next : α → β} (first : consultation.Yields outcome calls) :
    (consultation >>= fun value => Pure.pure (next value)).Yields (outcome.map next) calls := by
  cases outcome with
  | ok value =>
    have both : (consultation >>= fun value => Pure.pure (next value)).Yields (.ok (next value))
        (calls ++ []) := first.bind (pure (next value))
    rwa [List.append_nil] at both
  | error failure => exact first.bind_error

end Yields

/-- From the start the outcome of a step is what follows from it too, whatever it asks. -/
theorem start_bind_pure (consultation : Consultation α) (next : α → β) :
    (consultation >>= fun value => Pure.pure (next value)).start =
      (consultation.start.1.map next, consultation.start.2) := by
  calc (consultation >>= fun value => Pure.pure (next value)).start
      = ExceptT.bindCont (fun value => (Pure.pure (next value) : Consultation β))
          consultation.start.1 consultation.start.2 := rfl
    _ = (consultation.start.1.map next, consultation.start.2) := by
        cases consultation.start.1 <;> rfl

end ApiAdmission.Consultation
