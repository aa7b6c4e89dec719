import Mathlib.Data.List.Forall2

/-!
# Work that may fail

A computation that may fail gives a result exactly if each of its steps does, and its fault is that
of the first step that fails.  With a state, each step goes on from the one that the last has left,
and that of a failing step stays.
-/

namespace ApiAdmission

set_option autoImplicit false

variable {ε α β : Type}

theorem bind_eq_ok_iff {first : Except ε α} {next : α → Except ε β} {result : β} :
    (first >>= next) = .ok result ↔ ∃ value, first = .ok value ∧ next value = .ok result := by
  cases first with
  | error fault => exact iff_of_false nofun fun ⟨_, given, _⟩ => nomatch given
  | ok value =>
    constructor
    · exact fun given => ⟨value, rfl, given⟩
    · rintro ⟨_, ⟨⟩, given⟩
      exact given

theorem bind_eq_error_iff {first : Except ε α} {next : α → Except ε β} {fault : ε} :
    (first >>= next) = .error fault ↔
      first = .error fault ∨ ∃ value, first = .ok value ∧ next value = .error fault := by
  cases first with
  | error cause =>
    constructor
    · rintro ⟨⟩
      exact .inl rfl
    · rintro (⟨⟨⟩⟩ | ⟨_, ⟨⟩, _⟩)
      rfl
  | ok value =>
    constructor
    · exact fun given => .inr ⟨value, rfl, given⟩
    · rintro (⟨⟨⟩⟩ | ⟨_, ⟨⟩, given⟩)
      exact given

theorem map_eq_ok_iff {outcome : Except ε α} {change : α → β} {result : β} :
    outcome.map change = .ok result ↔ ∃ value, outcome = .ok value ∧ change value = result := by
  cases outcome <;> simp [Except.map]

theorem map_eq_error_iff {outcome : Except ε α} {change : α → β} {fault : ε} :
    outcome.map change = .error fault ↔ outcome = .error fault := by
  cases outcome <;> simp [Except.map]

theorem mapError_eq_ok_iff {δ : Type} {outcome : Except ε α} {change : ε → δ} {result : α} :
    outcome.mapError change = .ok result ↔ outcome = .ok result := by
  cases outcome <;> simp [Except.mapError]

theorem mapError_eq_error_iff {δ : Type} {outcome : Except ε α} {change : ε → δ} {fault : δ} :
    outcome.mapError change = .error fault ↔
      ∃ cause, outcome = .error cause ∧ change cause = fault := by
  cases outcome <;> simp [Except.mapError]

theorem mapM_eq_ok_iff {work : α → Except ε β} {members : List α} {results : List β} :
    members.mapM work = .ok results ↔
      List.Forall₂ (fun member result => work member = .ok result) members results := by
  induction members generalizing results with
  | nil =>
    rw [List.mapM_nil, List.forall₂_nil_left_iff]
    exact ⟨fun given => (Except.ok.inj given).symm, fun given => given ▸ rfl⟩
  | cons member rest ih =>
    rw [List.mapM_cons, List.forall₂_cons_left_iff]
    simp only [bind_eq_ok_iff, ih]
    constructor
    · rintro ⟨result, works, others, worksRest, ⟨⟩⟩
      exact ⟨result, others, works, worksRest, rfl⟩
    · rintro ⟨result, others, works, worksRest, rfl⟩
      exact ⟨result, works, others, worksRest, rfl⟩

theorem of_mem_mapM {work : α → Except ε β} {members : List α} {results : List β}
    (given : members.mapM work = .ok results) {result : β} (made : result ∈ results) :
    ∃ member ∈ members, work member = .ok result := by
  have each := mapM_eq_ok_iff.mp given
  clear given
  induction each with
  | nil => cases made
  | cons works _ ih =>
    rcases List.mem_cons.mp made with rfl | later
    · exact ⟨_, List.mem_cons_self, works⟩
    · obtain ⟨member, here, others⟩ := ih later
      exact ⟨member, List.mem_cons_of_mem _ here, others⟩

theorem exists_mapM {work : α → Except ε β} {members : List α}
    (each : ∀ member ∈ members, ∃ result, work member = .ok result) :
    ∃ results, members.mapM work = .ok results := by
  induction members with
  | nil => exact ⟨[], rfl⟩
  | cons member rest ih =>
    obtain ⟨first, others⟩ := List.forall_mem_cons.mp each
    obtain ⟨result, works⟩ := first
    obtain ⟨results, worksRest⟩ := ih others
    exact ⟨result :: results, mapM_eq_ok_iff.mpr (.cons works (mapM_eq_ok_iff.mp worksRest))⟩

/-- After work on a state that gives a value comes the work that the value asks for. -/
theorem run_bind {σ : Type} (work : ExceptT ε (StateM σ) α) (next : α → ExceptT ε (StateM σ) β)
    (state : σ) :
    (work >>= next).run.run state =
      match work.run.run state with
      | (.ok value, after) => (next value).run.run after
      | (.error failure, after) => (.error failure, after) := by
  change ExceptT.bindCont next (work state).1 (work state).2 = _
  change _ = match work state with
    | (.ok value, after) => (next value).run.run after
    | (.error failure, after) => (.error failure, after)
  obtain ⟨outcome | outcome, after⟩ := work state <;> rfl

end ApiAdmission
