import ApiAdmission.Definition.Walk
import ApiAdmission.Proofs.Schema.Raised

/-!
# What the walk through a definition notes

Among the findings of the walk, the violations of default values come from validations, so each of
them is raised.  The walk notes findings in a few places and passes them on everywhere else, also
where it breaks down.  What every part of the walk keeps is shown of the steps that it is made of
(`Walk.Keeps`), and of the visits in the order in which they are built up, by induction on the depth
where a schema is visited (`keeps_visitSchema`).
-/

namespace ApiAdmission.Definition

set_option autoImplicit false

open Schema (Raised Target)

/-- A finding about a default value is of a violation that is raised. -/
def Finding.FromValidation (finding : Finding) : Prop :=
  ∀ dialect violation, finding = .badDefault dialect violation → Raised violation

/-- So are all findings so far. -/
def Progress.FromValidation (progress : Progress) : Prop :=
  ∀ finding ∈ progress.findings, finding.FromValidation

/-! ## The steps of the walk -/

/-- A part of the walk notes only such findings. -/
def Walk.Keeps {α : Type} (work : Walk α) : Prop :=
  ∀ before, before.FromValidation → (work.run.run before).2.FromValidation

namespace Walk

variable {α β : Type}

theorem keeps_pure (value : α) : Keeps (pure value) := fun _ known => known

theorem keeps_throw (breakdown : Breakdown) : Keeps (throw breakdown : Walk α) :=
  fun _ known => known

theorem keeps_get : Keeps (get : Walk Progress) := fun _ known => known

/-- A change of the progress keeps what it has found. -/
theorem keeps_modify {change : Progress → Progress}
    (same : ∀ progress, (change progress).findings = progress.findings) :
    Keeps (modify change) := by
  intro before known finding member
  exact known finding (same before ▸ member)

theorem keeps_note {findings : List Finding} (each : ∀ finding ∈ findings, finding.FromValidation) :
    Keeps (note findings) := by
  intro before known finding member
  exact (List.mem_append.mp member).elim (known finding) (each finding)

/-- So does noting anything that is not about a default value. -/
theorem keeps_noteOther {findings : List Finding}
    (other : ∀ finding ∈ findings, ∀ dialect violation, finding ≠ .badDefault dialect violation) :
    Keeps (note findings) :=
  keeps_note fun finding member dialect violation same =>
    absurd same (other finding member dialect violation)

theorem keeps_ofResult (result : Except Breakdown α) : Keeps (ofResult result) := by
  cases result with
  | error breakdown => exact keeps_throw breakdown
  | ok value => exact keeps_pure value

theorem keeps_bind {work : Walk α} {next : α → Walk β} (first : Keeps work)
    (onward : ∀ value, Keeps (next value)) : Keeps (work >>= next) := by
  intro before known
  have between := first before known
  rw [run_bind]
  rcases ran : work.run.run before with ⟨failure | value, after⟩ <;> rw [ran] at between
  · exact between
  · exact onward value after between

/-- After a result that breaks down or not, the walk goes on only if it does not. -/
theorem keeps_result {result : Except Breakdown α} {next : α → Walk β}
    (onward : ∀ value, result = .ok value → Keeps (next value)) :
    Keeps (ofResult result >>= next) := by
  intro before known
  rw [run_bind]
  cases result with
  | error breakdown => exact known
  | ok value => exact onward value rfl before known

theorem keeps_ite {condition : Prop} [Decidable condition] {first second : Walk α}
    (holds : Keeps first) (fails : Keeps second) : Keeps (if condition then first else second) := by
  split
  · exact holds
  · exact fails

theorem keeps_each {visit : α → Walk Unit} {members : List α}
    (one : ∀ member, Keeps (visit member)) : Keeps (each visit members) := by
  induction members with
  | nil => exact keeps_pure ()
  | cons member rest ih => exact keeps_bind (one member) fun _ => ih

theorem keeps_foldlM {visit : β → α → Walk β} {members : List α} {start : β}
    (one : ∀ known member, Keeps (visit known member)) :
    Keeps (members.foldlM visit start) := by
  induction members generalizing start with
  | nil => exact keeps_pure start
  | cons member rest ih => exact keeps_bind (one start member) fun _ => ih

end Walk

open Walk

/-! ## Schemas -/

section Visits

variable {rules : Rules}

/-- The violations of a value that is checked come from a validation. -/
theorem keeps_checkValue (place : Target) (value : Tree) :
    Keeps (checkValue rules place value) := by
  refine keeps_result fun violations given => keeps_note fun finding member => ?_
  obtain ⟨violation, found, rfl⟩ := List.mem_map.mp member
  rintro _ _ ⟨⟩
  exact Schema.raised_of_validate given violation found

theorem keeps_checkDefault (place : Target) : Keeps (checkDefault rules place) := by
  refine keeps_result fun default? _ => ?_
  split
  · exact keeps_pure ()
  · exact keeps_checkValue _ _

/-- Visiting a schema keeps it, by induction on the depth of the visit. -/
theorem keeps_visitSchema (budget : Nat) (direct : Bool) (place : Target) :
    Keeps (visitSchema rules budget direct place) := by
  induction budget generalizing direct place with
  | zero => exact keeps_throw _
  | succ budget ih =>
    rw [visitSchema]
    split
    case h_7 | h_8 | h_9 | h_10 => exact keeps_throw _
    case h_11 =>
      refine keeps_bind keeps_get fun progress => keeps_ite (keeps_pure ()) ?_
      refine keeps_bind (keeps_modify fun _ => rfl) fun _ => ?_
      extract_lets visitInner child visitMembers visitChild
      have inner (node : Target) : Keeps (visitInner node) := keeps_result fun _ _ => ih _ _
      have amongMembers (keyword : String) : Keeps (visitMembers keyword) := by
        refine keeps_result fun combined _ => ?_
        split
        · exact keeps_result fun _ _ => keeps_each inner
        · exact keeps_pure ()
      have ofChild (keyword : String) : Keeps (visitChild keyword) := by
        refine keeps_result fun node _ => ?_
        split
        · exact inner _
        · exact keeps_pure ()
      refine keeps_result fun combined _ => ?_
      extract_lets onward
      have rest (nested : List String) : Keeps (onward nested) := by
        refine keeps_bind (amongMembers _) fun _ => keeps_bind (amongMembers _) fun _ =>
          keeps_bind (ofChild _) fun _ => keeps_bind (ofChild _) fun _ =>
          keeps_result fun properties _ => ?_
        extract_lets last
        have ending : Keeps (last ()) := by
          refine keeps_ite (keeps_result fun names _ => ?_) (keeps_checkDefault place)
          exact keeps_ite
            (keeps_bind (keeps_noteOther (by simp)) fun _ => keeps_checkDefault place)
            (keeps_checkDefault place)
        split
        · exact keeps_result fun _ _ => keeps_bind (keeps_each fun _ => inner _) fun _ => ending
        · exact ending
      split
      · exact keeps_bind (keeps_pure _) rest
      · refine keeps_result fun nodes _ => keeps_bind (keeps_foldlM fun names node => ?_) rest
        exact keeps_bind (inner node) fun _ =>
          keeps_result fun _ _ => keeps_result fun _ _ => keeps_pure _
    all_goals exact keeps_pure ()

theorem keeps_enterSchema (node : Target) : Keeps (enterSchema rules node) :=
  keeps_result fun _ _ => keeps_visitSchema _ _ _

theorem keeps_enterSchemaOf (place : Target) : Keeps (enterSchemaOf rules place) := by
  refine keeps_result fun schema _ => ?_
  split
  · exact keeps_enterSchema _
  · exact keeps_pure ()

/-! ## Parameters -/

theorem keeps_visitParameter (place : Target) : Keeps (visitParameter rules place) := by
  refine keeps_bind (keeps_enterSchemaOf place) fun _ => keeps_ite ?_ (keeps_pure ())
  refine keeps_result fun given _ => keeps_ite (keeps_result fun value _ => ?_) (keeps_pure ())
  split
  · exact keeps_pure ()
  · exact keeps_checkValue _ _

theorem keeps_visitParameterList (known : List (Tree × Tree)) (nodes : List Target) :
    Keeps (visitParameterList rules known nodes) := by
  induction nodes generalizing known with
  | nil => exact keeps_pure ()
  | cons node rest ih =>
    rw [visitParameterList]
    refine keeps_result fun place _ => keeps_bind (keeps_visitParameter place) fun _ =>
      keeps_result fun name _ => keeps_result fun position _ => ?_
    extract_lets others onward
    have compares : Keeps (onward ()) :=
      keeps_ite (keeps_bind (keeps_noteOther (by simp)) fun _ => ih _) (ih _)
    exact keeps_ite (keeps_bind (keeps_throw _) fun _ => compares) compares

theorem keeps_visitParameters (place : Target) : Keeps (visitParameters rules place) :=
  keeps_result fun _ _ => keeps_visitParameterList _ _

theorem keeps_visitParametersOf (place : Target) : Keeps (visitParametersOf rules place) := by
  refine keeps_result fun parameters _ => ?_
  split
  · exact keeps_bind (keeps_visitParameters _) fun _ => keeps_ofResult _
  · exact keeps_pure _

/-! ## Operations -/

theorem keeps_visitResponse (node : Target) : Keeps (visitResponse rules node) := by
  refine keeps_result fun place _ => keeps_ite (keeps_enterSchemaOf place) ?_
  refine keeps_result fun content _ => ?_
  split
  · exact keeps_pure ()
  · exact keeps_result fun _ _ => keeps_each fun _ =>
      keeps_result fun _ _ => keeps_enterSchemaOf _

theorem keeps_meetIdentifier (template method : String) (identifier : Tree) :
    Keeps (meetIdentifier template method identifier) := by
  refine keeps_bind keeps_get fun progress => ?_
  extract_lets onward
  have meets : Keeps (onward ()) := keeps_modify fun _ => rfl
  exact keeps_ite (keeps_bind (keeps_noteOther (by simp)) fun _ => meets) meets

theorem keeps_visitOperation (template : String) (shared : List Tree) (method : String)
    (node : Target) : Keeps (visitOperation rules template shared method node) := by
  refine keeps_result fun place _ => keeps_result fun identifier _ =>
    keeps_bind (keeps_meetIdentifier _ _ _) fun _ => keeps_result fun responses _ => ?_
  extract_lets onward
  have parameters : Keeps (onward ()) := by
    refine keeps_bind (keeps_visitParametersOf place) fun _ =>
      keeps_result fun names _ => keeps_noteOther fun finding member => ?_
    obtain ⟨name, _, rfl⟩ := List.mem_map.mp member
    exact nofun
  split
  · exact keeps_result fun _ _ => keeps_bind (keeps_each fun _ => keeps_visitResponse _) fun _ =>
      parameters
  · exact parameters

theorem keeps_visitPath (template : String) (node : Target) :
    Keeps (visitPath rules template node) :=
  keeps_result fun place _ => keeps_bind (keeps_visitParametersOf place) fun _ =>
    keeps_result fun _ _ => keeps_each fun _ =>
      keeps_ite (keeps_visitOperation _ _ _ _) (keeps_pure ())

/-! ## The definition -/

theorem keeps_visitComponents (components : Target) :
    Keeps (visitComponents rules components) := by
  refine keeps_result fun schemas _ => ?_
  split
  · exact keeps_result fun _ _ => keeps_each fun _ => keeps_enterSchema _
  · exact keeps_pure ()

theorem keeps_visit : Keeps (visit rules) := by
  refine keeps_result fun place _ => keeps_result fun paths _ => ?_
  extract_lets onward
  have ending : Keeps (onward ()) := by
    refine keeps_result fun components _ => ?_
    split
    · exact keeps_visitComponents _
    · exact keeps_pure ()
  split
  · exact keeps_result fun _ _ => keeps_bind (keeps_each fun _ => keeps_visitPath _ _) fun _ =>
      ending
  · exact ending

theorem findings_inspect (rules : Rules) :
    (inspect rules).1 = ((visit rules).run.run Progress.start).2.findings := by
  unfold inspect
  rcases (visit rules).run.run Progress.start with ⟨failure | value, after⟩ <;> rfl

/-- **The violations that the walk finds come from validations**, also where it breaks down. -/
theorem raised_of_inspect {dialect : Schema.Dialect} {violation : Schema.Violation}
    (found : .badDefault dialect violation ∈ (inspect rules).1) : Raised violation := by
  rw [findings_inspect] at found
  have known : Progress.start.FromValidation := fun _ member => (List.not_mem_nil member).elim
  exact keeps_visit Progress.start known _ found _ _ rfl

end Visits

end ApiAdmission.Definition
