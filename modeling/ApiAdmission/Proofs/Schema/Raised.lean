import ApiAdmission.Proofs.Schema.Described

/-!
# What a validation raises

A violation of required names is raised about an object that lacks one of them, and nothing else is
raised under that keyword (`complaints_required`).  Every violation that a validation finds is built
up from such violations, from those of other keywords and from those of schemas that allow nothing,
by looking at them from above and by putting them into the context of alternatives (`Raised`).  This
is shown once along the nesting of schemas (`validateWithin_raises`).  So all of them are sound, and
those of required names have no alternatives inside.
-/

namespace ApiAdmission.Schema

set_option autoImplicit false

/-- A violation that validations find. -/
inductive Raised : Violation → Prop where
  /-- A schema allows nothing. -/
  | nothing (schema subject : Tree) : Raised (nothingAllowed schema subject)
  /-- A part of a value violates a schema. -/
  | inside {violation : Violation} (step : Step) (raised : Raised violation) :
      Raised (violation.inside step)
  /-- An object lacks a required name. -/
  | absent {application : Application} {message : String} {entries : List (String × Tree)}
      (keyword : application.keyword = "required")
      (object : application.subject = .mapping entries)
      (lacks : missingNames (application.own message []) ≠ []) :
      Raised (application.own message [])
  /-- A value violates another keyword. -/
  | other {application : Application} {message : String} {context : List Violation}
      (keyword : application.keyword ≠ "required")
      (members : ∀ member ∈ context, Raised member) :
      Raised (application.own message context)

/-! ## What every such violation is like -/

section Raised

variable {violation : Violation}

theorem inside_eq_under (step : Step) : violation.inside step = violation.under [step] := by
  cases violation
  rfl

/-- **All violations that are raised are sound.** -/
theorem Raised.sound (raised : Raised violation) : violation.Sound := by
  induction raised with
  | nothing => exact .intro nofun (by simp [nothingAllowed, Violation.context])
  | inside step _ ih =>
    rw [inside_eq_under]
    exact ih.under _
  | absent _ _ lacks => exact .intro (fun _ => lacks) (by simp [Application.own, Violation.context])
  | other keyword _ ih => exact .intro (fun same => absurd (Option.some.inj same) keyword) ih

/-- One of required names is about an object, and has no alternatives inside. -/
theorem Raised.alone (raised : Raised violation) (keyword : violation.keyword = some "required") :
    violation.context = [] ∧ ∃ entries, violation.subject = .mapping entries := by
  induction raised with
  | nothing => cases keyword
  | @inside violation _ _ ih =>
    cases violation
    exact ih keyword
  | absent _ object => exact ⟨rfl, _, object⟩
  | other others => exact absurd (Option.some.inj keyword) others

end Raised

/-! ## Searches that raise violations -/

/-- Whatever a search finds is raised. -/
def Raises (found : Found) : Prop :=
  ∀ violations, found = .ok violations → ∀ violation ∈ violations, Raised violation

section Raises

variable {α : Type}

theorem raises_ok {violations : List Violation}
    (each : ∀ violation ∈ violations, Raised violation) : Raises (.ok violations) := by
  rintro _ ⟨⟩
  exact each

theorem raises_nil : Raises (.ok []) :=
  raises_ok fun _ member => (List.not_mem_nil member).elim

theorem raises_one {violation : Violation} (raised : Raised violation) :
    Raises (.ok [violation]) :=
  raises_ok fun _ member => List.mem_singleton.mp member ▸ raised

theorem raises_error (breakdown : Breakdown) : Raises (.error breakdown) :=
  nofun

theorem raises_bind {first : Except Breakdown α} {next : α → Found}
    (each : ∀ value, first = .ok value → Raises (next value)) : Raises (first >>= next) := by
  intro violations given
  obtain ⟨value, had, onward⟩ := bind_eq_ok_iff.mp given
  exact each value had violations onward

theorem raises_ite {condition : Prop} [Decidable condition] {first second : Found}
    (holds : Raises first) (fails : Raises second) :
    Raises (if condition then first else second) := by
  split
  · exact holds
  · exact fails

theorem raises_gather {search : α → Found} {members : List α}
    (each : ∀ member, Raises (search member)) : Raises (gather search members) := by
  induction members with
  | nil => exact raises_nil
  | cons member rest ih =>
    refine raises_bind fun found had => raises_bind fun others more => raises_ok ?_
    intro violation among
    rcases List.mem_append.mp among with here | later
    · exact each member found had violation here
    · exact ih others more violation later

end Raises

/-! ## Keywords -/

/-- The only complaints about required names are about objects that lack one. -/
theorem complaints_required {dialect : Dialect} {schema : List (String × Tree)}
    {value subject : Tree} {words : List String} {message : String}
    (given : complaints dialect schema "required" value subject = .ok words)
    (said : message ∈ words) :
    ∃ entries, subject = .mapping entries ∧
      ∃ name ∈ requiredNames value, hasAttribute subject name = false := by
  cases subject with
  | mapping entries =>
    obtain ⟨names, listed, given⟩ := bind_eq_ok_iff.mp given
    obtain ⟨missing, absent, ⟨⟩⟩ := bind_eq_ok_iff.mp given
    obtain ⟨name, among, _⟩ := List.mem_map.mp said
    have lacked : name ∈ missing := by
      split at among
      · exact (List.mem_filter.mp among).1
      · exact among
    unfold absentNames at absent
    split at absent <;> cases absent
    obtain ⟨member, lacks⟩ := List.mem_filter.mp lacked
    refine ⟨entries, rfl, name, ?_, (Bool.not_eq_true' _).mp lacks⟩
    rw [requiredNames, listed]
    exact member
  | _ =>
    cases given
    cases said

namespace Application

variable {application : Application}

/-- What looks at the value alone raises violations of its keyword. -/
theorem raises_alone : Raises application.alone := by
  refine raises_bind fun words complains => raises_ok fun violation member => ?_
  obtain ⟨message, said, rfl⟩ := List.mem_map.mp member
  by_cases required : application.keyword = "required"
  · rw [required] at complains
    obtain ⟨entries, object, name, listed, lacks⟩ := complaints_required complains said
    exact .absent required object
      (List.ne_nil_of_mem (List.mem_filter.mpr ⟨listed, (Bool.not_eq_true' _).mpr lacks⟩))
  · exact .other required fun _ member => (List.not_mem_nil member).elim

section Inner

variable (inner : ∀ located subject, Raises (application.validate located subject))
include inner

theorem raises_descend (schema : Tree) : Raises (application.descend schema) :=
  inner _ _

theorem raises_descendTo (schema : Tree) (step : Step) (part : Tree) :
    Raises (application.descendTo schema step part) := by
  refine raises_bind fun violations found => raises_ok fun violation member => ?_
  obtain ⟨below, among, rfl⟩ := List.mem_map.mp member
  exact .inside step (inner _ _ violations found below among)

theorem raises_eachItem (schema : Tree) (first : Nat) (items : List Tree) :
    Raises (application.eachItem schema first items) :=
  raises_gather fun _ => raises_descendTo inner _ _ _

theorem raises_itemByItem (schemas items : List Tree) :
    Raises (application.itemByItem schemas items) :=
  raises_gather fun _ => raises_descendTo inner _ _ _

/-- The violations of alternatives are raised too. -/
theorem raised_of_tryAlternatives {schemas : List Tree} {before found : List Violation}
    {rest : List Tree} (sofar : ∀ violation ∈ before, Raised violation)
    (tries : application.tryAlternatives schemas before = .ok (found, rest)) :
    ∀ violation ∈ found, Raised violation := by
  induction schemas generalizing before with
  | nil =>
    cases tries
    exact sofar
  | cons schema schemas ih =>
    obtain ⟨violations, descends, tries⟩ := bind_eq_ok_iff.mp tries
    split at tries
    · cases tries
      exact sofar
    · refine ih (fun violation member => ?_) tries
      rcases List.mem_append.mp member with here | new
      · exact sofar violation here
      · exact inner _ _ violations descends violation new

section Other

variable (keyword : application.keyword ≠ "required")
include keyword

omit inner in
theorem raised_own (message : String) : Raised (application.own message []) :=
  .other keyword fun _ member => (List.not_mem_nil member).elim

omit inner in
theorem raises_own (message : String) : Raises (.ok [application.own message []]) :=
  raises_one (raised_own keyword message)

omit inner in
theorem raises_withAbsent (entries : List (String × Tree)) (name : String) (names : List Tree) :
    Raises (application.withAbsent entries name names) := by
  refine raises_bind fun missing _ => raises_ok fun violation member => ?_
  obtain ⟨absent, _, rfl⟩ := List.mem_map.mp member
  exact raised_own keyword _

/-- What the keywords about properties find. -/
theorem raises_properties (entries : List (String × Tree)) :
    Raises (application.properties entries) := by
  unfold properties
  dsimp only
  split
  · refine raises_gather fun (name, schema) => ?_
    dsimp only
    split
    · exact raises_descendTo inner _ _ _
    · exact raises_nil
  · exact raises_gather fun _ => raises_gather fun _ => raises_bind fun _ _ =>
      raises_ite (raises_descendTo inner _ _ _) raises_nil
  · exact raises_bind fun extras _ =>
      raises_ite (raises_gather fun _ => raises_descendTo inner _ _ _)
        (raises_ite raises_nil (raises_own keyword _))
  · exact raises_bind fun evaluated _ => raises_bind fun wrong _ =>
      raises_ite raises_nil (raises_own keyword _)
  · exact raises_gather fun _ => inner _ _
  · refine raises_gather fun (name, dependency) => raises_ite raises_nil ?_
    dsimp only
    split
    · exact raises_withAbsent keyword _ _ _
    · exact raises_withAbsent keyword _ _ _
    · exact raises_descend inner _
  · exact raises_gather fun _ =>
      raises_ite raises_nil (raises_bind fun _ _ => raises_withAbsent keyword _ _ _)
  · exact raises_gather fun _ => raises_ite raises_nil (raises_descend inner _)
  · exact raises_nil

/-- What the keywords about items find. -/
theorem raises_items (items : List Tree) : Raises (application.items items) := by
  unfold Application.items
  dsimp only
  split
  · split
    · exact raises_itemByItem inner _ _
    · refine raises_ite ?_ (raises_eachItem inner _ _ _)
      split
      · exact raises_nil
      · exact raises_own keyword _
      · exact raises_own keyword _
    · refine raises_ite ?_ (raises_eachItem inner _ _ _)
      split
      · exact raises_nil
      · exact raises_own keyword _
      · exact raises_own keyword _
    · exact raises_eachItem inner _ _ _
  · split
    · exact raises_itemByItem inner _ _
    · exact raises_nil
  · split
    · exact raises_ite (raises_eachItem inner _ _ _)
        (raises_ite raises_nil (raises_own keyword _))
    · exact raises_nil
  · split <;> refine raises_bind fun least _ => ?_ <;> split <;>
      exact raises_bind fun most _ => raises_bind fun fitting _ =>
        raises_ite (raises_own keyword _)
          (raises_ite (raises_ite (raises_own keyword _) (raises_own keyword _)) raises_nil)
  · exact raises_nil

/-- What the keywords about several schemas find. -/
theorem raises_combination : Raises application.combination := by
  have alternatives {schemas : List Tree} {found : List Violation} {rest : List Tree}
      (tries : application.tryAlternatives schemas [] = .ok (found, rest)) :
      Raises (.ok [application.own application.noAlternative found]) :=
    raises_one (.other keyword (raised_of_tryAlternatives inner
      (fun _ member => (List.not_mem_nil member).elim) tries))
  unfold combination
  dsimp only
  split
  · split
    · exact raises_bind fun _ _ => inner _ _
    · exact raises_nil
  · split
    · exact raises_bind fun _ _ => inner _ _
    · exact raises_nil
  · exact raises_bind fun _ _ => raises_gather fun _ => raises_descend inner _
  · refine raises_bind fun schemas _ => raises_bind fun outcome tries => ?_
    obtain ⟨found, _ | ⟨first, rest⟩⟩ := outcome
    · exact alternatives tries
    · exact raises_nil
  · refine raises_bind fun schemas _ => raises_bind fun outcome tries => ?_
    obtain ⟨found, _ | ⟨first, rest⟩⟩ := outcome
    · exact alternatives tries
    · exact raises_bind fun others _ => raises_ite raises_nil (raises_own keyword _)
  · exact raises_bind fun _ _ => raises_ite (raises_own keyword _) raises_nil
  · refine raises_bind fun accepts _ => ?_
    split
    · exact raises_descend inner _
    · exact raises_nil
  · exact raises_nil

end Other

/-- **What a keyword finds is raised**, if what it finds in schemas inside is. -/
theorem raises_violations : Raises application.violations := by
  have other {keywords : List String} (among : keywords.contains application.keyword = true)
      (absent : keywords.contains "required" = false) : application.keyword ≠ "required" :=
    fun required => Bool.noConfusion ((required ▸ among).symm.trans absent)
  unfold violations
  refine raises_ite raises_nil ?_
  split
  case isTrue among => exact raises_combination inner (other among (by decide +kernel))
  case isFalse =>
    split
    case isTrue among =>
      split
      · exact raises_properties inner (other among (by decide +kernel)) _
      · exact raises_nil
    case isFalse =>
      split
      case isTrue among =>
        split
        · exact raises_items inner (other among (by decide +kernel)) _
        · exact raises_nil
      case isFalse => exact raises_alone

end Inner

end Application

/-! ## Validations -/

/-- Whatever a validation finds is raised, by induction on the nesting of schemas. -/
theorem validateWithin_raises (frame : Frame) (nesting : Nat) (located : Located)
    (subject : Tree) : Raises (validateWithin frame nesting located subject) := by
  induction nesting generalizing located subject with
  | zero => exact raises_error _
  | succ nesting ih =>
    rw [validateWithin]
    split
    · exact raises_nil
    · exact raises_one (.nothing _ _)
    · exact raises_gather fun _ => Application.raises_violations ih
    · exact raises_error _

/-- **Whatever a validation finds is raised.** -/
theorem raised_of_validate {frame : Frame} {located : Located} {subject : Tree}
    {violations : List Violation} (given : validate frame located subject = .ok violations) :
    ∀ violation ∈ violations, Raised violation :=
  validateWithin_raises _ _ _ _ violations given

end ApiAdmission.Schema
