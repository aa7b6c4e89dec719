import ApiAdmission.Proofs.Schema.Unexpected

/-!
# Every violation is described

A violation is told in at least one message, unless it is one of required names whose value has all
of them (`describe_eq_nil_iff`).  A violation of alternatives is told by one that the search for the
most relevant one comes to, at any depth of its context.  So what matters is that a violation of
required names is about a value that lacks one of them, everywhere in the tree of a violation
(`Violation.Sound`): the search stays inside that tree and keeps this (`Violation.Sound.best`).
-/

namespace ApiAdmission.Schema

set_option autoImplicit false

/-- The names that a violation of required names is about: those that its value lacks. -/
def missingNames (violation : Violation) : List Tree :=
  (requiredNames violation.expected).filter fun name => !hasAttribute violation.subject name

/-- The message that an attribute of a value is missing. -/
def missingAttribute (path : List Step) (name : Tree) : String :=
  "attribute " ++ (if placeText path == "" then "" else placeText path ++ ".") ++ name.shown ++
    " is missing"

namespace Violation

/-- A violation of required names is about a value that lacks one of them. -/
def LacksName (violation : Violation) : Prop :=
  violation.keyword = some "required" → missingNames violation ≠ []

/-- In a violation and in those of its alternatives, at any depth, the violations of required names
are about values that lack one of them. -/
inductive Sound : Violation → Prop where
  | intro {violation : Violation} (lacks : violation.LacksName)
      (context : ∀ member ∈ violation.context, Sound member) : Sound violation

variable {violation : Violation} {dialect : Dialect}

theorem Sound.lacks (sound : violation.Sound) : violation.LacksName := by
  cases sound
  assumption

theorem Sound.context (sound : violation.Sound) : ∀ member ∈ violation.context, member.Sound := by
  cases sound
  assumption

/-! ## The search for the most relevant violation -/

@[simp] theorem context_under (steps : List Step) :
    (violation.under steps).context = violation.context := by
  cases violation
  rfl

theorem lacksName_under_iff {steps : List Step} :
    (violation.under steps).LacksName ↔ violation.LacksName := by
  cases violation
  exact Iff.rfl

/-- Where a violation is seen from does not matter. -/
theorem Sound.under (sound : violation.Sound) (steps : List Step) :
    (violation.under steps).Sound :=
  .intro (lacksName_under_iff.mpr sound.lacks) (by simpa using sound.context)

/-- The most relevant violation is one of those that are compared. -/
theorem mostRelevant_mem (dialect : Dialect) (best : Violation) (rest : List Violation) :
    mostRelevant dialect best rest ∈ best :: rest := by
  induction rest generalizing best with
  | nil => exact List.mem_cons_self
  | cons next rest ih =>
    rw [mostRelevant]
    split
    · exact List.mem_cons_of_mem _ (ih next)
    · exact List.mem_cons.mpr ((List.mem_cons.mp (ih best)).imp_right (List.mem_cons_of_mem _))

/-- So is the least relevant one. -/
theorem leastRelevant_mem (dialect : Dialect) (least : Violation) (shared : Bool)
    (rest : List Violation) :
    (leastRelevant dialect (least, shared) rest).1 ∈ least :: rest := by
  induction rest generalizing least shared with
  | nil => exact List.mem_cons_self
  | cons next rest ih =>
    rw [leastRelevant]
    split
    · exact List.mem_cons_of_mem _ (ih next false)
    · exact List.mem_cons.mpr
        ((List.mem_cons.mp (ih least _)).imp_right (List.mem_cons_of_mem _))

/-- Going down keeps the violations of required names sound, by induction on the depth. -/
theorem Sound.narrow (sound : violation.Sound) (depth : Nat) :
    (violation.narrow dialect depth).Sound := by
  induction depth generalizing violation with
  | zero => exact sound
  | succ depth ih =>
    rw [Violation.narrow]
    split
    case h_1 => exact sound
    case h_2 first rest context =>
      dsimp only
      split
      case isTrue => exact sound
      case isFalse =>
        have member := leastRelevant_mem dialect first false rest
        exact ih ((sound.context _ (context ▸ member)).under _)

/-- **The search for the most relevant violation stays inside the alternatives.** -/
theorem Sound.best (sound : violation.Sound) : (violation.best dialect).Sound := by
  unfold Violation.best
  split
  case h_1 => exact sound
  case h_2 first rest context =>
    have member := mostRelevant_mem dialect first rest
    exact ((sound.context _ (context ▸ member)).under _).narrow _

theorem best_of_noContext (alone : violation.context = []) :
    violation.best dialect = violation := by
  rw [Violation.best, alone]

end Violation

/-! ## The messages of a violation -/

section Words

variable {violation : Violation} {dialect : Dialect}

theorem wordsFor_required (keyword : violation.keyword = some "required") :
    wordsFor violation = (missingNames violation).map (missingAttribute violation.path) := by
  rw [wordsFor, keyword]
  rfl

/-- Only a violation of required names can be without words, when no name is missing. -/
theorem wordsFor_eq_nil_iff :
    wordsFor violation = [] ↔
      violation.keyword = some "required" ∧ missingNames violation = [] := by
  by_cases required : violation.keyword = some "required"
  · rw [wordsFor_required required, List.map_eq_nil_iff, and_iff_right required]
  · rw [iff_false_right fun both => required both.1]
    unfold wordsFor
    dsimp only
    split
    · contradiction
    · simpa using unexpectedNames_ne_nil _
    · simpa using unexpectedNames_ne_nil _
    · split <;> simp
    · simp

/-- **Which violations are not described**: those whose most relevant one is of required names that
are all there. -/
theorem describe_eq_nil_iff :
    describe dialect violation = [] ↔
      (violation.best dialect).keyword = some "required" ∧
        missingNames (violation.best dialect) = [] :=
  wordsFor_eq_nil_iff

/-- **A sound violation is described.** -/
theorem Violation.Sound.describe_ne_nil (sound : violation.Sound) :
    describe dialect violation ≠ [] := by
  rw [ne_eq, describe_eq_nil_iff]
  rintro ⟨keyword, none⟩
  exact sound.best.lacks keyword none

/-- A violation of required names, outside of alternatives, is told by the names that are
missing. -/
theorem describe_required (alone : violation.context = [])
    (keyword : violation.keyword = some "required") :
    describe dialect violation =
      (missingNames violation).map (missingAttribute violation.path) := by
  rw [describe, Violation.best_of_noContext alone, wordsFor_required keyword]

end Words

end ApiAdmission.Schema
