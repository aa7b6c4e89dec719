import ApiAdmission.Family
import ApiAdmission.Level

/-!
# Reports

A report says everything that is known about one document after validation.  Its verdict and its
level decide whether the gateway accepts the document: a valid one always, one with warnings only
below the highest level.
-/

namespace ApiAdmission

set_option autoImplicit false

/-- The outcome of validating one document. -/
inductive Verdict where
  | valid
  | validWithWarnings
  | malformed
  | invalid
deriving DecidableEq, Repr

namespace Verdict

/-- All verdicts. -/
def all : List Verdict := [.valid, .validWithWarnings, .malformed, .invalid]

/-- The name of a verdict. -/
def name : Verdict → String
  | .valid => "valid"
  | .validWithWarnings => "valid_with_warnings"
  | .malformed => "malformed"
  | .invalid => "invalid"

/-- The verdict with a given name. -/
def ofName? (name : String) : Option Verdict :=
  all.find? fun verdict => verdict.name == name

end Verdict

/-- The name of a document that is given as a text. -/
def inlineName : String := "<inline>"

/-- Everything known about one document after validation. -/
structure Report where
  /-- What the document is called. -/
  source : String
  /-- Its title. -/
  title : Option String
  /-- Its family. -/
  family : Family
  /-- The number of the level of validation. -/
  level : Int
  /-- The findings, in order. -/
  diagnostics : List Diagnostic
  /-- The outcome. -/
  verdict : Verdict
deriving DecidableEq, Repr

namespace Report

/-- The findings that block the document. -/
def blocking (report : Report) : List Diagnostic :=
  report.diagnostics.filter Diagnostic.isBlocking

/-- Whether the gateway accepts the document at the level of the report. -/
def accepted (report : Report) : Bool :=
  match report.verdict with
  | .valid => true
  | .validWithWarnings => decide (report.level < Level.full.number)
  | .malformed | .invalid => false

end Report

end ApiAdmission
