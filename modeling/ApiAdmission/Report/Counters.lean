import ApiAdmission.Report.Basic

/-!
# Counting reports

A run counts its reports: all of them, the accepted and the rejected ones, and those with the
verdicts malformed and valid with warnings.
-/

namespace ApiAdmission

set_option autoImplicit false

/-- The counts of a run so far. -/
structure Counters where
  /-- The reports. -/
  total : Int
  /-- The accepted ones. -/
  succeeded : Int
  /-- The rejected ones. -/
  failed : Int
  /-- The malformed ones. -/
  malformed : Int
  /-- The ones that are valid with warnings. -/
  partiallyPassed : Int
deriving DecidableEq, Repr

namespace Counters

/-- The counts before any report. -/
def zero : Counters := ⟨0, 0, 0, 0, 0⟩

/-- The counts with one more report. -/
def record (counters : Counters) (report : Report) : Counters where
  total := counters.total + 1
  succeeded := counters.succeeded + (if report.accepted then 1 else 0)
  failed := counters.failed + (if report.accepted then 0 else 1)
  malformed := counters.malformed + (if report.verdict == .malformed then 1 else 0)
  partiallyPassed :=
    counters.partiallyPassed + (if report.verdict == .validWithWarnings then 1 else 0)

/-- Whether a report was rejected. -/
def hasFailures (counters : Counters) : Bool := decide (0 < counters.failed)

/-- The line that sums up a run. -/
def summaryLine (counters : Counters) : String :=
  "Summary --- Total Files Processed: " ++ toString counters.total ++
    ". Total Successful Files Count: " ++ toString counters.succeeded ++
    ". Total Failed Files Count: " ++ toString counters.failed ++
    ". Total Malformed Files Count: " ++ toString counters.malformed ++
    ". Total Partially Passed Files Count: " ++ toString counters.partiallyPassed ++ "."

end Counters

end ApiAdmission
