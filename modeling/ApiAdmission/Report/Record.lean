import ApiAdmission.Record.Field
import ApiAdmission.Report.Counters
import ApiAdmission.Report.Sentence

/-!
# Reports as records

Findings, reports and counts are read from mappings and written to them.  A written report also
tells whether the document is accepted, and in what words.
-/

namespace ApiAdmission

set_option autoImplicit false

open Record

/-- All families, in the order in which they are listed to a reader. -/
def Family.named : FieldReader Family := readNamed Family.all Family.name

/-- Reads a finding. -/
def Diagnostic.ofEntries (entries : List (String × Tree)) : Checked Diagnostic :=
  let code := requiredField entries "code" (readNamed Code.all Code.name)
  let severity := requiredField entries "severity" (readNamed Severity.all Severity.name)
  let message := requiredField entries "message" readText
  let source := optionalField entries "source" .parser (readNamed Origin.all Origin.name)
  code.map Diagnostic.mk |> Checked.fill severity |> Checked.fill message |> Checked.fill source

/-- Reads a report. -/
def Report.ofEntries (entries : List (String × Tree)) : Checked Report :=
  let source := optionalField entries "source" inlineName readText
  let title := optionalField entries "title" none (readOptional readText)
  let family := optionalField entries "family" .unknown Family.named
  let level := optionalField entries "level" Level.full.number readInteger
  let diagnostics := optionalField entries "diagnostics" []
    (readSequence (readRecord "Diagnostic" Diagnostic.ofEntries))
  let verdict := requiredField entries "verdict" (readNamed Verdict.all Verdict.name)
  source.map Report.mk |> Checked.fill title |> Checked.fill family |> Checked.fill level |>
    Checked.fill diagnostics |> Checked.fill verdict

/-- Reads counts. -/
def Counters.ofEntries (entries : List (String × Tree)) : Checked Counters :=
  let count (name : String) : Checked Int := optionalField entries name 0 readInteger
  (count "total_files").map Counters.mk |> Checked.fill (count "succeeded") |>
    Checked.fill (count "failed") |> Checked.fill (count "malformed") |>
    Checked.fill (count "partially_passed")

/-- A finding as a mapping. -/
def Diagnostic.toTree (diagnostic : Diagnostic) : Tree :=
  .mapping [("code", .text diagnostic.code.name), ("severity", .text diagnostic.severity.name),
    ("message", .text diagnostic.message), ("source", .text diagnostic.source.name)]

/-- A text that may be absent, as a value. -/
def textOrNull : Option String → Tree
  | some text => .text text
  | none => .null

/-- A report as a mapping. -/
def Report.toTree (report : Report) : Except Breakdown Tree := do
  let acceptance ← report.acceptanceLine
  return .mapping [("source", .text report.source), ("title", textOrNull report.title),
    ("family", .text report.family.name), ("level", .integer report.level),
    ("diagnostics", .list (report.diagnostics.map Diagnostic.toTree)),
    ("verdict", .text report.verdict.name), ("accepted", .boolean report.accepted),
    ("verdict_line", .text report.verdictLine), ("acceptance_line", textOrNull acceptance)]

/-- Counts as a mapping. -/
def Counters.toTree (counters : Counters) : Tree :=
  .mapping [("total_files", .integer counters.total), ("succeeded", .integer counters.succeeded),
    ("failed", .integer counters.failed), ("malformed", .integer counters.malformed),
    ("partially_passed", .integer counters.partiallyPassed)]

/-- The reports of a run and their counts as a mapping. -/
def runToTree (reports : List Report) (counters : Counters) : Except Breakdown Tree := do
  return .mapping [("reports", .list (← reports.mapM Report.toTree)),
    ("summary", counters.toTree)]

end ApiAdmission
