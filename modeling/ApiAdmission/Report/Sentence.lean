import ApiAdmission.Report.Basic
import ApiAdmission.Text.Search

/-!
# Reports as text

A report is told in lines: an opening marker with the name of the document, its source where that is
not the name, the findings with their numbers, the sentence for the verdict, the sentence about
acceptance for an accepted document, and a closing marker.
-/

namespace ApiAdmission

set_option autoImplicit false

/-- A sentence with the label of a family filled in. -/
def fillLabel (family : Family) (sentence : String) : String :=
  Text.replaceAll "\x7blabel\x7d" family.label sentence

/-- The sentence for a verdict, with a place for the label of the family. -/
def Verdict.sentence : Verdict → String
  | .valid => "\x7blabel\x7d file is valid"
  | .validWithWarnings =>
    "\x7blabel\x7d passed with errors, using it may lead to functionality issues"
  | .malformed => "Malformed \x7blabel\x7d, please fix the listed issues before proceeding"
  | .invalid => "Invalid \x7blabel\x7d definition, it cannot be imported"

/-- The name of a severity in lines. -/
def Severity.capitalName : Severity → String
  | .info => "INFO"
  | .warning => "WARNING"
  | .error => "ERROR"

namespace Report

/-- The sentence for the verdict of a report. -/
def verdictLine (report : Report) : String :=
  fillLabel report.family report.verdict.sentence

/-- The sentence about acceptance, if the document is accepted; the level must be a known one. -/
def acceptanceLine (report : Report) : Except Breakdown (Option String) :=
  if report.accepted then do
    let level ← Level.ofNumber report.level
    return some (fillLabel report.family level.acceptance)
  else .ok none

/-- What a report calls its document: the title, or the source when there is none. -/
def name (report : Report) : String :=
  match report.title with
  | none | some "" => report.source
  | some title => title

/-- The dashes at both ends of a marker. -/
def dashes : String := String.ofList (List.replicate 16 '-')

/-- A marker line. -/
def marker (report : Report) (event : String) : String :=
  dashes ++ " Parsing " ++ event ++ " " ++ report.family.label ++ " \"" ++ report.name ++ "\" " ++
    dashes

/-- The opening marker. -/
def openingLine (report : Report) : String := report.marker "Started"

/-- The closing marker. -/
def closingLine (report : Report) : String := report.marker "Complete"

/-- Whether the source is told apart from the name. -/
def tellsSource (report : Report) : Bool := report.source != report.name

/-- The line of a finding with its number. -/
def findingLine (number : Nat) (diagnostic : Diagnostic) : String :=
  toString number ++ ". " ++ diagnostic.severity.capitalName ++ " " ++ diagnostic.code.name ++
    ": " ++ diagnostic.message

/-- The lines of findings, numbered from a number on. -/
def findingLines : Nat → List Diagnostic → List String
  | _, [] => []
  | number, diagnostic :: rest => findingLine number diagnostic :: findingLines (number + 1) rest

/-- The lines of a report. -/
def lines (report : Report) : Except Breakdown (List String) := do
  let acceptance ← report.acceptanceLine
  return [report.openingLine] ++
    (if report.tellsSource then ["Source: " ++ report.source] else []) ++
    findingLines 1 report.diagnostics ++ [report.verdictLine] ++ acceptance.toList ++
    [report.closingLine]

end Report

end ApiAdmission
