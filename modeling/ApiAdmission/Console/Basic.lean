import ApiAdmission.Console.Printed
import ApiAdmission.Console.Table
import ApiAdmission.Json.Writer
import ApiAdmission.Markup.Render
import ApiAdmission.Report.Record
import ApiAdmission.Settings.Basic
import ApiAdmission.World.Basic

/-!
# The console

A console prints reports in one of three layouts.  The plain layout prints the lines of a report and
one line for the counts; the rich layout prints the same with markup, and the counts as a table; the
JSON layout prints nothing but one document for the whole run.  Where colours are switched off,
messages about the run itself are plain text; otherwise they are markup too.
-/

namespace ApiAdmission

set_option autoImplicit false

/-- A layout of reports. -/
inductive Layout where
  | json
  | plain
  | rich
deriving DecidableEq, Repr

/-- The name of a layout. -/
def Layout.name : Layout → String
  | .json => "json"
  | .plain => "plain"
  | .rich => "rich"

/-- What is asked of a console. -/
structure ConsoleRequest where
  /-- How reports are to be printed. -/
  format : OutputFormat
  /-- Whether colours are to be switched off. -/
  noColour : Bool
  /-- Whether messages about progress are to be left out. -/
  quiet : Bool
  /-- Whether details about the run are to be printed. -/
  verbose : Bool
deriving DecidableEq, Repr

/-- What is asked of a console where nothing is said. -/
def ConsoleRequest.default : ConsoleRequest := ⟨.auto, false, false, false⟩

/-- A console. -/
structure Console where
  /-- How reports are laid out. -/
  layout : Layout
  /-- Whether messages about the run are markup. -/
  coloured : Bool
  /-- Whether the standard output is a terminal. -/
  terminal : Bool
  /-- Whether messages about progress are left out. -/
  quiet : Bool
  /-- Whether details about the run are printed. -/
  verbose : Bool
deriving DecidableEq, Repr

/-- Whether the environment switches colours off. -/
def World.forbidsColour (world : World) : Bool :=
  (world.environmentValue? "NO_COLOR").isSome || world.environmentValue? "TERM" == some "dumb"

/-- The layout for a format: the terminal decides where the format leaves it open. -/
def Layout.ofFormat (format : OutputFormat) (terminal coloured : Bool) : Layout :=
  match format with
  | .json => .json
  | .plain => .plain
  | .rich => .rich
  | .auto => if terminal && coloured then .rich else .plain

/-! ## Markup of reports -/

/-- Markup inside a style. -/
def styled (style markup : String) : String := "[" ++ style ++ "]" ++ markup ++ "[/" ++ style ++ "]"

/-- The style of a severity. -/
def Severity.style : Severity → String
  | .info => "cyan"
  | .warning => "yellow"
  | .error => "red"

/-- The style of a verdict. -/
def Verdict.style : Verdict → String
  | .valid => "bold green"
  | .validWithWarnings => "bold yellow"
  | .malformed | .invalid => "bold red"

namespace Report

/-- The markup of a finding with its number. -/
def findingMarkup (number : Nat) (diagnostic : Diagnostic) : String :=
  toString number ++ ". " ++ styled diagnostic.severity.style diagnostic.severity.capitalName ++
    " " ++ styled "bold" diagnostic.code.name ++ ": " ++ Markup.escape diagnostic.message

/-- The markup of findings, numbered from a number on. -/
def findingMarkups : Nat → List Diagnostic → List String
  | _, [] => []
  | number, diagnostic :: rest =>
    findingMarkup number diagnostic :: findingMarkups (number + 1) rest

/-- The lines of a report as markup. -/
def markups (report : Report) : Except Breakdown (List String) := do
  let acceptance ← report.acceptanceLine
  return [styled "bold" (Markup.escape report.openingLine)] ++
    (if report.tellsSource then [styled "dim" (Markup.escape report.source)] else []) ++
    findingMarkups 1 report.diagnostics ++
    [styled report.verdict.style (Markup.escape report.verdictLine)] ++
    (acceptance.toList.map fun line => styled "green" (Markup.escape line)) ++
    [styled "bold" (Markup.escape report.closingLine)]

end Report

/-- The counts as a table. -/
def Counters.table (counters : Counters) : Console.Table where
  title := "Summary"
  headers := ["Processed", "Successful", "Failed", "Malformed", "Partially passed"]
  rows := [[counters.total, counters.succeeded, counters.failed, counters.malformed,
    counters.partiallyPassed].map toString]

namespace Console

/-- The console that a request asks for. -/
def ofRequest (world : World) (request : ConsoleRequest) : Console :=
  let coloured := !(request.noColour || world.forbidsColour)
  ⟨.ofFormat request.format world.terminal coloured, coloured, world.terminal, request.quiet,
    request.verbose⟩

/-! ## The run itself -/

/-- Prints a report. -/
def report (console : Console) (report : Report) : Except Breakdown Printed :=
  match console.layout with
  | .json => .ok .nothing
  | .plain => do return .linesToOutput (← report.lines)
  | .rich => do return .linesToOutput (← (← report.markups).mapM Markup.render)

/-- Prints the counts. -/
def summary (console : Console) (counters : Counters) : Printed :=
  match console.layout with
  | .json => .nothing
  | .plain => .toOutput counters.summaryLine
  | .rich => .linesToOutput counters.table.lines

/-- Prints a value. -/
def value (tree : Tree) : Printed := .toOutput (Json.write tree)

/-- Prints the reports of a run and their counts as one document. -/
def wholeRun (reports : List Report) (counters : Counters) : Except Breakdown Printed := do
  return value (← runToTree reports counters)

/-! ## Messages about the run -/

/-- Prints plain text or markup to the standard error, as the console has it. -/
def message (console : Console) (plain markup : String) : Except Breakdown Printed :=
  if console.coloured then do return .toErrors (← Markup.render markup)
  else .ok (.toErrors plain)

/-- Prints what has gone wrong; the message may hold markup. -/
def error (console : Console) (text : String) : Except Breakdown Printed :=
  console.message ("Error: " ++ text) (styled "bold red" "Error:" ++ " " ++ text)

/-- Prints a detail about the run, if details are wanted. -/
def detail (console : Console) (text : String) : Except Breakdown Printed :=
  if console.verbose then
    console.message ("[debug] " ++ text) (styled "dim" ("[debug] " ++ Markup.escape text))
  else .ok .nothing

/-- Prints a message about progress, for someone who watches and has not asked for quiet. -/
def progress (console : Console) (text : String) : Except Breakdown Printed :=
  if !console.quiet && console.terminal then
    console.message text (styled "dim" (Markup.escape text))
  else .ok .nothing

end Console

end ApiAdmission
