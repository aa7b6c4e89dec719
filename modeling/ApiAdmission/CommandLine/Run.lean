import ApiAdmission.Batch.Basic
import ApiAdmission.Cache.Directory
import ApiAdmission.Cache.Loader
import ApiAdmission.CommandLine.Arguments
import ApiAdmission.Console.Basic
import ApiAdmission.Fault
import ApiAdmission.Resolver.Standard
import ApiAdmission.Settings.Layer

/-!
# Running the program

A check reads the settings, takes every document that the target names, and prints the reports,
each when it is known or all at the end, as the layout has it.  The exit code tells whether a
document was rejected.  A foreseen fault ends the run with its message; a breakdown leaves a log
and names it. What has been printed before stays printed.
-/

namespace ApiAdmission.CommandLine

set_option autoImplicit false

/-- The version of the program. -/
def versionLine : String := programName ++ " 0.3.0"

/-- How the program is used. -/
def helpLines : List String := [
  "Usage: " ++ programName ++ " [OPTIONS] TARGET [LEVEL]",
  "",
  "Check Swagger 2.0 / OpenAPI 3.x definitions before importing them into an API gateway.",
  "",
  "TARGET  location:<file or directory>, '-' for stdin, or the document text itself.",
  "LEVEL   Validation level: 0 parse only, 1 compatibility, 2 full (default from config).",
  "",
  "--version         Show version and exit.",
  "--json            JSON output format.",
  "--plain           Plain text output.",
  "--no-color        Disable color output.",
  "--quiet, -q       Suppress non-essential output.",
  "--verbose, -v     Enable debug output.",
  "--no-remote-refs  Do not load URLs or external files referenced by $ref.",
  "--exclude, -e     gitignore-style pattern skipped while walking a directory (repeatable).",
  "--help            Show this message and exit."]

/-- The exit code of a run whose command line means nothing. -/
def usageExit : Int := 2

/-- A log that a run leaves. -/
structure Log where
  /-- Where it is written. -/
  path : Path
  /-- What it says. -/
  text : String
deriving DecidableEq, Repr

/-- How a run ends. -/
structure Ending where
  /-- What it has printed. -/
  printed : Printed
  /-- Its exit code. -/
  exitCode : Int
  /-- The log that it leaves. -/
  log : Option Log
deriving DecidableEq, Repr

/-! ## Sessions -/

/-- How a session stands: what it has printed, and the console that it prints errors to. -/
structure Standing where
  /-- What has been printed. -/
  printed : Printed
  /-- The console for errors. -/
  console : Console

/-- A part of a run: it prints, and it may fail. -/
abbrev Session (α : Type) := ExceptT Failure (StateM Standing) α

namespace Session

/-- Prints. -/
def print (printed : Printed) : Session Unit :=
  modify fun standing => { standing with printed := standing.printed.followedBy printed }

/-- Passes on a result that breaks down or not. -/
def orBreakDown {α : Type} : Except Breakdown α → Session α
  | .ok value => pure value
  | .error breakdown => throw (.breakdown breakdown)

/-- Prints unless printing breaks down. -/
def printChecked (printed : Except Breakdown Printed) : Session Unit := do
  print (← orBreakDown printed)

/-- Goes on with another console. -/
def useConsole (console : Console) : Session Unit :=
  modify fun standing => { standing with console := console }

end Session

/-! ## Checks -/

namespace Check

/-- What a check sets over the settings. -/
def overrides (check : Check) : Overrides where
  level := check.level.map Level.number
  format :=
    if check.given.has .json then some OutputFormat.json.name
    else if check.given.has .plain then some OutputFormat.plain.name
    else none
  remote := if check.given.has .noRemote then some false else none
  excluded := check.given.excluded

/-- The console for a check, for a format. -/
def console (check : Check) (world : World) (format : OutputFormat) : Console :=
  .ofRequest world ⟨format, check.given.has .noColour, check.given.has .quiet,
    check.given.has .verbose⟩

end Check

/-- The detail about settings. -/
def settingsDetail (settings : Settings) : String :=
  "Validation level " ++ toString settings.level.number ++ ", remote references " ++
    (if settings.remote.enabled then "enabled" else "disabled")

/-- The exit code for counts. -/
def exitCodeOf (counters : Counters) : Int :=
  if counters.hasFailures then failureExit else 0

/-- The sources that a run has begun with. -/
def begun (sources : List Source) (outcome : Batch.Outcome) : List Source :=
  sources.take (outcome.steps.length + if outcome.failure.isSome then 1 else 0)

/-- Checks the documents of a target with settings. -/
def checkWith (world : World) (console : Console) (settings : Settings) (target : String) :
    Session Int := do
  let world ← if settings.cache.enabled then Session.orBreakDown world.openShelf else pure world
  -- Nothing is kept when a run begins, so the time of its loadings makes no difference.
  let resolver := Resolver.standard ((Loader.ofSettings settings).surroundings world 0)
  let (sources, breakdown) := Source.ofTarget world target settings.excluded
  let outcome := Batch.run resolver standardRules settings.level sources world
  for source in begun sources outcome do
    Session.printChecked (console.progress ("Validating " ++ source.name))
  let reports := outcome.steps.map Batch.Step.report
  for report in reports do
    Session.printChecked (console.report report)
  if let some failure := (outcome.endedBy breakdown).failure then throw failure
  let counters := outcome.state.counters
  if console.layout == .json then Session.printChecked (Console.wholeRun reports counters)
  else Session.print (console.summary counters)
  return exitCodeOf counters

/-- Does a check, and gives the exit code. -/
def runCheck (world : World) (check : Check) : Session Int := do
  match resolveSettings world check.overrides with
  | .error (.breakdown breakdown) => throw (.breakdown breakdown)
  | .error fault =>
    let console := check.console world .auto
    Session.useConsole console
    let fault := Fault.of .settings fault.message none
    Session.printChecked (console.error fault.message)
    return fault.exitCode
  | .ok (settings, world) =>
    let console := check.console world settings.format
    Session.useConsole console
    Session.printChecked (console.detail (settingsDetail settings))
    checkWith world console settings check.target

/-! ## Endings -/

/-- The foreseen fault that a failure is, or its breakdown. -/
def faultOf : Failure → Except Breakdown Fault
  | .unreadable message => .ok (.of .document message none)
  | .badReference message => .ok (.of .reference message none)
  | .badRemoteReference message => .ok (.of .remoteReference message none)
  | .breakdown breakdown => .error breakdown

/-- The path of the log of a run that breaks down at a time. -/
def logPath (world : World) (time : String) : Except Breakdown Path := do
  let (directory, world) ← world.openDirectory .logs
  let logs := directory.child "logs"
  let _ ← world.files.makeDirectories logs
  return logs.child ("crash-" ++ time ++ ".log")

/-- The message about a breakdown whose log is at a path. -/
def breakdownMessage (log : Path) : String := "Unexpected error. Debug log: " ++ log.text

/-- How a run ends that fails at a time; even that can break down. -/
def endFailing (world : World) (time : String) (standing : Standing) (failure : Failure) :
    Except Breakdown Ending := do
  match faultOf failure with
  | .ok fault =>
    let printed ← standing.console.error fault.message
    return ⟨standing.printed.followedBy printed, fault.exitCode, none⟩
  | .error breakdown =>
    let path ← logPath world time
    let printed ← standing.console.error (breakdownMessage path)
    return ⟨standing.printed.followedBy printed, failureExit,
      some ⟨path, breakdown.message?.getD "The run has broken down."⟩⟩

/-- How a check ends that begins at a time. -/
def endCheck (world : World) (time : String) (check : Check) : Except Breakdown Ending :=
  let (outcome, standing) :=
    (runCheck world check).run.run ⟨.nothing, .ofRequest world .default⟩
  match outcome with
  | .ok exitCode => .ok ⟨standing.printed, exitCode, none⟩
  | .error failure => endFailing world time standing failure

/-- How a run with arguments ends that begins at a time. -/
def run (world : World) (time : String) (arguments : List String) : Except Breakdown Ending :=
  match Task.ofArguments arguments with
  | .error fault => .ok ⟨.toErrors fault.message, usageExit, none⟩
  | .ok .version => .ok ⟨.toOutput versionLine, 0, none⟩
  | .ok .help => .ok ⟨.linesToOutput helpLines, 0, none⟩
  | .ok (.check check) => endCheck world time check

end ApiAdmission.CommandLine
