import ApiAdmission.Report.Counters
import ApiAdmission.Source.Walk
import ApiAdmission.Validation.Text

/-!
# Runs over many documents

A run takes sources one after the other and threads the counts through them.  A source that the file
system refuses gets a report of its own and the run goes on; a breakdown ends the run, and the
reports before it stand.
-/

namespace ApiAdmission.Batch

set_option autoImplicit false

/-- A report of a run with the counts after it. -/
structure Step where
  /-- The report. -/
  report : Report
  /-- The counts, this report included. -/
  counters : Counters
deriving DecidableEq, Repr

/-- How a run stands: what it can still observe, and what it has counted. -/
structure State where
  /-- What the run can still observe. -/
  world : World
  /-- The counts so far. -/
  counters : Counters

/-- The report about a source that cannot be read. -/
def unreadableReport (level : Level) (source : Source) (refusal : Refusal) : Report where
  source := source.name
  title := none
  family := .unknown
  level := level.number
  diagnostics :=
    [Diagnostic.blocking .inputFailure
      ("unable to read " ++ source.name ++ ": " ++ refusal.message)]
  verdict := .invalid

/-- The report about a source whose reading gave a text or broke down. -/
def reportOn (resolver : Resolver) (rules : List Rule) (level : Level) (source : Source) :
    Except Breakdown String → Consultation Report
  | .ok text => validateText resolver rules level text source.location (some source.name)
  | .error (.refused refusal) => pure (unreadableReport level source refusal)
  | .error breakdown => throw (.breakdown breakdown)

/-- Takes one source. -/
def takeSource (resolver : Resolver) (rules : List Rule) (level : Level) (source : Source)
    (state : State) : Consultation (Step × State) := do
  let (text, world) := source.read state.world
  let report ← reportOn resolver rules level source text
  let counters := state.counters.record report
  return (⟨report, counters⟩, ⟨world, counters⟩)

/-- The outcome of a run. -/
structure Outcome where
  /-- The reports, in order, with the counts after each. -/
  steps : List Step
  /-- What ended the run early, if anything did. -/
  failure : Option Failure
  /-- How the run stands at its end. -/
  state : State
  /-- The calls of the resolver, in order. -/
  calls : List Call

/-- Takes sources with the level of each, in order. -/
def takeAll (resolver : Resolver) (rules : List Rule) :
    List (Source × Except Breakdown Level) → State → Outcome
  | [], state => ⟨[], none, state, []⟩
  | (source, level) :: rest, state =>
    let work : Consultation (Step × State) := do
      takeSource resolver rules (← Consultation.ofBreakdown level) source state
    match work.start with
    | (.error failure, calls) => ⟨[], some failure, state, calls⟩
    | (.ok (step, state), calls) =>
      let outcome := takeAll resolver rules rest state
      { outcome with steps := step :: outcome.steps, calls := calls ++ outcome.calls }

/-- An outcome whose sources end in a breakdown. -/
def Outcome.endedBy (outcome : Outcome) (breakdown : Option Breakdown) : Outcome :=
  { outcome with failure := outcome.failure.or (breakdown.map .breakdown) }

/-- Takes sources at one level. -/
def run (resolver : Resolver) (rules : List Rule) (level : Level) (sources : List Source)
    (world : World) : Outcome :=
  takeAll resolver rules (sources.map fun source => (source, .ok level)) ⟨world, .zero⟩

/-- Takes the sources that a target names, at one level. -/
def runTarget (resolver : Resolver) (rules : List Rule) (level : Level) (target : String)
    (excluded : List String) (world : World) : Outcome :=
  let (sources, breakdown) := Source.ofTarget world target excluded
  (run resolver rules level sources world).endedBy breakdown

end ApiAdmission.Batch
