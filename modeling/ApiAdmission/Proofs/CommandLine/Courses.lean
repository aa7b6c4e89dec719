import ApiAdmission.Proofs.Batch.Counting
import ApiAdmission.Proofs.CommandLine.Sessions

/-!
# What a check goes through

A check takes its settings, opens its directories, names the sources of its target and takes them
one after the other.  Where all this comes to an end the check has a course, and the course has
reports and counts (`Check.Completes`).  Printing apart, nothing else keeps a check from ending with
an exit code (`runCheck_gives_iff`).
-/

namespace ApiAdmission.CommandLine

set_option autoImplicit false

open Session

/-- What a check goes through: its settings, the worlds in which its directories exist, and the
sources of its target. -/
structure Course where
  settings : Settings
  settled : World
  opened : World
  sources : List Source

namespace Course

/-- What the run over the sources comes to. -/
def outcome (course : Course) : Batch.Outcome :=
  Batch.run (.standard ((Loader.ofSettings course.settings).surroundings course.opened 0))
    standardRules course.settings.level course.sources course.opened

def reports (course : Course) : List Report := course.outcome.steps.map Batch.Step.report

def counters (course : Course) : Counters := course.outcome.state.counters

/-- The messages about progress. -/
def progress (course : Course) (console : Console) : Except Breakdown (List Printed) :=
  course.sources.mapM fun source => console.progress ("Validating " ++ source.name)

/-- The console of the course of a check. -/
def console (course : Course) (check : Check) : Console :=
  check.console course.settled course.settings.format

/-- What the course says about itself: the detail about its settings, and its progress. -/
def messages (course : Course) (console : Console) : Except Breakdown (List Printed) := do
  return (← console.detail (settingsDetail course.settings)) :: (← course.progress console)

end Course

/-- What a console prints at the end of a run. -/
def closing (console : Console) (course : Course) : Except Breakdown Printed :=
  if console.layout == .json then Console.wholeRun course.reports course.counters
  else .ok (console.summary course.counters)

/-- The world in which the shelf exists, if documents are kept. -/
def shelved (settings : Settings) (world : World) : Except Breakdown World :=
  if settings.cache.enabled then world.openShelf else .ok world

/-- What follows when the sources are known. -/
def Course.session (course : Course) (breakdown : Option Breakdown) (console : Console) :
    Session Int := do
  for source in begun course.sources course.outcome do
    printChecked (console.progress ("Validating " ++ source.name))
  for report in course.reports do
    printChecked (console.report report)
  if let some failure := (course.outcome.endedBy breakdown).failure then throw failure
  printChecked (closing console course)
  return exitCodeOf course.counters

theorem checkWith_eq (world : World) (console : Console) (settings : Settings) (target : String) :
    checkWith world console settings target = (do
      let opened ← orBreakDown (shelved settings world)
      let (sources, breakdown) := Source.ofTarget opened target settings.excluded
      Course.session ⟨settings, world, opened, sources⟩ breakdown console) := by
  unfold checkWith shelved Course.session closing
  by_cases keeping : settings.cache.enabled = true <;>
    by_cases json : (console.layout == .json) = true <;>
    simp only [keeping, json, if_true, Bool.false_eq_true, if_false] <;> rfl

theorem Course.begun_eq {course : Course} (completes : course.outcome.failure = none) :
    begun course.sources course.outcome = course.sources := by
  obtain ⟨length, -⟩ := Batch.takeAll_of_completes course.sources ⟨course.opened, .zero⟩ completes
  unfold begun
  rw [completes]
  exact List.take_of_length_le (Nat.le_of_eq (by exact length.symm))

/-- **When the session of a course gives a value.**  The target has named its sources without a
breakdown, each of them has its report, and everything can be printed. -/
theorem Course.session_gives_iff {course : Course} {breakdown : Option Breakdown}
    {console : Console} {before after : Standing} {code : Int} :
    (course.session breakdown console).Gives before code after ↔
      breakdown = none ∧ course.outcome.failure = none ∧ ∃ progress printed final,
        course.progress console = .ok progress ∧
        course.reports.mapM console.report = .ok printed ∧ closing console course = .ok final ∧
        after = before.printing (progress ++ printed ++ [final]) ∧
        code = exitCodeOf course.counters := by
  unfold Course.session
  cases ended : (course.outcome.endedBy breakdown).failure with
  | some failure =>
    refine iff_of_false ?_ ?_
    · simp only [gives_bind_iff, not_gives_throw]
      simp
    · rintro ⟨rfl, completes, -⟩
      rw [Batch.Outcome.endedBy, completes] at ended
      cases ended
  | none =>
    obtain ⟨completes, unbroken⟩ : course.outcome.failure = none ∧ breakdown = none := by
      rw [Batch.Outcome.endedBy] at ended
      obtain ⟨completes, none⟩ := Option.or_eq_none_iff.mp ended
      exact ⟨completes, Option.map_eq_none_iff.mp none⟩
    simp only [course.begun_eq completes, gives_bind_iff, gives_loop_iff, gives_printChecked_iff,
      gives_pure_iff]
    constructor
    · rintro ⟨_, _, ⟨progress, shown, rfl⟩, _, _, ⟨printed, told, rfl⟩, _, _,
        ⟨final, closes, rfl⟩, rfl, rfl⟩
      refine ⟨unbroken, completes, progress, printed, final, shown, told, closes, ?_, rfl⟩
      rw [Standing.printing_append, Standing.printing_append]
    · rintro ⟨-, -, progress, printed, final, shown, told, closes, rfl, rfl⟩
      refine ⟨⟨⟩, _, ⟨progress, shown, rfl⟩, ⟨⟩, _, ⟨printed, told, rfl⟩, (), _,
        ⟨final, closes, rfl⟩, rfl, ?_⟩
      rw [Standing.printing_append, Standing.printing_append]

/-- **A check completes its loop.**  There are settings, the shelf exists if documents are kept, the
target names all its sources, each of them gets its report, and the messages about the run can be
printed. -/
structure Check.Completes (world : World) (check : Check) (course : Course) : Prop where
  resolves : resolveSettings world check.overrides = .ok (course.settings, course.settled)
  opens : shelved course.settings course.settled = .ok course.opened
  names : Source.ofTarget course.opened check.target course.settings.excluded =
    (course.sources, none)
  answers : course.outcome.failure = none
  tells : ∃ messages, course.messages (course.console check) = .ok messages

/-- **When a check with settings ends with an exit code.**  It completes its loop, and its reports
and what closes them can be printed. -/
theorem runCheck_gives_iff {world settled : World} {check : Check} {settings : Settings}
    (resolves : resolveSettings world check.overrides = .ok (settings, settled))
    {before after : Standing} {code : Int} :
    (runCheck world check).Gives before code after ↔
      ∃ course messages printed final, check.Completes world course ∧
        course.messages (course.console check) = .ok messages ∧
        course.reports.mapM (course.console check).report = .ok printed ∧
        closing (course.console check) course = .ok final ∧
        after = { before with console := course.console check }.printing
          (messages ++ printed ++ [final]) ∧
        code = exitCodeOf course.counters := by
  unfold runCheck
  simp only [resolves, checkWith_eq, gives_bind_iff, gives_useConsole_iff, gives_printChecked_iff,
    gives_orBreakDown_iff, Course.session_gives_iff]
  constructor
  · rintro ⟨_, _, rfl, _, _, ⟨detail, detailed, rfl⟩, opened, _, ⟨opens, rfl⟩, none, completes,
      progress, printed, final, shown, told, closes, rfl, rfl⟩
    let course : Course :=
      ⟨settings, settled, opened, (Source.ofTarget opened check.target settings.excluded).1⟩
    have tells : course.messages (course.console check) = .ok (detail :: progress) :=
      bind_eq_ok_iff.mpr ⟨detail, detailed, bind_eq_ok_iff.mpr ⟨progress, shown, rfl⟩⟩
    refine ⟨course, detail :: progress, printed, final,
      ⟨resolves, opens, Prod.ext rfl none, completes, _, tells⟩, tells, told, closes, ?_, rfl⟩
    rw [← Standing.printing_append]
    rfl
  · rintro ⟨course, _, printed, final, completes, tells, told, closes, rfl, rfl⟩
    obtain ⟨same, opens, names, answers, -⟩ := completes
    obtain ⟨courseSettings, courseSettled, opened, sources⟩ := course
    cases resolves.symm.trans same
    obtain ⟨detail, detailed, given⟩ := bind_eq_ok_iff.mp tells
    obtain ⟨progress, shown, given⟩ := bind_eq_ok_iff.mp given
    cases given
    refine ⟨(), _, rfl, (), _, ⟨detail, detailed, rfl⟩, opened, _, ⟨opens, rfl⟩, ?_⟩
    rw [names]
    refine ⟨rfl, answers, progress, printed, final, shown, told, closes, ?_, rfl⟩
    rw [← Standing.printing_append]
    rfl

end ApiAdmission.CommandLine
