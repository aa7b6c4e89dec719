import ApiAdmission.Batch.Basic
import ApiAdmission.Proofs.Validation.Reports
import ApiAdmission.Proofs.World.TextFile
import Mathlib.Data.List.TakeWhile

/-!
# How far a run comes

A run owes every source one report, in order.  It reads the source first, and such an attempt ends
in one of three ways: there is a text, which gets the report of its validation; the file system
refuses, which is reported as a failure of input; or the attempt breaks the run down
(`Attempt.breakdown?`).  Only the last ends the run early.  It happens where a path has a null
character, where bytes are no UTF-8, and where a text breaks its own reading down.

So a run answers the attempts before the first that breaks it down, and it answers all of them
exactly when none does (`run_completes_iff`).  The resolver has no part in this, as long as it keeps
to its protocol.
-/

namespace ApiAdmission

set_option autoImplicit false

open Consultation

/-! ## Texts that get a report -/

/-- A text that is classified gets a report. -/
theorem exists_report {resolver : Resolver} (keeps : resolver.KeepsProtocol) {text : String}
    {location : Option String} (name : Option String) (level : Level)
    {classified : Document × List Diagnostic} (classifies : classify text location = .ok classified) :
    ∃ report, outcomeAt resolver text location name level = .ok report := by
  obtain ⟨document, blocks⟩ := classified
  cases blocks with
  | cons block blocks => exact ⟨_, outcomeAt_of_blocks resolver name classifies level⟩
  | nil =>
    have known := decidingFamily_ne_unknown resolver ((ApiAdmission.classified classifies).known rfl)
    cases course resolver document with
    | failed failure answer yields =>
      obtain ⟨resolution, given⟩ := keeps.answers _ known document.text document.location
      cases answer.symm.trans given
    | neither resolution answer signalled first second yields =>
      exact ⟨_, outcomeAt_of_document name classifies (yields level)⟩
    | decided resolution answer fitting note noted outcome asked told yields =>
      cases outcome with
      | error failure => cases told.total keeps.reads
      | ok findings =>
        have reported := outcomeAt_of_document name classifies (yields level)
        cases level with
        | parseOnly | compatibility | full => exact ⟨_, reported⟩

namespace Batch

/-! ## Attempts -/

/-- A source with what reading it gave. -/
structure Attempt where
  /-- The source. -/
  source : Source
  /-- Its text, or why there is none. -/
  reading : Except Breakdown String

/-- The attempts of a run: every source is read in the world that the sources before it left. -/
def attempts : List Source → World → List Attempt
  | [], _ => []
  | source :: rest, world =>
    ⟨source, (source.read world).1⟩ :: attempts rest (source.read world).2

/-- There is one attempt for each source, in order. -/
theorem attempts_sources (sources : List Source) (world : World) :
    (attempts sources world).map Attempt.source = sources := by
  induction sources generalizing world with
  | nil => rfl
  | cons source rest ih => exact congrArg (source :: ·) (ih _)

namespace Attempt

/-- What an attempt breaks the run down with, if it does: a text that breaks its own reading down,
or any cause that there is no text but a refusal of the file system. -/
def breakdown? (attempt : Attempt) : Option Breakdown :=
  match attempt.reading with
  | .ok text =>
    match parseMapping text with
    | .error (.breakdown breakdown) => some breakdown
    | _ => none
  | .error (.refused _) => none
  | .error breakdown => some breakdown

theorem breakdown?_of_text {source : Source} {text : String} {breakdown : Breakdown} :
    breakdown? ⟨source, .ok text⟩ = some breakdown ↔
      parseMapping text = .error (.breakdown breakdown) := by
  cases reads : parseMapping text with
  | ok tree => simp [breakdown?, reads]
  | error fault => cases fault <;> simp [breakdown?, reads]

/-- **Why the attempt at a file breaks down.**  The path has a null character, the bytes are no
UTF-8, or the text breaks its own reading down. -/
theorem breakdown?_file_eq_some {files : FileSystem} {name location : String}
    {breakdown : Breakdown} :
    breakdown? ⟨⟨name, some location, none⟩, files.readText (Path.ofText location)⟩ =
        some breakdown ↔
      ('\x00' ∈ (Path.ofText location).text.toList ∧ breakdown = FileSystem.nullInPath) ∨
      (∃ bytes fault, files.readBytes (Path.ofText location) = .ok bytes ∧
        Utf8.decode bytes = .error fault ∧ breakdown = .undecodable fault) ∨
      ∃ text, files.readText (Path.ofText location) = .ok text ∧
        parseMapping text = .error (.breakdown breakdown) := by
  generalize Path.ofText location = path
  cases accessed : files.readBytes path with
  | error cause =>
    have unread := FileSystem.readText_of_error accessed
    by_cases null : '\x00' ∈ path.text.toList
    · cases accessed.symm.trans (FileSystem.readBytes_of_null null)
      simp [breakdown?, unread, null, FileSystem.nullInPath, eq_comm]
    · obtain ⟨refusal, rfl⟩ := FileSystem.refused_of_readBytes null accessed
      simp [breakdown?, unread, null]
  | ok bytes =>
    have plain : '\x00' ∉ path.text.toList := by
      intro null
      cases accessed.symm.trans (FileSystem.readBytes_of_null null)
    rw [FileSystem.readText_of_bytes accessed]
    cases decoded : Utf8.decode bytes with
    | error fault => simp [breakdown?, plain, decoded, eq_comm]
    | ok characters => simp [breakdown?_of_text, plain, decoded]

end Attempt

/-- What a step owes an attempt, after the counts so far: the report of the text, or a report that
is invalid for one failure of input and counts as failed. -/
structure Owed (resolver : Resolver) (level : Level) (before : Counters) (attempt : Attempt)
    (step : Step) : Prop where
  counted : step.counters = before.record step.report
  of_text : ∀ text, attempt.reading = .ok text →
    outcomeAt resolver text attempt.source.location (some attempt.source.name) level =
      .ok step.report
  of_refusal : ∀ refusal, attempt.reading = .error (.refused refusal) →
    step.report.source = attempt.source.name ∧ step.report.verdict = .invalid ∧
      step.report.diagnostics = [.blocking .inputFailure
        ("unable to read " ++ attempt.source.name ++ ": " ++ refusal.message)] ∧
      step.counters.failed = before.failed + 1

/-- Steps answer attempts one by one and in order, and count on from the counts so far. -/
inductive Answers (resolver : Resolver) (level : Level) :
    Counters → List Attempt → List Step → Prop where
  | nothing (before : Counters) : Answers resolver level before [] []
  | next {before : Counters} {attempt : Attempt} {step : Step} {attempts : List Attempt}
      {steps : List Step} (owed : Owed resolver level before attempt step)
      (rest : Answers resolver level step.counters attempts steps) :
      Answers resolver level before (attempt :: attempts) (step :: steps)

theorem Answers.length_eq {resolver : Resolver} {level : Level} {before : Counters}
    {attempts : List Attempt} {steps : List Step}
    (answers : Answers resolver level before attempts steps) : steps.length = attempts.length := by
  induction answers with
  | nothing before => rfl
  | next _ _ ih => exact congrArg (· + 1) ih

/-! ## A file and a text -/

/-- A world that has at most one file, with the given bytes. -/
def petsWorld (content : Option (List UInt8)) : World where
  files := ⟨.directory (content.map fun bytes => ("pets.yaml", .file bytes)).toList, []⟩
  environment := []
  network := []
  standardInput := ""
  terminal := false
  systemName := "Linux"
  homes := []

/-- The source that is that file. -/
def petsFile : Source := ⟨"pets.yaml", some "pets.yaml", none⟩

theorem entryAt_petsFile (content : Option (List UInt8)) :
    (petsWorld content).files.entryAt (Path.ofText "pets.yaml") =
      match content with
      | some bytes => .ok (.file bytes)
      | none => .error (.refused ⟨.notFound, "pets.yaml"⟩) := by
  have path : Path.ofText "pets.yaml" = ⟨"", ["pets.yaml"]⟩ := by decide +kernel
  have text : (⟨"", ["pets.yaml"]⟩ : Path).text = "pets.yaml" := by decide +kernel
  have size : "pets.yaml".utf8ByteSize = 9 := by decide +kernel
  rw [path]
  cases content <;>
    simp [FileSystem.entryAt, FileSystem.lookup, FileSystem.lookupFrom, FileSystem.startOf, text,
      size, petsWorld, Entry.descend?, Entry.lookup?, pathLimit, longestName, Path.above,
      Path.isAbsolute]

theorem read_petsFile_of_missing :
    (petsFile.read (petsWorld none)).1 = .error (.refused ⟨.notFound, "pets.yaml"⟩) := by
  change (petsWorld none).files.readText (Path.ofText "pets.yaml") = _
  rw [FileSystem.readText, FileSystem.readBytes, entryAt_petsFile]
  rfl

theorem read_petsFile_of_undecodable :
    (petsFile.read (petsWorld (some [0xFF]))).1 =
      .error (.undecodable ⟨0xFF, 0, 1, .invalidStart⟩) := by
  change (petsWorld (some [0xFF])).files.readText (Path.ofText "pets.yaml") = _
  rw [FileSystem.readText, FileSystem.readBytes, entryAt_petsFile]
  rfl

/-! ## One source -/

section OneSource

variable {resolver : Resolver} (level : Level) (source : Source) (state : State)

/-- The outcome of taking a source is the outcome of reporting on it, with the counts after it. -/
theorem takeSource_start :
    (takeSource resolver standardRules level source state).start.1 =
      (reportOn resolver standardRules level source (source.read state.world).1).start.1.map
        fun report => (⟨report, state.counters.record report⟩,
          ⟨(source.read state.world).2, state.counters.record report⟩) :=
  congrArg Prod.fst (start_bind_pure
    (reportOn resolver standardRules level source (source.read state.world).1) _)

/-- An attempt that breaks the run down gets no report. -/
theorem reportOn_of_breakdown {attempt : Attempt} {breakdown : Breakdown}
    (breaks : attempt.breakdown? = some breakdown) :
    (reportOn resolver standardRules level attempt.source attempt.reading).start.1 =
      .error (.breakdown breakdown) := by
  obtain ⟨source, reading⟩ := attempt
  cases reading with
  | ok text =>
    exact outcomeAt_of_breakdown resolver (some source.name)
      (classify_eq_error_iff.mpr (Attempt.breakdown?_of_text.mp breaks)) level
  | error cause =>
    cases cause with
    | refused refusal => cases breaks
    | _ =>
      cases breaks
      rfl

/-- Any other attempt gets the report that it is owed. -/
theorem reportOn_of_answerable (keeps : resolver.KeepsProtocol) {attempt : Attempt}
    (answerable : attempt.breakdown? = none) (before : Counters) :
    ∃ report,
      (reportOn resolver standardRules level attempt.source attempt.reading).start.1 =
        .ok report ∧
      Owed resolver level before attempt ⟨report, before.record report⟩ := by
  obtain ⟨source, reading⟩ := attempt
  cases reading with
  | ok text =>
    cases classifies : classify text source.location with
    | error breakdown =>
      rw [Attempt.breakdown?_of_text.mpr (classify_eq_error_iff.mp classifies)] at answerable
      cases answerable
    | ok pair =>
      obtain ⟨report, reported⟩ := exists_report keeps (some source.name) level classifies
      refine ⟨report, reported, rfl, ?_, nofun⟩
      rintro _ ⟨⟩
      exact reported
  | error breakdown =>
    cases breakdown with
    | refused refusal =>
      refine ⟨unreadableReport level source refusal, rfl, rfl, nofun, ?_⟩
      rintro _ ⟨⟩
      exact ⟨rfl, rfl, rfl, rfl⟩
    | _ => cases answerable

end OneSource

/-! ## All sources -/

section AllSources

variable {resolver : Resolver} {level : Level} {source : Source} {state : State}
  (rest : List Source)

/-- The sources of a run at one level. -/
def atLevel (level : Level) (sources : List Source) : List (Source × Except Breakdown Level) :=
  sources.map fun source => (source, .ok level)

theorem takeAll_cons :
    takeAll resolver standardRules (atLevel level (source :: rest)) state =
      match (takeSource resolver standardRules level source state).start with
      | (.error failure, calls) => ⟨[], some failure, state, calls⟩
      | (.ok (step, next), calls) =>
        let outcome := takeAll resolver standardRules (atLevel level rest) next
        { outcome with steps := step :: outcome.steps, calls := calls ++ outcome.calls } :=
  rfl

/-- A source that fails ends the run before any further step. -/
theorem takeAll_of_error {failure : Failure}
    (fails : (takeSource resolver standardRules level source state).start.1 = .error failure) :
    (takeAll resolver standardRules (atLevel level (source :: rest)) state).steps = [] ∧
      (takeAll resolver standardRules (atLevel level (source :: rest)) state).failure =
        some failure := by
  rw [takeAll_cons]
  generalize (takeSource resolver standardRules level source state).start = start at fails
  obtain ⟨outcome, calls⟩ := start
  cases fails
  exact ⟨rfl, rfl⟩

/-- After the step of a source the run goes on as it would have begun with the other sources. -/
theorem takeAll_of_ok {step : Step} {next : State}
    (takes : (takeSource resolver standardRules level source state).start.1 = .ok (step, next)) :
    (takeAll resolver standardRules (atLevel level (source :: rest)) state).steps =
        step :: (takeAll resolver standardRules (atLevel level rest) next).steps ∧
      (takeAll resolver standardRules (atLevel level (source :: rest)) state).failure =
        (takeAll resolver standardRules (atLevel level rest) next).failure := by
  rw [takeAll_cons]
  generalize (takeSource resolver standardRules level source state).start = start at takes
  obtain ⟨outcome, calls⟩ := start
  cases takes
  exact ⟨rfl, rfl⟩

end AllSources

/-- A run answers the attempts before the first one that breaks it down. -/
theorem takeAll_answers {resolver : Resolver} (keeps : resolver.KeepsProtocol) (level : Level)
    (sources : List Source) (state : State) :
    Answers resolver level state.counters
        ((attempts sources state.world).takeWhile fun attempt => attempt.breakdown?.isNone)
        (takeAll resolver standardRules (atLevel level sources) state).steps ∧
      (takeAll resolver standardRules (atLevel level sources) state).failure =
        ((attempts sources state.world).findSome? Attempt.breakdown?).map .breakdown := by
  induction sources generalizing state with
  | nil => exact ⟨.nothing _, rfl⟩
  | cons source rest ih =>
    rw [attempts, List.takeWhile_cons, List.findSome?_cons]
    cases breaks : Attempt.breakdown? ⟨source, (source.read state.world).1⟩ with
    | some breakdown =>
      have fails : (takeSource resolver standardRules level source state).start.1 =
          .error (.breakdown breakdown) := by
        rw [takeSource_start, reportOn_of_breakdown level breaks]
        rfl
      obtain ⟨steps, failure⟩ := takeAll_of_error rest fails
      rw [steps, failure]
      exact ⟨.nothing _, rfl⟩
    | none =>
      obtain ⟨report, reported, owed⟩ :=
        reportOn_of_answerable level keeps breaks state.counters
      have takes : (takeSource resolver standardRules level source state).start.1 =
          .ok (⟨report, state.counters.record report⟩,
            ⟨(source.read state.world).2, state.counters.record report⟩) := by
        rw [takeSource_start, reported]
        rfl
      obtain ⟨steps, failure⟩ := takeAll_of_ok rest takes
      obtain ⟨answers, ends⟩ := ih ⟨(source.read state.world).2, state.counters.record report⟩
      rw [steps, failure]
      exact ⟨.next owed answers, ends⟩

end Batch

end ApiAdmission
