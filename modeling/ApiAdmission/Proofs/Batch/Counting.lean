import ApiAdmission.Proofs.Batch.Completion
import ApiAdmission.Proofs.Validation.Levels
import Mathlib.Data.List.Forall2
import Mathlib.Data.List.Perm.Basic

/-!
# What a run counts

The report that a text or a file gets depends on nothing but this source and the world: reading
neither of them changes the world, and a report is made without a look at the counts.  So a run that
completes gives every source the report that a run over this source alone would give, and the counts
after a report are those of the reports so far (`Counters.of`), however the run came to them.

The verdicts that a level has to give bound these counts.  Malformed reports are never accepted, and
reports that are valid with warnings are accepted below the highest level only; the lowest level has
none of them.  One more report of the level preserves these bounds (`Counters.Bounded.record`).

What is counted of reports does not depend on their order, so the counts at the end of a run are the
same for every order of the sources (`run_counts`).
-/

namespace ApiAdmission

set_option autoImplicit false

open Consultation

/-! ## The reports of a level -/

/-- What all reports of a level have in common. -/
structure Report.OfLevel (level : Level) (report : Report) : Prop where
  level_eq : report.level = level.number
  /-- The lowest level does not report warnings. -/
  plain : level = .parseOnly → report.verdict ≠ .validWithWarnings

namespace Report.OfLevel

variable {level : Level} {report : Report}

/-- A report that is invalid is of the level that it names. -/
theorem of_invalid (names : report.level = level.number) (invalid : report.verdict = .invalid) :
    report.OfLevel level :=
  ⟨names, fun _ => by simp [invalid]⟩

theorem familyReport (family : Family) (document : Document) (resolution : Resolution)
    (findings : List Diagnostic) :
    (ApiAdmission.familyReport family document level resolution findings).OfLevel level := by
  refine ⟨rfl, ?_⟩
  rintro rfl
  rw [familyReport_verdict, pathViolations_parseOnly, resolverVerdict_parseOnly]
  cases resolution.document <;> exact Verdict.noConfusion

theorem behind (reported : report.OfLevel level) (note : Option Diagnostic) :
    (report.behind note).OfLevel level :=
  ⟨by cases note <;> exact reported.level_eq, by simpa using reported.plain⟩

theorem named (reported : report.OfLevel level) (location name : Option String) :
    (report.named location name).OfLevel level :=
  ⟨reported.level_eq, reported.plain⟩

/-- A report that is valid with warnings is accepted exactly below the highest level. -/
theorem accepted_of_warnings (reported : report.OfLevel level)
    (warned : report.verdict = .validWithWarnings) :
    report.accepted = true ↔ level ≠ .full := by
  rw [Report.accepted, warned, reported.level_eq]
  cases level <;> decide

end Report.OfLevel

/-- Every report about a text is one of the level. -/
theorem ofLevel_of_outcomeAt {resolver : Resolver} {text : String} {location name : Option String}
    {level : Level} {report : Report}
    (reported : outcomeAt resolver text location name level = .ok report) :
    report.OfLevel level := by
  cases classifies : classify text location with
  | error breakdown =>
    rw [outcomeAt_of_breakdown resolver name classifies] at reported
    cases reported
  | ok classified =>
    obtain ⟨document, blocks⟩ := classified
    cases blocks with
    | cons block blocks =>
      rw [outcomeAt_of_blocks resolver name classifies] at reported
      cases reported
      exact .named (.of_invalid rfl rfl) location name
    | nil =>
      cases course resolver document with
      | failed failure answer yields =>
        rw [outcomeAt_of_document name classifies (yields level)] at reported
        cases reported
      | neither resolution answer signalled first second yields =>
        rw [outcomeAt_of_document name classifies (yields level)] at reported
        cases reported
        exact .named (.of_invalid rfl rfl) location name
      | decided resolution answer fitting note noted outcome asked told yields =>
        rw [outcomeAt_of_document name classifies (yields level)] at reported
        cases found : toldAt outcome level with
        | error failure =>
          rw [found] at reported
          cases reported
        | ok findings =>
          rw [found] at reported
          cases reported
          exact .named (.behind (.familyReport _ document resolution findings) note) location name

/-! ## What is counted of reports -/

namespace Counters

/-- What is to be counted of reports. -/
def of (reports : List Report) : Counters where
  total := reports.length
  succeeded := reports.countP (·.accepted)
  failed := reports.countP (!·.accepted)
  malformed := reports.countP (·.verdict == .malformed)
  partiallyPassed := reports.countP (·.verdict == .validWithWarnings)

theorem of_append_singleton (reports : List Report) (report : Report) :
    of (reports ++ [report]) = (of reports).record report := by
  have casts : ∀ counts : Bool, (((if counts then 1 else 0 : Nat)) : Int) =
      if counts then 1 else 0 := by decide
  simp only [of, record, List.length_append, List.countP_append, List.countP_singleton,
    List.length_singleton, Int.natCast_add, casts, Counters.mk.injEq]
  cases report.accepted <;> simp

/-- Recording reports one by one counts them. -/
theorem foldl_record (before reports : List Report) :
    reports.foldl record (of before) = of (before ++ reports) := by
  induction reports generalizing before with
  | nil => rw [List.append_nil, List.foldl_nil]
  | cons report rest ih =>
    rw [List.foldl_cons, ← of_append_singleton, ih, List.append_assoc, List.singleton_append]

theorem of_perm {reports others : List Report} (perm : reports.Perm others) :
    of reports = of others := by
  simp only [of, perm.length_eq, perm.countP_eq]

/-- The bounds that hold of the counts of a run at a level. -/
structure Bounded (level : Level) (counters : Counters) : Prop where
  total : counters.total = counters.succeeded + counters.failed
  full : level = .full → counters.malformed + counters.partiallyPassed ≤ counters.failed
  below : level ≠ .full → counters.malformed ≤ counters.failed ∧
    counters.partiallyPassed ≤ counters.succeeded
  lowest : level = .parseOnly → counters.partiallyPassed = 0

theorem Bounded.zero (level : Level) : Bounded level Counters.zero :=
  ⟨rfl, fun _ => Int.le_refl 0, fun _ => ⟨Int.le_refl 0, Int.le_refl 0⟩, fun _ => rfl⟩

/-- One more report of the level preserves the bounds. -/
theorem Bounded.record {level : Level} {counters : Counters} (bounded : counters.Bounded level)
    {report : Report} (reported : report.OfLevel level) :
    (counters.record report).Bounded level := by
  obtain ⟨total, full, below, lowest⟩ := bounded
  have sum : (counters.record report).total =
      (counters.record report).succeeded + (counters.record report).failed := by
    simp only [Counters.record, total]
    split <;> omega
  cases verdict : report.verdict with
  | valid | malformed | invalid =>
    refine ⟨sum, fun top => ?_, fun lower => ?_, fun bottom => ?_⟩
    · have before := full top
      simp [Counters.record, Report.accepted, verdict]
      omega
    · have before := below lower
      simp [Counters.record, Report.accepted, verdict]
      omega
    · simpa [Counters.record, verdict] using lowest bottom
  | validWithWarnings =>
    have accepted := reported.accepted_of_warnings verdict
    refine ⟨sum, fun top => ?_, fun lower => ?_, fun bottom =>
      absurd verdict (reported.plain bottom)⟩
    · have rejected : report.accepted = false := by simpa [top] using accepted
      have before := full top
      simp [Counters.record, rejected, verdict]
      omega
    · have passed : report.accepted = true := accepted.mpr lower
      have before := below lower
      simp [Counters.record, passed, verdict]
      omega

/-- So do several. -/
theorem Bounded.foldl {level : Level} {counters : Counters} (bounded : counters.Bounded level)
    {reports : List Report} (reported : ∀ report ∈ reports, report.OfLevel level) :
    (reports.foldl Counters.record counters).Bounded level := by
  induction reports generalizing counters with
  | nil => exact bounded
  | cons report rest ih =>
    obtain ⟨first, others⟩ := List.forall_mem_cons.mp reported
    exact ih (bounded.record first) others

end Counters

namespace Batch

/-! ## Sources that leave the world alone -/

/-- A source that is a text or a file, not the standard input. -/
def IsTextOrFile (source : Source) : Prop := source.text.isSome ∨ source.location.isSome

/-- Reading a text or a file leaves the world as it is. -/
theorem read_world {source : Source} (kind : IsTextOrFile source) (world : World) :
    (source.read world).2 = world := by
  obtain ⟨name, location, text⟩ := source
  cases text with
  | some text => rfl
  | none =>
    cases location with
    | some location => rfl
    | none => simp [IsTextOrFile] at kind

/-- The outcome for a source on its own. -/
def outcomeFor (resolver : Resolver) (level : Level) (world : World) (source : Source) :
    Except Failure Report :=
  (reportOn resolver standardRules level source (source.read world).1).start.1

/-- The report about a source is one of the level. -/
theorem ofLevel_of_outcomeFor {resolver : Resolver} {level : Level} {world : World}
    {source : Source} {report : Report}
    (reported : outcomeFor resolver level world source = .ok report) : report.OfLevel level := by
  unfold outcomeFor at reported
  cases reading : (source.read world).1 with
  | ok text =>
    rw [reading] at reported
    exact ofLevel_of_outcomeAt reported
  | error breakdown =>
    rw [reading] at reported
    cases breakdown with
    | refused refusal =>
      cases reported
      exact .of_invalid rfl rfl
    | _ => cases reported

/-- So are the reports about several sources. -/
theorem ofLevel_of_reported {resolver : Resolver} {level : Level} {world : World}
    {sources : List Source} {reports : List Report}
    (reported : List.Forall₂ (fun source report =>
      outcomeFor resolver level world source = .ok report) sources reports) :
    ∀ report ∈ reports, report.OfLevel level := by
  induction reported with
  | nil => exact fun _ member => by cases member
  | cons first _ ih => exact List.forall_mem_cons.mpr ⟨ofLevel_of_outcomeFor first, ih⟩

/-! ## Runs that complete -/

/-- The steps of a run that gives some reports, after the counts so far. -/
def counted (before : Counters) : List Report → List Step
  | [] => []
  | report :: rest => ⟨report, before.record report⟩ :: counted (before.record report) rest

theorem counted_reports (before : Counters) (reports : List Report) :
    (counted before reports).map Step.report = reports := by
  induction reports generalizing before with
  | nil => rfl
  | cons report rest ih => exact congrArg (report :: ·) (ih _)

/-- The counts with a report are those of the reports up to it. -/
theorem counted_counters (before reports : List Report) :
    (counted (.of before) reports).map Step.counters =
      (List.range reports.length).map fun index =>
        Counters.of (before ++ reports.take (index + 1)) := by
  induction reports generalizing before with
  | nil => rfl
  | cons report rest ih =>
    have later := ih (before ++ [report])
    rw [Counters.of_append_singleton] at later
    rw [counted, List.map_cons, later, List.length_cons, List.range_succ_eq_map, List.map_cons,
      List.map_map]
    simp [Function.comp_def, Counters.of_append_singleton]

/-- The counts of every step are within the bounds. -/
theorem counted_bounded {level : Level} {before : Counters} (bounded : before.Bounded level)
    {reports : List Report} (reported : ∀ report ∈ reports, report.OfLevel level) :
    ∀ step ∈ counted before reports, step.counters.Bounded level := by
  induction reports generalizing before with
  | nil => exact fun _ member => by cases member
  | cons report rest ih =>
    obtain ⟨first, others⟩ := List.forall_mem_cons.mp reported
    have next := bounded.record first
    exact List.forall_mem_cons.mpr ⟨next, ih next others⟩

section Runs

variable {resolver : Resolver} {level : Level} {world : World}

/-- A source that gets a report gives the step of this report, and leaves the world alone. -/
theorem takeSource_of_report {source : Source} (kind : IsTextOrFile source) {report : Report}
    (reported : outcomeFor resolver level world source = .ok report) (before : Counters) :
    (takeSource resolver standardRules level source ⟨world, before⟩).start.1 =
      .ok (⟨report, before.record report⟩, ⟨world, before.record report⟩) := by
  rw [takeSource_start]
  unfold outcomeFor at reported
  rw [reported, read_world kind]
  rfl

theorem takeSource_of_failure {source : Source} {failure : Failure}
    (failed : outcomeFor resolver level world source = .error failure) (before : Counters) :
    (takeSource resolver standardRules level source ⟨world, before⟩).start.1 = .error failure := by
  rw [takeSource_start]
  unfold outcomeFor at failed
  rw [failed]
  rfl

/-- A run over sources that get their reports on their own completes with these reports. -/
theorem takeAll_of_reports {sources : List Source} (kinds : ∀ source ∈ sources, IsTextOrFile source)
    {reports : List Report}
    (reported : List.Forall₂ (fun source report =>
      outcomeFor resolver level world source = .ok report) sources reports) (before : Counters) :
    let outcome := takeAll resolver standardRules (atLevel level sources) ⟨world, before⟩
    outcome.failure = none ∧ outcome.steps = counted before reports ∧
      outcome.state = ⟨world, reports.foldl Counters.record before⟩ := by
  induction reported generalizing before with
  | nil => exact ⟨rfl, rfl, rfl⟩
  | @cons source report sources reports first _ ih =>
    obtain ⟨kind, others⟩ := List.forall_mem_cons.mp kinds
    have takes := takeSource_of_report kind first before
    obtain ⟨failure, steps, state⟩ := ih others (before.record report)
    rw [takeAll_cons]
    generalize (takeSource resolver standardRules level source ⟨world, before⟩).start = start
      at takes
    obtain ⟨outcome, calls⟩ := start
    cases takes
    exact ⟨failure, congrArg (_ :: ·) steps, state⟩

/-- The sources of a run that completes get their reports on their own. -/
theorem exists_reports {sources : List Source} (kinds : ∀ source ∈ sources, IsTextOrFile source)
    {before : Counters}
    (completes : (takeAll resolver standardRules (atLevel level sources)
      ⟨world, before⟩).failure = none) :
    ∃ reports, List.Forall₂ (fun source report =>
      outcomeFor resolver level world source = .ok report) sources reports := by
  induction sources generalizing before with
  | nil => exact ⟨[], .nil⟩
  | cons source rest ih =>
    obtain ⟨kind, others⟩ := List.forall_mem_cons.mp kinds
    cases first : outcomeFor resolver level world source with
    | error failure =>
      rw [(takeAll_of_error rest (takeSource_of_failure first before)).2] at completes
      cases completes
    | ok report =>
      rw [(takeAll_of_ok rest (takeSource_of_report kind first before)).2] at completes
      obtain ⟨reports, reported⟩ := ih others completes
      exact ⟨report :: reports, .cons first reported⟩

/-- Every report of a run is one of the level. -/
theorem ofLevel_of_takeAll (sources : List Source) (state : State) :
    ∀ step ∈ (takeAll resolver standardRules (atLevel level sources) state).steps,
      step.report.OfLevel level := by
  induction sources generalizing state with
  | nil => exact fun _ member => (List.not_mem_nil member).elim
  | cons source rest ih =>
    have takes : (takeSource resolver standardRules level source state).start.1 = _ :=
      takeSource_start level source state
    cases reported : outcomeFor resolver level state.world source with
    | error failure =>
      rw [(takeAll_of_error rest (takes.trans (congrArg _ reported))).1]
      exact fun _ member => (List.not_mem_nil member).elim
    | ok report =>
      rw [(takeAll_of_ok rest (takes.trans (congrArg _ reported))).1]
      exact List.forall_mem_cons.mpr ⟨ofLevel_of_outcomeFor reported, ih _⟩

/-- A run that completes gives every source a report, and its counts are those of the reports. -/
theorem takeAll_of_completes (sources : List Source) (state : State)
    (completes : (takeAll resolver standardRules (atLevel level sources) state).failure = none) :
    let outcome := takeAll resolver standardRules (atLevel level sources) state
    outcome.steps.length = sources.length ∧
      outcome.state.counters =
        (outcome.steps.map Step.report).foldl Counters.record state.counters := by
  induction sources generalizing state with
  | nil => exact ⟨rfl, rfl⟩
  | cons source rest ih =>
    have takes : (takeSource resolver standardRules level source state).start.1 = _ :=
      takeSource_start level source state
    rw [takeAll_cons] at completes ⊢
    generalize (takeSource resolver standardRules level source state).start = start
      at takes completes ⊢
    obtain ⟨taken, calls⟩ := start
    cases reported : outcomeFor resolver level state.world source with
    | error failure =>
      cases takes.trans (congrArg _ reported)
      cases completes
    | ok report =>
      cases takes.trans (congrArg _ reported)
      obtain ⟨length, counters⟩ := ih _ completes
      exact ⟨congrArg (· + 1) length, counters⟩

end Runs

/-- **The counts of a run tell what it reported.**  When a run over texts and files completes, every
source has the report of a run over this source alone, the counts with a report are those of the
reports up to it and within the bounds of the level, and the counts at the end are those of all
reports, whatever the order of the sources. -/
theorem run_counts (resolver : Resolver) (level : Level) (sources : List Source) (world : World)
    (kinds : ∀ source ∈ sources, IsTextOrFile source)
    (completes : (run resolver standardRules level sources world).failure = none) :
    let outcome := run resolver standardRules level sources world
    let reports := outcome.steps.map Step.report
    outcome.steps.map Step.counters =
        (List.range sources.length).map (fun index => Counters.of (reports.take (index + 1))) ∧
      List.Forall₂ (fun source report =>
        let alone := run resolver standardRules level [source] world
        alone.failure = none ∧ alone.steps.map Step.report = [report]) sources reports ∧
      (∀ step ∈ outcome.steps, step.counters.Bounded level) ∧
      outcome.state.counters = Counters.of reports ∧ outcome.state.counters.Bounded level ∧
      ∀ others : List Source, others.Perm sources →
        (run resolver standardRules level others world).failure = none ∧
        (run resolver standardRules level others world).state.counters =
          outcome.state.counters := by
  intro outcome reports
  obtain ⟨given, reported⟩ := exists_reports kinds completes
  obtain ⟨_, steps, state⟩ := takeAll_of_reports kinds reported .zero
  change outcome.steps = counted (.of []) given at steps
  change outcome.state = ⟨world, given.foldl Counters.record (.of [])⟩ at state
  have same : reports = given := (congrArg _ steps).trans (counted_reports _ _)
  have final : outcome.state.counters = Counters.of given :=
    (congrArg State.counters state).trans (Counters.foldl_record [] given)
  have ofLevel := ofLevel_of_reported reported
  have boundedLast : outcome.state.counters.Bounded level := by
    rw [congrArg State.counters state]
    exact .foldl (.zero level) ofLevel
  refine ⟨?_, ?_, ?_, ?_, boundedLast, fun others perm => ?_⟩
  · rw [steps, counted_counters, same, reported.length_eq]
    simp
  · rw [same]
    refine (List.forall₂_and_left _ _ |>.mpr ⟨kinds, reported⟩).imp fun source report here => ?_
    obtain ⟨failure, alone, _⟩ := takeAll_of_reports (List.forall_mem_singleton.mpr here.1)
      (.cons here.2 .nil) .zero
    exact ⟨failure, (congrArg _ alone).trans (counted_reports _ _)⟩
  · rw [steps]
    exact counted_bounded (.zero level) ofLevel
  · rw [final, same]
  · obtain ⟨reordered, others_reported, reports_perm⟩ := List.perm_comp_forall₂ perm reported
    obtain ⟨failure, _, otherState⟩ := takeAll_of_reports
      (fun source here => kinds source (perm.mem_iff.mp here)) others_reported .zero
    refine ⟨failure, ?_⟩
    rw [final, ← Counters.of_perm reports_perm]
    exact (congrArg State.counters otherState).trans (Counters.foldl_record [] reordered)

/-- A file that is missing and a definition that gets a warning are both rejected at the highest
level, whichever comes first. -/
theorem run_counts_past_missing_file :
    let resolver := Resolver.constant
      ⟨some ⟨.swagger2, "2.0", .mapping []⟩, ["attribute paths is missing"]⟩ ⟨none, []⟩
    let text := "\x7b\"swagger\": \"2.0\", \"info\": \x7b\"title\": \"Pets\"\x7d\x7d"
    let sources := [petsFile, .given text]
    let outcome := run resolver standardRules .full sources (petsWorld none)
    (∀ source ∈ sources, IsTextOrFile source) ∧ outcome.failure = none ∧
      outcome.state.counters = Counters.of (outcome.steps.map Step.report) ∧
      (∀ step ∈ outcome.steps, step.counters.Bounded .full) ∧
      ∀ others : List Source, others.Perm sources →
        (run resolver standardRules .full others (petsWorld none)).state.counters =
          outcome.state.counters := by
  intro resolver text sources outcome
  have kinds : ∀ source ∈ sources, IsTextOrFile source := by
    simp [sources, IsTextOrFile, petsFile, Source.given]
  have missing : outcomeFor resolver .full (petsWorld none) petsFile =
      .ok (unreadableReport .full petsFile ⟨.notFound, "pets.yaml"⟩) := by
    rw [outcomeFor, read_petsFile_of_missing]
    rfl
  have warned : (outcomeFor resolver .full (petsWorld none) (.given text)).isOk = true := by
    decide +kernel
  cases reported : outcomeFor resolver .full (petsWorld none) (.given text) with
  | error failure =>
    rw [reported] at warned
    cases warned
  | ok report =>
    have completes : outcome.failure = none :=
      (takeAll_of_reports kinds (.cons missing (.cons reported .nil)) .zero).1
    obtain ⟨_, _, bounded, final, _, orders⟩ :=
      run_counts resolver .full sources (petsWorld none) kinds completes
    exact ⟨kinds, completes, final, bounded, fun others perm => (orders others perm).2⟩

end Batch

end ApiAdmission
