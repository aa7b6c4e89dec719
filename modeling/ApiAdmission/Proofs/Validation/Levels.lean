import ApiAdmission.Proofs.Validation.Reports

/-!
# Levels refine each other

The reports of one text at the three levels rest on the same answers of the resolver.  A text that
is blocked, or of neither family, is invalid at every level with the same findings.  Otherwise a
higher level repeats the findings of the lower one and adds to them: the lowest level has at most a
note on a first attempt, the middle one adds what the resolver says as warnings, and the highest one
makes errors of those warnings and adds what the resource paths violate.  So a document that a level
accepts is accepted at every lower one, and what blocks it stays when the level rises
(`reports_refine`).

Where the text cannot be classified or the resolver fails, no level has a report, and all of them
fail alike.
-/

namespace ApiAdmission

set_option autoImplicit false

open Consultation

/-! ## The report of an answer at each level -/

theorem pathViolations_parseOnly (family : Family) (resolution : Resolution) :
    pathViolations .parseOnly family resolution = [] := by
  cases document : resolution.document <;> simp [pathViolations, document, Level.checksPaths]

theorem pathViolations_compatibility (family : Family) (resolution : Resolution) :
    pathViolations .compatibility family resolution = [] := by
  cases document : resolution.document <;> simp [pathViolations, document, Level.checksPaths]

/-- At the lowest level only the rendered document counts. -/
theorem resolverVerdict_parseOnly (resolution : Resolution) :
    resolverVerdict .parseOnly resolution =
      (if resolution.document.isSome then .valid else .malformed, []) := rfl

/-- Above the lowest level the verdict of the resolver is the same, and so is the finding that goes
with it but for its severity. -/
theorem resolverVerdict_full (resolution : Resolution) :
    resolverVerdict .full resolution =
      ((resolverVerdict .compatibility resolution).1,
        (resolverVerdict .compatibility resolution).2.map (·.withSeverity .error)) := by
  obtain ⟨_ | document, _ | ⟨message, rest⟩⟩ := resolution <;> rfl

/-- Without a rendered document the verdict of the resolver is the same at all levels, and with one
it never is that the document is malformed. -/
theorem resolverVerdict_eq_malformed_iff (level : Level) (resolution : Resolution) :
    (resolverVerdict level resolution).1 = .malformed ↔ resolution.document = none := by
  obtain ⟨_ | document, _ | ⟨message, rest⟩⟩ := resolution <;> cases level <;>
    simp [resolverVerdict, Level.reportsMessages]

theorem resolverVerdict_ne_invalid (level : Level) (resolution : Resolution) :
    (resolverVerdict level resolution).1 ≠ .invalid := by
  obtain ⟨_ | document, _ | ⟨message, rest⟩⟩ := resolution <;> cases level <;>
    simp [resolverVerdict, Level.reportsMessages]

section FamilyReport

variable (family : Family) (document : Document) (resolution : Resolution)
  (findings : List Diagnostic)

theorem familyReport_ne_invalid (level : Level) :
    (familyReport family document level resolution findings).verdict ≠ .invalid := by
  rw [familyReport_verdict]
  split
  · exact resolverVerdict_ne_invalid level resolution
  · exact Verdict.noConfusion

/-- Below the highest level a report says that the document is malformed when none is rendered. -/
theorem familyReport_malformed_iff {level : Level} (below : level ≠ .full) :
    (familyReport family document level resolution findings).verdict = .malformed ↔
      resolution.document = none := by
  have noViolations : pathViolations level family resolution = [] := by
    cases level with
    | parseOnly => exact pathViolations_parseOnly family resolution
    | compatibility => exact pathViolations_compatibility family resolution
    | full => exact absurd rfl below
  rw [familyReport_verdict, noViolations]
  exact resolverVerdict_eq_malformed_iff level resolution

/-- Without a rendered document every report says that it is malformed. -/
theorem familyReport_malformed_of_none (level : Level) (none : resolution.document = none) :
    (familyReport family document level resolution findings).verdict = .malformed := by
  rw [familyReport_verdict]
  split
  · exact (resolverVerdict_eq_malformed_iff level resolution).mpr none
  · rfl

/-- A report that is not malformed accepts below the highest level, and there it asks for more. -/
theorem ne_malformed_of_accepted {level : Level}
    (accepted : (familyReport family document level resolution findings).accepted = true) :
    (familyReport family document level resolution findings).verdict ≠ .malformed := by
  intro malformed
  rw [Report.accepted, malformed] at accepted
  cases accepted

theorem familyReport_accepted_iff {level : Level} (below : level ≠ .full) :
    (familyReport family document level resolution findings).accepted = true ↔
      resolution.document ≠ none := by
  rw [Ne, ← familyReport_malformed_iff family document resolution findings below]
  refine ⟨ne_malformed_of_accepted family document resolution findings, fun rendered => ?_⟩
  have valid := familyReport_ne_invalid family document resolution findings level
  have lower : level.number < Level.full.number := by
    cases level with
    | parseOnly | compatibility => decide
    | full => exact absurd rfl below
  rw [Report.accepted]
  cases verdict : (familyReport family document level resolution findings).verdict with
  | valid => rfl
  | validWithWarnings => exact decide_eq_true lower
  | malformed => exact absurd verdict rendered
  | invalid => exact absurd verdict valid

end FamilyReport

/-! ## How the reports of the levels belong together -/

/-- Three reports that say for the same reasons that a text is invalid. -/
structure InvalidAlike (bottom middle top : Report) : Prop where
  bottom_invalid : bottom.verdict = .invalid
  middle_invalid : middle.verdict = .invalid
  top_invalid : top.verdict = .invalid
  middle_same : middle.diagnostics = bottom.diagnostics
  top_same : top.diagnostics = bottom.diagnostics

/-- Warnings are what the resolver says about a document: what the messages of the deciding answer
become, and that nothing could be rendered where no message says why. -/
def Says (resolver : Resolver) (document : Document) (warnings : List Diagnostic) : Prop :=
  ∃ resolution findings calls, decidingAnswer resolver document = .ok resolution ∧
    (messageFindings standardRules
      (contextOf resolver (decidingFamily resolver document) document .compatibility)
      .compatibility resolution.messages).Yields (.ok findings) calls ∧
    warnings = findings ++ (resolverVerdict .compatibility resolution).2

/-- Three reports of one document whose findings lie in layers. -/
structure Layered (resolver : Resolver) (document : Document) (bottom middle top : Report) :
    Prop where
  bottom_ne_invalid : bottom.verdict ≠ .invalid
  middle_ne_invalid : middle.verdict ≠ .invalid
  top_ne_invalid : top.verdict ≠ .invalid
  layers : ∃ (note : Option Diagnostic) (warnings violations : List Diagnostic),
    (∀ first ∈ note, first.severity = .info ∧ first.code.kind = .wrongFamily) ∧
    Says resolver document warnings ∧
    (∀ warning ∈ warnings, warning.severity = .warning ∧ warning.source ≠ .semanticCheck) ∧
    (∀ violation ∈ violations, violation.source = .semanticCheck) ∧
    bottom.diagnostics = note.toList ∧
    middle.diagnostics = note.toList ++ warnings ∧
    top.diagnostics = note.toList ++ warnings.map (·.withSeverity .error) ++ violations

/-- The reports of one text from the lowest level to the highest refine each other. -/
structure Refines (resolver : Resolver) (text : String) (location : Option String)
    (bottom middle top : Report) : Prop where
  findings : InvalidAlike bottom middle top ∨
    ∃ document, classify text location = .ok (document, []) ∧
      Layered resolver document bottom middle top
  malformed_iff : bottom.verdict = .malformed ↔ middle.verdict = .malformed
  malformed_top : bottom.verdict = .malformed → top.verdict = .malformed
  accepted_middle : top.accepted = true → middle.accepted = true
  accepted_iff : middle.accepted = true ↔ bottom.accepted = true
  blocking_middle : bottom.blocking.Sublist middle.blocking
  blocking_top : middle.blocking.Sublist top.blocking

theorem blocking_eq_nil {report : Report}
    (free : ∀ finding ∈ report.diagnostics, finding.severity ≠ .error) : report.blocking = [] := by
  refine List.filter_eq_nil_iff.mpr fun finding member => ?_
  simpa [Diagnostic.isBlocking] using free finding member

/-- Reports with the same findings and the verdict that the text is invalid refine each other. -/
theorem Refines.of_invalid {resolver : Resolver} {text : String} {location : Option String}
    {bottom middle top : Report} (alike : InvalidAlike bottom middle top) :
    Refines resolver text location bottom middle top where
  findings := .inl alike
  malformed_iff := by rw [alike.bottom_invalid, alike.middle_invalid]
  malformed_top malformed := by rw [alike.bottom_invalid] at malformed; cases malformed
  accepted_middle accepted := by rw [Report.accepted, alike.top_invalid] at accepted; cases accepted
  accepted_iff := by
    rw [Report.accepted, Report.accepted, alike.bottom_invalid, alike.middle_invalid]
  blocking_middle := by simp [Report.blocking, alike.middle_same]
  blocking_top := by simp [Report.blocking, alike.middle_same, alike.top_same]

namespace Layered

variable {resolver : Resolver} {document : Document} {bottom middle top : Report}

/-- Nothing blocks at the lowest level. -/
theorem bottom_blocking (layered : Layered resolver document bottom middle top) :
    bottom.blocking = [] := by
  obtain ⟨note, _, _, noted, _, _, _, findings, _⟩ := layered.layers
  refine blocking_eq_nil fun finding member => ?_
  rw [findings, Option.mem_toList] at member
  rw [(noted finding member).1]
  decide

/-- Nothing blocks at the middle level. -/
theorem middle_blocking (layered : Layered resolver document bottom middle top) :
    middle.blocking = [] := by
  obtain ⟨note, _, _, noted, _, warned, _, _, findings, _⟩ := layered.layers
  refine blocking_eq_nil fun finding member => ?_
  rw [findings, List.mem_append, Option.mem_toList] at member
  rcases member with first | warning
  · rw [(noted finding first).1]
    decide
  · rw [(warned finding warning).1]
    decide

end Layered

section Answer

variable {resolver : Resolver} {document : Document} {resolution : Resolution}
  {findings : List Diagnostic} {asked : List Call}

/-- The report of a deciding answer with the findings of its messages, behind a note on a first
attempt. -/
def answerReport (resolver : Resolver) (document : Document) (resolution : Resolution)
    (note : Option Diagnostic) (level : Level) (findings : List Diagnostic) : Report :=
  (familyReport (decidingFamily resolver document) document level resolution findings).behind note

/-- The findings of the reports that one answer makes lie in layers. -/
theorem Layered.of_answer (location name : Option String) {note : Option Diagnostic}
    (answer : decidingAnswer resolver document = .ok resolution)
    (noted : ∀ first ∈ note, first.code.kind = .wrongFamily)
    (told : Told resolution.messages
      (contextOf resolver (decidingFamily resolver document) document .parseOnly) (.ok findings)
      asked) :
    Layered resolver document
      ((answerReport resolver document resolution note .parseOnly []).named location name)
      ((answerReport resolver document resolution note .compatibility
        (findings.map (·.withSeverity .warning))).named location name)
      ((answerReport resolver document resolution note .full
        (findings.map (·.withSeverity .error))).named location name) := by
  refine ⟨?_, ?_, ?_, note.map (·.withSeverity .info),
    findings.map (·.withSeverity .warning) ++ (resolverVerdict .compatibility resolution).2,
    pathViolations .full (decidingFamily resolver document) resolution, ?_,
    ⟨resolution, _, asked, answer, messageFindings_yields told .compatibility, rfl⟩, ?_,
    fun violation member => (of_mem_pathViolations member).2, ?_, ?_, ?_⟩
  · simpa [answerReport] using familyReport_ne_invalid _ document resolution _ .parseOnly
  · simpa [answerReport] using familyReport_ne_invalid _ document resolution _ .compatibility
  · simpa [answerReport] using familyReport_ne_invalid _ document resolution _ .full
  · intro first member
    obtain ⟨signal, here, rfl⟩ := Option.map_eq_some_iff.mp (Option.mem_def.mp member)
    exact ⟨rfl, noted signal here⟩
  · intro warning member
    rcases List.mem_append.mp member with told_here | extra
    · obtain ⟨finding, here, rfl⟩ := List.mem_map.mp told_here
      exact ⟨rfl, (told.findings findings rfl).2 finding here⟩
    · obtain ⟨severity, source⟩ := of_mem_resolverVerdict extra
      exact ⟨severity, by rw [source]; decide⟩
  · simp [answerReport, familyReport_diagnostics, resolverVerdict_parseOnly,
      pathViolations_parseOnly]
  · simp [answerReport, familyReport_diagnostics, pathViolations_compatibility]
  · simp [answerReport, familyReport_diagnostics, resolverVerdict_full, Diagnostic.withSeverity]

/-- **The reports that one answer makes at the three levels refine each other.** -/
theorem Refines.of_answer {text : String} {location : Option String} (name : Option String)
    {note : Option Diagnostic} (classifies : classify text location = .ok (document, []))
    (answer : decidingAnswer resolver document = .ok resolution)
    (noted : ∀ first ∈ note, first.code.kind = .wrongFamily)
    (told : Told resolution.messages
      (contextOf resolver (decidingFamily resolver document) document .parseOnly) (.ok findings)
      asked) :
    Refines resolver text location
      ((answerReport resolver document resolution note .parseOnly []).named location name)
      ((answerReport resolver document resolution note .compatibility
        (findings.map (·.withSeverity .warning))).named location name)
      ((answerReport resolver document resolution note .full
        (findings.map (·.withSeverity .error))).named location name) := by
  have layered := Layered.of_answer location name answer noted told
  refine ⟨.inr ⟨document, classifies, layered⟩, ?_, ?_, ?_, ?_, ?_, ?_⟩
  · simp [answerReport, familyReport_malformed_iff]
  · simp only [answerReport, Report.named_verdict, Report.behind_verdict]
    rw [familyReport_malformed_iff _ _ _ _ (by decide)]
    exact familyReport_malformed_of_none _ document resolution _ .full
  · simp only [answerReport, Report.named_accepted, Report.behind_accepted]
    intro accepted
    rw [familyReport_accepted_iff _ _ _ _ (by decide)]
    intro none
    exact ne_malformed_of_accepted _ _ _ _ accepted
      (familyReport_malformed_of_none _ document resolution _ .full none)
  · simp [answerReport, familyReport_accepted_iff]
  · rw [layered.bottom_blocking]
    exact List.nil_sublist _
  · rw [layered.middle_blocking]
    exact List.nil_sublist _

end Answer

/-! ## All texts -/

/-- A text gets no report: it cannot be classified, or the resolver fails when it is asked for one
of the families. -/
def Unanswered (resolver : Resolver) (text : String) (location : Option String)
    (failure : Failure) : Prop :=
  (∃ breakdown, classify text location = .error breakdown ∧ failure = .breakdown breakdown) ∨
    resolver.resolveSwagger2 text location = .error failure ∨
    resolver.resolveOpenapi3 text location = .error failure

theorem Unanswered.of_decidingAnswer {resolver : Resolver} {text : String}
    {location : Option String} {document : Document} {failure : Failure}
    (classifies : classify text location = .ok (document, []))
    (answer : decidingAnswer resolver document = .error failure) :
    Unanswered resolver text location failure := by
  have facts := classified classifies
  rw [decidingAnswer, facts.text_eq, facts.location_eq] at answer
  cases deciding : decidingFamily resolver document with
  | swagger2 =>
    rw [deciding] at answer
    exact .inr (.inl answer)
  | openapi3 =>
    rw [deciding] at answer
    exact .inr (.inr answer)
  | unknown => exact absurd deciding (decidingFamily_ne_unknown resolver (facts.known rfl))

/-- **Levels refine each other.**  A text that gets no report at one level gets none at any, for one
and the same reason; all others get three reports that refine each other. -/
theorem reports_refine (resolver : Resolver) (reads : resolver.ReadsLeniently) (text : String)
    (location name : Option String) :
    (∃ failure, Unanswered resolver text location failure ∧
      ∀ level, outcomeAt resolver text location name level = .error failure) ∨
    ∃ bottom middle top,
      outcomeAt resolver text location name .parseOnly = .ok bottom ∧
      outcomeAt resolver text location name .compatibility = .ok middle ∧
      outcomeAt resolver text location name .full = .ok top ∧
      Refines resolver text location bottom middle top := by
  cases classifies : classify text location with
  | error breakdown =>
    exact .inl ⟨.breakdown breakdown, .inl ⟨breakdown, classifies, rfl⟩,
      outcomeAt_of_breakdown resolver name classifies⟩
  | ok pair =>
    obtain ⟨document, blocks⟩ := pair
    cases blocks with
    | cons block blocks =>
      have reported := outcomeAt_of_blocks resolver name classifies
      exact .inr ⟨_, _, _, reported _, reported _, reported _,
        .of_invalid ⟨rfl, rfl, rfl, rfl, rfl⟩⟩
    | nil =>
      cases course resolver document with
      | failed failure answer yields =>
        exact .inl ⟨failure, .of_decidingAnswer classifies answer,
          fun level => outcomeAt_of_document name classifies (yields level)⟩
      | neither resolution answer signalled first second yields =>
        have reported := fun level => outcomeAt_of_document name classifies (yields level)
        exact .inr ⟨_, _, _, reported _, reported _, reported _,
          .of_invalid ⟨rfl, rfl, rfl, rfl, rfl⟩⟩
      | decided resolution answer fitting note noted outcome asked told yields =>
        cases outcome with
        | error failure => cases told.total reads
        | ok findings =>
          have reported := fun level => outcomeAt_of_document name classifies (yields level)
          exact .inr ⟨_, _, _, reported .parseOnly, reported .compatibility, reported .full,
            .of_answer name classifies answer noted told⟩

/-- A definition that is rendered with a message about it gets three reports, and they refine each
other. -/
theorem reports_refine_with_message :
    let resolver := Resolver.constant
      ⟨some ⟨.swagger2, "2.0", .mapping []⟩, ["attribute paths is missing"]⟩ ⟨none, []⟩
    let text := "\x7b\"swagger\": \"2.0\", \"info\": \x7b\"title\": \"Pets\"\x7d\x7d"
    resolver.ReadsLeniently ∧ ∃ bottom middle top,
      outcomeAt resolver text none none .parseOnly = .ok bottom ∧
      outcomeAt resolver text none none .compatibility = .ok middle ∧
      outcomeAt resolver text none none .full = .ok top ∧
      Refines resolver text none bottom middle top := by
  intro resolver text
  have reads : resolver.ReadsLeniently := Resolver.constant_readsLeniently _ _
  refine ⟨reads, ?_⟩
  rcases reports_refine resolver reads text none none with ⟨failure, _, failed⟩ | refines
  · have reported : (outcomeAt resolver text none none .full).isOk = true := by decide +kernel
    rw [failed .full] at reported
    cases reported
  · exact refines

end ApiAdmission
