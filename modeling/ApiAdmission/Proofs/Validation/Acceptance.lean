import ApiAdmission.Proofs.Validation.Reports

/-!
# What the highest level accepts

At the highest level a report is accepted exactly when no finding of it is an error, and exactly
when there was nothing to find: nothing blocks the document, and the family that decides about it
renders it without a message, with resource paths that violate nothing (`accepted_full_iff`).

The verdict, the severities and the checks of the paths are settled in different places.  What joins
them is the flawless answer (`Resolution.Flawless`): both the verdict of a report and the absence of
errors in it come down to the answer being flawless.
-/

namespace ApiAdmission

set_option autoImplicit false

/-! ## Flawless answers -/

/-- An answer that leaves nothing to find: a rendered document without a message, whose resource
paths violate nothing. -/
def Resolution.Flawless (resolution : Resolution) (family : Family) : Prop :=
  ∃ rendered paths, resolution = ⟨some rendered, []⟩ ∧
    pathsOf? rendered.tree = some paths ∧ SoundPaths family paths

/-- A document without a `paths` mapping violates the rule that there is a resource path. -/
theorem pathViolations_full_eq_nil_iff {family : Family} (known : family ≠ .unknown)
    (rendered : ResolvedDocument) (messages : List String) :
    pathViolations .full family ⟨some rendered, messages⟩ = [] ↔
      ∃ paths, pathsOf? rendered.tree = some paths ∧ SoundPaths family paths := by
  change checkPaths (pathEntries family ((pathsOf? rendered.tree).getD [])) = [] ↔ _
  cases mapping : pathsOf? rendered.tree with
  | some paths => simpa using checkPaths_eq_nil_iff known
  | none => simp [pathEntries, checkPaths, checkEmptyPaths]

theorem Resolution.flawless_iff {family : Family} (known : family ≠ .unknown)
    (resolution : Resolution) :
    resolution.Flawless family ↔ resolution.document.isSome = true ∧ resolution.messages = [] ∧
      pathViolations .full family resolution = [] := by
  obtain ⟨_ | rendered, messages⟩ := resolution
  · simp [Flawless]
  · rw [pathViolations_full_eq_nil_iff known]
    constructor
    · rintro ⟨_, paths, ⟨⟩, sound⟩
      exact ⟨rfl, rfl, paths, sound⟩
    · rintro ⟨_, rfl, paths, sound⟩
      exact ⟨rendered, paths, rfl, sound⟩

/-! ## The report of an answer at the highest level -/

section FullReport

variable {family : Family} (document : Document) (resolution : Resolution)

/-- The verdict accepts exactly the flawless answers. -/
theorem familyReport_full_accepted_iff (known : family ≠ .unknown) (findings : List Diagnostic) :
    (familyReport family document .full resolution findings).accepted = true ↔
      resolution.Flawless family := by
  rw [resolution.flawless_iff known]
  rw [Report.accepted, familyReport_verdict]
  cases violations : pathViolations .full family resolution with
  | cons violation rest => simp
  | nil =>
    obtain ⟨_ | rendered, _ | ⟨message, rest⟩⟩ := resolution
    · simp [resolverVerdict, Level.reportsMessages]
    · simp [resolverVerdict, Level.reportsMessages]
    · simp [resolverVerdict, Level.reportsMessages]
    · simp [resolverVerdict, Level.reportsMessages, familyReport]

/-- Where all findings are errors, no error means no finding. -/
theorem free_of_errors_iff {findings : List Diagnostic}
    (errors : ∀ finding ∈ findings, finding.severity = .error) :
    (∀ finding ∈ findings, finding.severity ≠ .error) ↔ findings = [] := by
  constructor
  · intro free
    exact List.eq_nil_iff_forall_not_mem.mpr fun finding member =>
      free finding member (errors finding member)
  · rintro rfl finding member
    cases member

/-- A finding that goes with the verdict of the resolver is there exactly for an answer that gives
neither a document nor a message. -/
theorem resolverVerdict_full_eq_nil_iff :
    (resolverVerdict .full resolution).2 = [] ↔
      ¬ (resolution.document = none ∧ resolution.messages = []) := by
  obtain ⟨_ | rendered, _ | ⟨message, rest⟩⟩ := resolution <;>
    simp [resolverVerdict, Level.reportsMessages]

/-- The findings hold no error exactly for the flawless answers. -/
theorem familyReport_full_free_iff (known : family ≠ .unknown) {findings : List Diagnostic}
    (complete : findings.length = resolution.messages.length) :
    (∀ finding ∈ (familyReport family document .full resolution
        (findings.map (·.withSeverity .error))).diagnostics, finding.severity ≠ .error) ↔
      resolution.Flawless family := by
  have errors : ∀ finding ∈ (familyReport family document .full resolution
      (findings.map (·.withSeverity .error))).diagnostics, finding.severity = .error := by
    intro finding member
    rw [familyReport_diagnostics, List.mem_append, List.mem_append] at member
    rcases member with (told | extra) | violation
    · obtain ⟨_, _, rfl⟩ := List.mem_map.mp told
      rfl
    · exact (of_mem_resolverVerdict extra).1
    · exact (of_mem_pathViolations violation).1
  rw [free_of_errors_iff errors, resolution.flawless_iff known, familyReport_diagnostics]
  have silent : findings = [] ↔ resolution.messages = [] := by
    rw [← List.length_eq_zero_iff, complete, List.length_eq_zero_iff]
  rw [List.append_eq_nil_iff, List.append_eq_nil_iff, List.map_eq_nil_iff, silent,
    resolverVerdict_full_eq_nil_iff, Option.isSome_iff_ne_none]
  constructor
  · rintro ⟨⟨noMessage, answered⟩, noViolation⟩
    exact ⟨fun none => answered ⟨none, noMessage⟩, noMessage, noViolation⟩
  · rintro ⟨rendered, noMessage, noViolation⟩
    exact ⟨⟨noMessage, fun unanswered => rendered unanswered.1⟩, noViolation⟩

end FullReport

/-! ## All texts -/

/-- What the highest level asks of a text: nothing blocks its document, and the family that decides
about the document renders it without a message, with resource paths that violate nothing. -/
def FullyAdmissible (resolver : Resolver) (text : String) (location : Option String) : Prop :=
  ∃ document resolution, classify text location = .ok (document, []) ∧
    decidingAnswer resolver document = .ok resolution ∧
    resolution.Flawless (decidingFamily resolver document)

/-- A flawless answer has no signal, as it has no message. -/
theorem Resolution.Flawless.no_signal {resolution : Resolution} {family : Family}
    (flawless : resolution.Flawless family) (other : Family) :
    resolution.signals other = false := by
  obtain ⟨rendered, paths, rfl, _⟩ := flawless
  rfl

theorem fullyAdmissible_iff {resolver : Resolver} {text : String} {location : Option String}
    {document : Document} {resolution : Resolution}
    (classifies : classify text location = .ok (document, []))
    (answer : decidingAnswer resolver document = .ok resolution) :
    FullyAdmissible resolver text location ↔
      resolution.Flawless (decidingFamily resolver document) := by
  constructor
  · rintro ⟨other, given, same, answers, flawless⟩
    obtain ⟨rfl, -⟩ := Prod.mk.inj (Except.ok.inj (same.symm.trans classifies))
    rwa [← Except.ok.inj (answers.symm.trans answer)]
  · exact fun flawless => ⟨document, resolution, classifies, answer, flawless⟩

/-- A rejected report with an error in it, about a text that is not fully admissible. -/
theorem accepted_full_iff_of_rejected {resolver : Resolver} {text : String}
    {location : Option String} {report : Report} {finding : Diagnostic}
    (rejected : report.accepted = false) (member : finding ∈ report.diagnostics)
    (error : finding.severity = .error) (lacking : ¬ FullyAdmissible resolver text location) :
    (report.accepted = true ↔ ∀ finding ∈ report.diagnostics, finding.severity ≠ .error) ∧
      (report.accepted = true ↔ FullyAdmissible resolver text location) := by
  rw [rejected]
  refine ⟨⟨nofun, fun free => absurd error (free finding member)⟩, nofun, fun admissible =>
    absurd admissible lacking⟩

/-- **What full acceptance means.**  A report of the highest level is accepted exactly when it holds
no error, and exactly when the text is fully admissible. -/
theorem accepted_full_iff (resolver : Resolver) (text : String) (location name : Option String)
    (report : Report) (reported : outcomeAt resolver text location name .full = .ok report) :
    (report.accepted = true ↔ ∀ finding ∈ report.diagnostics, finding.severity ≠ .error) ∧
      (report.accepted = true ↔ FullyAdmissible resolver text location) := by
  cases classifies : classify text location with
  | error breakdown =>
    rw [outcomeAt_of_breakdown resolver name classifies] at reported
    cases reported
  | ok pair =>
    obtain ⟨document, blocks⟩ := pair
    cases blocks with
    | cons block blocks =>
      rw [outcomeAt_of_blocks resolver name classifies] at reported
      cases reported
      refine accepted_full_iff_of_rejected rfl List.mem_cons_self
        ((classified classifies).severity block List.mem_cons_self) ?_
      rintro ⟨other, _, same, _⟩
      cases classifies.symm.trans same
    | nil =>
      have known := decidingFamily_ne_unknown resolver ((classified classifies).known rfl)
      cases course resolver document with
      | failed failure answer yields =>
        rw [outcomeAt_of_document name classifies (yields .full)] at reported
        cases reported
      | neither resolution answer signalled first second yields =>
        rw [outcomeAt_of_document name classifies (yields .full)] at reported
        cases reported
        refine accepted_full_iff_of_rejected rfl List.mem_cons_self rfl fun admissible => ?_
        have flawless := (fullyAdmissible_iff classifies answer).mp admissible
        rw [flawless.no_signal] at signalled
        cases signalled
      | decided resolution answer fitting note noted outcome asked told yields =>
        rw [outcomeAt_of_document name classifies (yields .full)] at reported
        cases outcome with
        | error failure => cases reported
        | ok findings =>
          cases reported
          have complete := (told.findings findings rfl).1
          -- The note on a first attempt is no error, so it changes neither side.
          have free := familyReport_full_free_iff document resolution known complete
          rw [fullyAdmissible_iff classifies answer, Report.named_accepted, Report.behind_accepted,
            familyReport_full_accepted_iff document resolution known, Report.named_diagnostics,
            Report.behind_diagnostics]
          refine ⟨?_, Iff.rfl⟩
          rw [← free]
          constructor
          · intro here finding member
            rcases List.mem_append.mp member with note | member
            · obtain ⟨signal, _, rfl⟩ := by simpa using note
              exact Severity.noConfusion
            · exact here finding member
          · exact fun free finding member => free finding (List.mem_append_right _ member)

/-- A definition that declares the wrong family is accepted on the second attempt. -/
theorem accepted_full_iff_on_second_attempt :
    let rendered := Tree.mapping [("paths", .mapping [("/pets", .mapping [("get", .mapping [])])])]
    let resolver := Resolver.constant ⟨none, ["attribute swagger is missing"]⟩
      ⟨some ⟨.openapi3, "3.0.0", rendered⟩, []⟩
    let text := "\x7b\"swagger\": \"3.0.0\", \"info\": \x7b\"title\": \"Pets\"\x7d\x7d"
    ∃ report, outcomeAt resolver text none none .full = .ok report ∧ report.accepted = true ∧
      (report.accepted = true ↔ ∀ finding ∈ report.diagnostics, finding.severity ≠ .error) ∧
      (report.accepted = true ↔ FullyAdmissible resolver text none) := by
  intro rendered resolver text
  have accepted : (outcomeAt resolver text none none .full).toOption.any (·.accepted) = true := by
    decide +kernel
  cases reported : outcomeAt resolver text none none .full with
  | error failure =>
    rw [reported] at accepted
    cases accepted
  | ok report =>
    rw [reported] at accepted
    exact ⟨report, rfl, accepted, accepted_full_iff resolver text none none report reported⟩

end ApiAdmission
