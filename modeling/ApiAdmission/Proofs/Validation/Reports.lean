import ApiAdmission.Proofs.Diagnostic.Findings
import ApiAdmission.Proofs.Paths.Checks
import ApiAdmission.Validation.Text

/-!
# The reports of a document

The validation of a classified document consults the resolver for the family that the document
declares, and once more for the other family when the first answer signals that the document is not
of the declared one.  The family whose answer counts is the deciding one (`decidingFamily`).

Levels differ in what becomes of that answer, never in the answer itself.  So the three courses of
a validation (`Course`) name what they find once, and say for all levels at once which report the
document gets: a failure of the resolver goes through, two signals make a report on both attempts,
and otherwise the report is that of the deciding family, behind a note if it is the second one.
-/

namespace ApiAdmission

set_option autoImplicit false

open Consultation

/-! ## Asking the resolver -/

/-- The answer of a resolver for a family. -/
def Resolver.answer (resolver : Resolver) (family : Family) (text : String)
    (location : Option String) : Except Failure Resolution :=
  match family with
  | .swagger2 => resolver.resolveSwagger2 text location
  | .openapi3 => resolver.resolveOpenapi3 text location
  | .unknown => .error (.breakdown Family.noRules)

/-- A resolver that keeps to its protocol: asked for a family it gives an answer, and its lenient
reading gives a tree or fails for a reason that is foreseen. -/
structure Resolver.KeepsProtocol (resolver : Resolver) : Prop where
  answers : ∀ family, family ≠ .unknown → ∀ text location,
    ∃ resolution, resolver.answer family text location = .ok resolution
  reads : resolver.ReadsLeniently

theorem Resolver.constant_keepsProtocol (older newer : Resolution) :
    (Resolver.constant older newer).KeepsProtocol where
  answers family known text location := by
    cases family with
    | swagger2 => exact ⟨older, rfl⟩
    | openapi3 => exact ⟨newer, rfl⟩
    | unknown => exact absurd rfl known
  reads := constant_readsLeniently older newer

/-- The calls that asking for a family makes. -/
def Family.calls : Family → List Call
  | .swagger2 => [.swagger2]
  | .openapi3 => [.openapi3]
  | .unknown => []

theorem render_yields (resolver : Resolver) (family : Family) (text : String)
    (location : Option String) :
    (resolver.render family text location).Yields (resolver.answer family text location)
      family.calls := by
  cases family with
  | swagger2 => exact (Yields.log .swagger2).bind (.ofFailure _)
  | openapi3 => exact (Yields.log .openapi3).bind (.ofFailure _)
  | unknown => exact .throw _

/-! ## The messages of an answer -/

/-- Whether an answer signals that the document is not of its family. -/
def Resolution.signals (resolution : Resolution) (family : Family) : Bool :=
  resolution.messages.any (isSignal family)

/-- Messages without a signal give none. -/
theorem wrongFamilySignal_of_none {context : MessageContext} {messages : List String}
    (none : messages.any (isSignal context.family) = false) :
    (wrongFamilySignal standardRules context messages).Yields (.ok .none) [] := by
  induction messages with
  | nil => exact .pure _
  | cons message rest ih =>
    obtain ⟨first, others⟩ := Bool.or_eq_false_iff.mp ((List.any_cons ..).symm.trans none)
    rw [wrongFamilySignal]
    refine (Yields.ofBreakdown_ok (saysWrongFamily_standard message context.family)).bind ?_
    rw [first]
    exact ih others

/-- The first signal among messages is the same finding at all severities, and it is made without a
call. -/
theorem wrongFamilySignal_of_any {context : MessageContext} {messages : List String}
    (signalled : messages.any (isSignal context.family) = true) :
    ∃ signal : Diagnostic,
      (∀ severity, (wrongFamilySignal standardRules (context.withSeverity severity) messages).Yields
        (.ok (some (signal.withSeverity severity))) []) ∧
      some signal.code = context.family.wrongFamilyCode? ∧ signal.source = .parser := by
  induction messages with
  | nil => cases signalled
  | cons message rest ih =>
    cases first : isSignal context.family message with
    | true =>
      obtain ⟨signal, colours, carries, fromParser⟩ := diagnose_signal first
      refine ⟨signal, fun severity => ?_, carries, fromParser⟩
      rw [wrongFamilySignal]
      refine (Yields.ofBreakdown_ok (saysWrongFamily_standard message context.family)).bind ?_
      rw [first]
      exact (colours severity).bind (.pure _)
    | false =>
      rw [List.any_cons, first, Bool.false_or] at signalled
      obtain ⟨signal, yields, rest_facts⟩ := ih signalled
      refine ⟨signal, fun severity => ?_, rest_facts⟩
      rw [wrongFamilySignal]
      refine (Yields.ofBreakdown_ok (saysWrongFamily_standard message context.family)).bind ?_
      rw [first]
      exact yields severity

/-- What becomes of the messages of an answer: one finding for each in order, or a failure. -/
structure Told (messages : List String) (context : MessageContext)
    (outcome : Except Failure (List Diagnostic)) (calls : List Call) : Prop where
  /-- The severity only colours the findings. -/
  colours : ∀ severity,
    (messages.mapM fun message =>
      diagnose standardRules message (context.withSeverity severity)).Yields
      (outcome.map (List.map (·.withSeverity severity))) calls
  /-- Every message has its finding, and none is about resource paths. -/
  findings : ∀ found, outcome = .ok found →
    found.length = messages.length ∧ ∀ finding ∈ found, finding.source ≠ .semanticCheck
  /-- A resolver that reads leniently leaves no message without its finding. -/
  total : context.resolver.ReadsLeniently → outcome.isOk

/-- Messages become findings, or fail to, in the same way at all severities. -/
theorem exists_told (messages : List String) (context : MessageContext) :
    ∃ outcome calls, Told messages context outcome calls := by
  induction messages with
  | nil =>
    refine ⟨.ok [], [], fun severity => .pure _, ?_, fun _ => rfl⟩
    rintro _ ⟨⟩
    exact ⟨rfl, fun _ member => by cases member⟩
  | cons message rest ih =>
    obtain ⟨first, asked, colours, fromProse, found⟩ := diagnose_colours message context
    obtain ⟨others, more, told⟩ := ih
    cases first with
    | error failure =>
      refine ⟨.error failure, asked, fun severity => ?_, ?_, found⟩
      · rw [List.mapM_cons]
        exact (colours severity).bind_error
      · rintro _ ⟨⟩
    | ok finding =>
      cases others with
      | error failure =>
        refine ⟨.error failure, asked ++ more, fun severity => ?_, ?_, told.total⟩
        · rw [List.mapM_cons]
          exact (colours severity).bind (told.colours severity).bind_error
        · rintro _ ⟨⟩
      | ok findings =>
        refine ⟨.ok (finding :: findings), asked ++ more, fun severity => ?_, ?_, fun _ => rfl⟩
        · rw [List.mapM_cons]
          exact (colours severity).bind (told.colours severity).bind_pure
        · rintro _ ⟨⟩
          obtain ⟨length, sources⟩ := told.findings findings rfl
          refine ⟨congrArg (· + 1) length, fun other member => ?_⟩
          rcases List.mem_cons.mp member with rfl | member
          · exact fromProse other rfl
          · exact sources other member

/-- What the messages of an answer become at a level, from what becomes of them. -/
def toldAt (outcome : Except Failure (List Diagnostic)) (level : Level) :
    Except Failure (List Diagnostic) :=
  if level.reportsMessages then outcome.map (List.map (·.withSeverity level.messageSeverity))
  else .ok []

/-- The calls that the messages of an answer lead to at a level. -/
def toldCalls (calls : List Call) (level : Level) : List Call :=
  if level.reportsMessages then calls else []

theorem messageFindings_yields {resolver : Resolver} {family : Family} {document : Document}
    {messages : List String} {outcome : Except Failure (List Diagnostic)} {calls : List Call}
    (told : Told messages (contextOf resolver family document .parseOnly) outcome calls)
    (level : Level) :
    (messageFindings standardRules (contextOf resolver family document level) level
      messages).Yields (toldAt outcome level) (toldCalls calls level) := by
  cases level with
  | parseOnly => exact .pure []
  | compatibility => exact told.colours .warning
  | full => exact told.colours .error

/-! ## What goes with an answer -/

/-- A finding that goes with the verdict of the resolver has the severity of the level. -/
theorem of_mem_resolverVerdict {level : Level} {resolution : Resolution} {finding : Diagnostic}
    (member : finding ∈ (resolverVerdict level resolution).2) :
    finding.severity = level.messageSeverity ∧ finding.source = .parser := by
  obtain ⟨_ | document, _ | ⟨message, rest⟩⟩ := resolution <;> cases level <;>
    simp_all [resolverVerdict, Level.reportsMessages, notRendered]

/-- What the resource paths violate is an error of their checks. -/
theorem of_mem_pathViolations {level : Level} {family : Family} {resolution : Resolution}
    {finding : Diagnostic} (member : finding ∈ pathViolations level family resolution) :
    finding.severity = .error ∧ finding.source = .semanticCheck := by
  unfold pathViolations at member
  split at member
  · split at member
    · exact of_mem_checkPaths member
    · cases member
  · cases member

section FamilyReport

variable (family : Family) (document : Document) (resolution : Resolution)
  (findings : List Diagnostic) (level : Level)

theorem familyReport_diagnostics :
    (familyReport family document level resolution findings).diagnostics =
      findings ++ (resolverVerdict level resolution).2 ++ pathViolations level family resolution :=
  rfl

theorem familyReport_verdict :
    (familyReport family document level resolution findings).verdict =
      if (pathViolations level family resolution).isEmpty then (resolverVerdict level resolution).1
      else .malformed := rfl

end FamilyReport

/-! ## Validating as one family -/

section OneFamily

variable {resolver : Resolver} {family : Family} {document : Document} {resolution : Resolution}

theorem validateFamily_of_failure {failure : Failure}
    (answer : resolver.answer family document.text document.location = .error failure)
    (level : Level) :
    (validateFamily resolver standardRules family document level).Yields (.error failure)
      family.calls := by
  have asked := render_yields resolver family document.text document.location
  rw [answer] at asked
  exact asked.bind_error

theorem validateFamily_of_signal
    (answer : resolver.answer family document.text document.location = .ok resolution)
    (signalled : resolution.signals family = true) :
    ∃ signal : Diagnostic,
      (∀ level, (validateFamily resolver standardRules family document level).Yields
        (.ok (.wrongFamily (signal.withSeverity level.messageSeverity))) family.calls) ∧
      some signal.code = family.wrongFamilyCode? ∧ signal.source = .parser := by
  have asked := render_yields resolver family document.text document.location
  rw [answer] at asked
  have any : resolution.messages.any
      (isSignal (contextOf resolver family document .parseOnly).family) = true := signalled
  obtain ⟨signal, yields, facts⟩ := wrongFamilySignal_of_any any
  refine ⟨signal, fun level => ?_, facts⟩
  have course : (validateFamily resolver standardRules family document level).Yields
      (.ok (.wrongFamily (signal.withSeverity level.messageSeverity)))
      (family.calls ++ ([] ++ [])) :=
    asked.bind ((yields level.messageSeverity).bind (.pure _))
  rwa [List.append_nil, List.append_nil] at course

theorem validateFamily_of_answer {outcome : Except Failure (List Diagnostic)} {calls : List Call}
    (answer : resolver.answer family document.text document.location = .ok resolution)
    (fitting : resolution.signals family = false)
    (told : Told resolution.messages (contextOf resolver family document .parseOnly) outcome calls)
    (level : Level) :
    (validateFamily resolver standardRules family document level).Yields
      ((toldAt outcome level).map fun findings =>
        .report (familyReport family document level resolution findings))
      (family.calls ++ toldCalls calls level) := by
  have asked := render_yields resolver family document.text document.location
  rw [answer] at asked
  have none : resolution.messages.any
      (isSignal (contextOf resolver family document level).family) = false := fitting
  exact asked.bind ((wrongFamilySignal_of_none none).bind
    (messageFindings_yields told level).bind_pure)

end OneFamily

/-! ## Validating as the declared family or as the other one -/

/-- The family whose answer decides about a document: the declared one, or the other one when the
first answer signals that the document is not of the declared one. -/
def decidingFamily (resolver : Resolver) (document : Document) : Family :=
  match resolver.answer document.family document.text document.location with
  | .ok resolution =>
    if resolution.signals document.family then document.family.other else document.family
  | .error _ => document.family

/-- The answer that decides about a document. -/
def decidingAnswer (resolver : Resolver) (document : Document) : Except Failure Resolution :=
  resolver.answer (decidingFamily resolver document) document.text document.location

/-- A report, behind the note on a first attempt if there was one. -/
def Report.behind (report : Report) : Option Diagnostic → Report
  | some first => report.withNote first
  | none => report

@[simp] theorem Report.behind_verdict (report : Report) (note : Option Diagnostic) :
    (report.behind note).verdict = report.verdict := by
  cases note <;> rfl

@[simp] theorem Report.behind_accepted (report : Report) (note : Option Diagnostic) :
    (report.behind note).accepted = report.accepted := by
  cases note <;> rfl

@[simp] theorem Report.behind_diagnostics (report : Report) (note : Option Diagnostic) :
    (report.behind note).diagnostics =
      (note.map (·.withSeverity .info)).toList ++ report.diagnostics := by
  cases note <;> rfl

theorem decidingFamily_of_failure {resolver : Resolver} {document : Document} {failure : Failure}
    (answer : resolver.answer document.family document.text document.location = .error failure) :
    decidingFamily resolver document = document.family := by
  rw [decidingFamily, answer]

theorem decidingFamily_of_answer {resolver : Resolver} {document : Document}
    {resolution : Resolution}
    (answer : resolver.answer document.family document.text document.location = .ok resolution)
    (fitting : resolution.signals document.family = false) :
    decidingFamily resolver document = document.family := by
  simp [decidingFamily, answer, fitting]

theorem decidingFamily_of_signal {resolver : Resolver} {document : Document}
    {resolution : Resolution}
    (answer : resolver.answer document.family document.text document.location = .ok resolution)
    (signalled : resolution.signals document.family = true) :
    decidingFamily resolver document = document.family.other := by
  simp [decidingFamily, answer, signalled]

/-- The deciding family of a document that is of a family is one of the two. -/
theorem decidingFamily_ne_unknown (resolver : Resolver) {document : Document}
    (known : document.family ≠ .unknown) : decidingFamily resolver document ≠ .unknown := by
  have other : document.family.other ≠ .unknown := by
    cases family : document.family with
    | swagger2 | openapi3 => exact Family.noConfusion
    | unknown => exact absurd family known
  unfold decidingFamily
  split
  · split
    · exact other
    · exact known
  · exact known

/-- How the validation of a document goes, at all levels at once. -/
inductive Course (resolver : Resolver) (document : Document) : Prop where
  /-- The resolver fails, and the validation fails with it. -/
  | failed (failure : Failure)
      (answer : decidingAnswer resolver document = .error failure)
      (yields : ∀ level, ∃ calls,
        (validateDocument resolver standardRules document level).Yields (.error failure) calls)
  /-- Both answers signal that the document is not of their family. -/
  | neither (resolution : Resolution)
      (answer : decidingAnswer resolver document = .ok resolution)
      (signalled : resolution.signals (decidingFamily resolver document) = true)
      (first second : Diagnostic)
      (yields : ∀ level, ∃ calls, (validateDocument resolver standardRules document level).Yields
        (.ok (neitherReport document level first second)) calls)
  /-- The answer of the deciding family makes the report, behind a note if it is the second. -/
  | decided (resolution : Resolution)
      (answer : decidingAnswer resolver document = .ok resolution)
      (fitting : resolution.signals (decidingFamily resolver document) = false)
      (note : Option Diagnostic) (noted : ∀ first ∈ note, first.code.kind = .wrongFamily)
      (outcome : Except Failure (List Diagnostic)) (asked : List Call)
      (told : Told resolution.messages
        (contextOf resolver (decidingFamily resolver document) document .parseOnly) outcome asked)
      (yields : ∀ level, ∃ calls, (validateDocument resolver standardRules document level).Yields
        ((toldAt outcome level).map fun findings =>
          (familyReport (decidingFamily resolver document) document level resolution
            findings).behind note) calls)

/-- The code of a family that is not there belongs to the kind of the wrong family. -/
theorem kind_of_wrongFamilyCode {code : Code} {family : Family}
    (carries : some code = family.wrongFamilyCode?) : code.kind = .wrongFamily := by
  cases family with
  | swagger2 | openapi3 =>
    cases carries
    rfl
  | unknown => cases carries

section OneAttempt

variable {resolver : Resolver} {document : Document} {family : Family}

/-- An answer of the deciding family without a signal decides.  What is left to show is that the
outcome of validating as that family becomes the outcome for the document. -/
theorem Course.of_answer {resolution : Resolution} (note : Option Diagnostic)
    (noted : ∀ first ∈ note, first.code.kind = .wrongFamily)
    (deciding : decidingFamily resolver document = family)
    (answer : resolver.answer family document.text document.location = .ok resolution)
    (fitting : resolution.signals family = false)
    (passes : ∀ (level : Level) (outcome : Except Failure Report) (calls : List Call),
      (validateFamily resolver standardRules family document level).Yields
        (outcome.map FamilyOutcome.report) calls →
      ∃ calls, (validateDocument resolver standardRules document level).Yields
        (outcome.map (·.behind note)) calls) :
    Course resolver document := by
  obtain ⟨outcome, asked, told⟩ :=
    exists_told resolution.messages (contextOf resolver family document .parseOnly)
  subst deciding
  refine .decided resolution answer fitting note noted outcome asked told fun level => ?_
  have family_yields := validateFamily_of_answer answer fitting told level
  -- The findings become the report of the family first, and only then that of the document.
  cases found : toldAt outcome level with
  | ok findings =>
    rw [found] at family_yields
    exact passes level (.ok (familyReport _ document level resolution findings)) _ family_yields
  | error failure =>
    rw [found] at family_yields
    exact passes level (.error failure) _ family_yields

/-- The outcome of the first attempt is that of the document, unless it is a signal. -/
theorem validateDocument_of_first {level : Level} {outcome : Except Failure Report}
    {calls : List Call}
    (first : (validateFamily resolver standardRules document.family document level).Yields
      (outcome.map FamilyOutcome.report) calls) :
    ∃ calls, (validateDocument resolver standardRules document level).Yields
      (outcome.map (·.behind none)) calls := by
  cases outcome with
  | ok report => exact ⟨_, first.bind (.pure report)⟩
  | error failure => exact ⟨_, first.bind_error⟩

/-- After a signal the outcome of the second attempt is that of the document, unless it is a signal
too. -/
theorem validateDocument_of_second {level : Level} {signal : Diagnostic} {severity : Severity}
    {asked calls : List Call} {outcome : Except Failure Report}
    (first : (validateFamily resolver standardRules document.family document level).Yields
      (.ok (.wrongFamily (signal.withSeverity severity))) asked)
    (second : (validateFamily resolver standardRules document.family.other document level).Yields
      (outcome.map FamilyOutcome.report) calls) :
    ∃ calls, (validateDocument resolver standardRules document level).Yields
      (outcome.map (·.behind (some signal))) calls := by
  cases outcome with
  | ok report => exact ⟨_, first.bind (second.bind (.pure (report.withNote signal)))⟩
  | error failure => exact ⟨_, first.bind second.bind_error⟩

end OneAttempt

/-- **Every validation of a document takes one of the courses.** -/
theorem course (resolver : Resolver) (document : Document) : Course resolver document := by
  cases answer : resolver.answer document.family document.text document.location with
  | error failure =>
    have deciding := decidingFamily_of_failure answer
    refine .failed failure ?_ fun level =>
      ⟨_, (validateFamily_of_failure answer level).bind_error⟩
    rw [decidingAnswer, deciding, answer]
  | ok resolution =>
    cases signalled : resolution.signals document.family with
    | false =>
      exact .of_answer none (fun _ member => by cases member)
        (decidingFamily_of_answer answer signalled) answer signalled
        fun _ _ _ first => validateDocument_of_first first
    | true =>
      have deciding := decidingFamily_of_signal answer signalled
      obtain ⟨first, firstYields, carries, _⟩ := validateFamily_of_signal answer signalled
      cases again : resolver.answer document.family.other document.text document.location with
      | error failure =>
        refine .failed failure ?_ fun level =>
          ⟨_, (firstYields level).bind (validateFamily_of_failure again level).bind_error⟩
        rw [decidingAnswer, deciding, again]
      | ok second =>
        cases signalledAgain : second.signals document.family.other with
        | true =>
          obtain ⟨other, otherYields, _⟩ := validateFamily_of_signal again signalledAgain
          refine .neither second ?_ ?_ first other fun level =>
            ⟨_, (firstYields level).bind ((otherYields level).bind (.pure _))⟩
          · rw [decidingAnswer, deciding, again]
          · rw [deciding, signalledAgain]
        | false =>
          have noted : ∀ signal ∈ some first, signal.code.kind = .wrongFamily := by
            rintro _ ⟨⟩
            exact kind_of_wrongFamilyCode carries
          exact .of_answer (some first) noted deciding again signalledAgain
            fun level _ _ second => validateDocument_of_second (firstYields level) second

/-! ## Validating a text -/

/-- A report under the name of its text. -/
def Report.named (report : Report) (location name : Option String) : Report :=
  { report with source := firstPresent name (firstPresent location inlineName) }

@[simp] theorem Report.named_verdict (report : Report) (location name : Option String) :
    (report.named location name).verdict = report.verdict := rfl

@[simp] theorem Report.named_accepted (report : Report) (location name : Option String) :
    (report.named location name).accepted = report.accepted := rfl

@[simp] theorem Report.named_diagnostics (report : Report) (location name : Option String) :
    (report.named location name).diagnostics = report.diagnostics := rfl

/-- What classification says about the document of a text. -/
structure Classified (text : String) (location : Option String) (document : Document)
    (blocks : List Diagnostic) : Prop where
  text_eq : document.text = text
  location_eq : document.location = location
  /-- Whatever blocks is an error. -/
  severity : ∀ block ∈ blocks, block.severity = .error
  /-- A document that nothing blocks is of a family. -/
  known : blocks = [] → document.family ≠ .unknown

theorem classified {text : String} {location : Option String} {document : Document}
    {blocks : List Diagnostic} (classifies : classify text location = .ok (document, blocks)) :
    Classified text location document blocks := by
  unfold classify at classifies
  split at classifies
  case h_1 => cases classifies
  case h_2 =>
    cases classifies
    exact ⟨rfl, rfl, by simp [Diagnostic.blocking], by simp⟩
  case h_3 tree _ =>
    cases classifies
    refine ⟨rfl, rfl, fun block member => ?_, fun free => ?_⟩
    · split at member
      · cases List.mem_singleton.mp member
        rfl
      · split at member
        · cases List.mem_singleton.mp member
          rfl
        · cases member
    · intro unknown
      change detectFamily tree = .unknown at unknown
      simp [unknown] at free

/-- Classification breaks down exactly where the reading of the text does. -/
theorem classify_eq_error_iff {text : String} {location : Option String} {breakdown : Breakdown} :
    classify text location = .error breakdown ↔
      parseMapping text = .error (.breakdown breakdown) := by
  unfold classify
  split
  case h_1 cause reads => simp [reads]
  case h_2 fault other reads =>
    rw [reads]
    exact ⟨nofun, fun same => absurd (Except.error.inj same) (other breakdown)⟩
  case h_3 tree reads => simp [reads]

/-- The outcome of validating a text at a level by the standard table. -/
def outcomeAt (resolver : Resolver) (text : String) (location name : Option String)
    (level : Level) : Except Failure Report :=
  (validateText resolver standardRules level text location name).start.1

section Text

variable (resolver : Resolver) {text : String} {location : Option String} (name : Option String)

/-- A text that cannot be classified breaks its validation down, and nothing is asked. -/
theorem validateText_of_breakdown {breakdown : Breakdown}
    (classifies : classify text location = .error breakdown) (level : Level) :
    (validateText resolver standardRules level text location name).start =
      (.error (.breakdown breakdown), []) := by
  have yields : (validateText resolver standardRules level text location name).Yields
      (.error (.breakdown breakdown)) [] :=
    (Yields.ofBreakdown_error classifies).bind_error
  exact yields.start_eq

/-- A document that is blocked gets a report of what blocks it, and nothing is asked. -/
theorem validateText_of_blocks {document : Document} {block : Diagnostic} {blocks : List Diagnostic}
    (classifies : classify text location = .ok (document, block :: blocks)) (level : Level) :
    (validateText resolver standardRules level text location name).start =
      (.ok ((blockedReport document level (block :: blocks)).named location name), []) := by
  have yields : (validateText resolver standardRules level text location name).Yields
      (.ok ((blockedReport document level (block :: blocks)).named location name)) [] :=
    (Yields.ofBreakdown_ok classifies).bind
      ((Yields.pure (blockedReport document level (block :: blocks))).bind (.pure _))
  exact yields.start_eq

theorem outcomeAt_of_breakdown {breakdown : Breakdown}
    (classifies : classify text location = .error breakdown) (level : Level) :
    outcomeAt resolver text location name level = .error (.breakdown breakdown) :=
  congrArg Prod.fst (validateText_of_breakdown resolver name classifies level)

theorem outcomeAt_of_blocks {document : Document} {block : Diagnostic} {blocks : List Diagnostic}
    (classifies : classify text location = .ok (document, block :: blocks)) (level : Level) :
    outcomeAt resolver text location name level =
      .ok ((blockedReport document level (block :: blocks)).named location name) :=
  congrArg Prod.fst (validateText_of_blocks resolver name classifies level)

/-- The outcome for a document that nothing blocks is that of its validation, under the name of the
text. -/
theorem outcomeAt_of_document {resolver : Resolver} {document : Document} {level : Level}
    {outcome : Except Failure Report} (classifies : classify text location = .ok (document, []))
    (validates : ∃ calls,
      (validateDocument resolver standardRules document level).Yields outcome calls) :
    outcomeAt resolver text location name level = outcome.map (·.named location name) := by
  obtain ⟨calls, validates⟩ := validates
  have yields : (validateText resolver standardRules level text location name).Yields
      (outcome.map (·.named location name)) calls :=
    (Yields.ofBreakdown_ok classifies).bind validates.bind_pure
  exact congrArg Prod.fst yields.start_eq

end Text

end ApiAdmission
