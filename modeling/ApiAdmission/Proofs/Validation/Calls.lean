import ApiAdmission.Proofs.Validation.Reports

/-!
# The calls of a validation

A validation asks the resolver as little as it can.  A text that classification blocks leads to no
call.  Otherwise there is one call for the family that the document declares, a second one for the
other family exactly if the first answer rejects the document as not of its family, and never a
third.  Only the answer that decides has its messages explained: above the lowest level every one of
them about a malformed document leads to one lenient reading.

An answer rejects a document by its first signal, and the finding that this becomes can be written
down without asking anything (`Resolution.rejection?`).  With it the exchange between a validation
and its resolver takes one of four forms (`Exchange`), each with its calls and its report.  A
validation with a resolver that keeps to its protocol is of one of them, unless its text breaks its
own reading down: then there is no report, and no call (`validateText_exchange`).
-/

namespace ApiAdmission

set_option autoImplicit false

open Consultation

/-! ## Messages that ask for a lenient reading -/

/-- Whether the rule of a message, by the standard table, is the one for malformed documents. -/
def isMalformed (family : Family) (message : String) : Bool :=
  (codeOf standardRules message family).toOption == some .malformed

/-- The lenient readings that some messages lead to. -/
def lenientReadings (family : Family) (messages : List String) : List Call :=
  List.replicate (messages.countP (isMalformed family)) .lenient

theorem isMalformed_iff {family : Family} {message : String} {rule : Rule}
    (matched : matchRule standardRules message family = .ok rule) :
    isMalformed family message = true ↔ rule.code = .malformed := by
  simp [isMalformed, codeOf, matched, Except.map, Except.toOption]

/-- The rule for malformed documents is the only one that looks for a cause. -/
theorem explains_iff_malformed {rule : Rule} (member : rule ∈ standardRules) :
    rule.rewording = some .explainMalformed ↔ rule.code = .malformed := by
  revert rule
  decide

/-- A message asks for one lenient reading if its rule is the one for malformed documents, and for
nothing otherwise. -/
theorem diagnose_asks {context : MessageContext} (reads : context.resolver.ReadsLeniently)
    (message : String) :
    ∃ finding, (diagnose standardRules message context).Yields (.ok finding)
      (lenientReadings context.family [message]) := by
  obtain ⟨rule, member, _, matched⟩ := matchRule_standard message context.family
  have ruled := Yields.ofBreakdown_ok matched
  by_cases explains : rule.rewording = some .explainMalformed
  · have malformed : isMalformed context.family message = true :=
      (isMalformed_iff matched).mpr ((explains_iff_malformed member).mp explains)
    have calls : lenientReadings context.family [message] = [.lenient] := by
      simp [lenientReadings, malformed]
    rw [calls]
    rcases Rewording.explainMalformed.apply_yields context message with
      ⟨_, plain, _⟩ | ⟨_, texts⟩
    · exact absurd rfl plain
    · have colours := Rule.colours_of_rewording explains texts context.severity
      cases cause : withCause message
          (context.resolver.parseLenient context.text context.location) with
      | ok text =>
        rw [cause] at colours
        exact ⟨_, ruled.bind (orOnRemoteFailure_of_ok colours)⟩
      | error failure =>
        -- Only a remote reference is left to fail at, and its own rule asks nothing.
        obtain ⟨reason, rfl⟩ := withCause_fails (reads _ _) cause
        rw [cause] at colours
        obtain ⟨outcome, more, others, _, _, plain⟩ := remoteRule.apply_colours message context
        obtain ⟨found, rfl⟩ := plain (by decide)
        cases outcome with
        | error failure => cases found
        | ok finding =>
          exact ⟨_, ruled.bind (orOnRemoteFailure_of_remote colours
            ((Yields.ofBreakdown_ok ruleFor_remoteReference).bind (others context.severity)))⟩
  · have ordinary : isMalformed context.family message = false := by
      rw [Bool.eq_false_iff]
      exact fun malformed => explains ((explains_iff_malformed member).mpr
        ((isMalformed_iff matched).mp malformed))
    have calls : lenientReadings context.family [message] = [] := by
      simp [lenientReadings, ordinary]
    obtain ⟨outcome, asked, colours, _, _, plain⟩ := rule.apply_colours message context
    obtain ⟨found, rfl⟩ := plain explains
    cases outcome with
    | error failure => cases found
    | ok finding =>
      rw [calls]
      exact ⟨_, ruled.bind (orOnRemoteFailure_of_ok (colours context.severity))⟩

theorem lenientReadings_cons (family : Family) (message : String) (rest : List String) :
    lenientReadings family (message :: rest) =
      lenientReadings family [message] ++ lenientReadings family rest := by
  simp [lenientReadings, List.countP_cons, Nat.add_comm]

/-- Messages ask for their lenient readings one after the other. -/
theorem diagnoseAll_asks {context : MessageContext} (reads : context.resolver.ReadsLeniently)
    (messages : List String) :
    ∃ findings, (messages.mapM fun message => diagnose standardRules message context).Yields
      (.ok findings) (lenientReadings context.family messages) := by
  induction messages with
  | nil => exact ⟨[], .pure []⟩
  | cons message rest ih =>
    obtain ⟨finding, first⟩ := diagnose_asks reads message
    obtain ⟨findings, others⟩ := ih
    refine ⟨finding :: findings, ?_⟩
    rw [List.mapM_cons, lenientReadings_cons]
    exact first.bind others.bind_pure

/-- The lenient readings that an answer leads to at a level, if it decides. -/
def Resolution.explanations (answer : Resolution) (family : Family) : Level → List Call
  | .parseOnly => []
  | .compatibility | .full => lenientReadings family answer.messages

theorem explanations_yields {resolver : Resolver} (reads : resolver.ReadsLeniently)
    (family : Family) (document : Document) (level : Level) (answer : Resolution) :
    ∃ findings, (messageFindings standardRules (contextOf resolver family document level) level
      answer.messages).Yields (.ok findings) (answer.explanations family level) := by
  cases level with
  | parseOnly => exact ⟨[], .pure []⟩
  | compatibility | full => exact diagnoseAll_asks reads answer.messages

/-! ## Answers that reject a document -/

/-- The finding that a signal of a family becomes, but for its severity. -/
def Family.rejection? (family : Family) (signal : String) : Option Diagnostic :=
  match family with
  | .swagger2 =>
    some ⟨.swaggerMissing, .info, "Invalid Swagger 2.0 definition found, " ++ signal, .parser⟩
  | .openapi3 =>
    some ⟨.openapiMissing, .info, "Invalid OpenAPI 3.x definition found, " ++ signal, .parser⟩
  | .unknown => none

/-- The finding that the first signal of an answer becomes, but for its severity; none if the answer
does not signal that the document is not of its family. -/
def Resolution.rejection? (answer : Resolution) (family : Family) : Option Diagnostic :=
  (answer.messages.find? (isSignal family)).bind family.rejection?

/-- A rule that carries the code of a family rewords a message into the rejection of this family. -/
theorem rewording_of_wrongFamilyCode {rule : Rule} (member : rule ∈ standardRules)
    {family : Family} (carries : some rule.code = family.wrongFamilyCode?) :
    ∃ label, rule.rewording = some (.wrongFamily label) ∧ ∀ signal,
      family.rejection? signal =
        some (rule.finding ("Invalid " ++ label ++ " definition found, " ++ signal)) := by
  simp only [standardRules, List.mem_cons, List.not_mem_nil, or_false] at member
  cases family with
  | swagger2 =>
    rcases member with rfl | rfl | rfl | rfl | rfl | rfl | rfl <;> cases carries
    exact ⟨"Swagger 2.0", rfl, fun _ => rfl⟩
  | openapi3 =>
    rcases member with rfl | rfl | rfl | rfl | rfl | rfl | rfl <;> cases carries
    exact ⟨"OpenAPI 3.x", rfl, fun _ => rfl⟩
  | unknown => cases carries

/-- A signal becomes the rejection of its family, without a call. -/
theorem diagnose_rejection {context : MessageContext} {signal : String}
    (signals : isSignal context.family signal = true) :
    ∃ rejection, context.family.rejection? signal = some rejection ∧
      (diagnose standardRules signal context).Yields
        (.ok (rejection.withSeverity context.severity)) [] := by
  obtain ⟨rule, member, _, matched⟩ := matchRule_standard signal context.family
  obtain ⟨label, rewords, rejects⟩ :=
    rewording_of_wrongFamilyCode member ((isSignal_iff matched).mp signals)
  have texts : (Rewording.apply (.wrongFamily label) context signal).Yields
      (.ok ("Invalid " ++ label ++ " definition found, " ++ signal)) [] := .pure _
  have colours := Rule.colours_of_rewording rewords texts context.severity
  exact ⟨_, rejects signal, (Yields.ofBreakdown_ok matched).bind (orOnRemoteFailure_of_ok colours)⟩

/-- What is found among messages is the rejection that their first signal becomes. -/
theorem wrongFamilySignal_yields (context : MessageContext) (messages : List String) :
    (wrongFamilySignal standardRules context messages).Yields
      (.ok (((messages.find? (isSignal context.family)).bind context.family.rejection?).map
        (·.withSeverity context.severity))) [] := by
  induction messages with
  | nil => exact .pure none
  | cons message rest ih =>
    rw [wrongFamilySignal, List.find?_cons]
    refine (Yields.ofBreakdown_ok (saysWrongFamily_standard message context.family)).bind ?_
    cases signals : isSignal context.family message with
    | false => exact ih
    | true =>
      obtain ⟨rejection, rejects, yields⟩ := diagnose_rejection signals
      rw [Option.bind_some, rejects]
      exact yields.bind (.pure _)

/-! ## Asking for one family -/

section OneFamily

variable {resolver : Resolver} {family : Family} {document : Document} {answer : Resolution}

/-- What the messages of an answer signal is its rejection. -/
theorem rejection_yields (resolver : Resolver) (family : Family) (document : Document)
    (level : Level) (answer : Resolution) :
    (wrongFamilySignal standardRules (contextOf resolver family document level)
      answer.messages).Yields
      (.ok ((answer.rejection? family).map (·.withSeverity level.messageSeverity))) [] :=
  wrongFamilySignal_yields _ _

/-- An answer that rejects the document ends the validation as its family. -/
theorem validateFamily_of_rejection {rejection : Diagnostic}
    (answered : resolver.answer family document.text document.location = .ok answer)
    (rejects : answer.rejection? family = some rejection) (level : Level) :
    (validateFamily resolver standardRules family document level).Yields
      (.ok (.wrongFamily (rejection.withSeverity level.messageSeverity))) family.calls := by
  have asked := render_yields resolver family document.text document.location
  have signalled := rejection_yields resolver family document level answer
  rw [answered] at asked
  rw [rejects] at signalled
  have course : (validateFamily resolver standardRules family document level).Yields
      (.ok (.wrongFamily (rejection.withSeverity level.messageSeverity)))
      (family.calls ++ ([] ++ [])) :=
    asked.bind (signalled.bind (.pure _))
  rwa [List.append_nil, List.append_nil] at course

/-- An answer that does not reject the document is explained, and the report of its family
follows. -/
theorem validateFamily_of_acceptance (reads : resolver.ReadsLeniently)
    (answered : resolver.answer family document.text document.location = .ok answer)
    (fitting : answer.rejection? family = none) (level : Level) :
    ∃ report, (validateFamily resolver standardRules family document level).Yields
      (.ok (.report report)) (family.calls ++ answer.explanations family level) := by
  have asked := render_yields resolver family document.text document.location
  have signalled := rejection_yields resolver family document level answer
  rw [answered] at asked
  rw [fitting] at signalled
  obtain ⟨findings, explained⟩ := explanations_yields reads family document level answer
  exact ⟨familyReport family document level answer findings,
    asked.bind (signalled.bind explained.bind_pure)⟩

end OneFamily

/-! ## Asking for a text -/

/-- What blocks a document is one finding. -/
theorem blocks_length {text : String} {location : Option String} {document : Document}
    {blocks : List Diagnostic} (classifies : classify text location = .ok (document, blocks)) :
    blocks.length ≤ 1 := by
  unfold classify at classifies
  split at classifies
  · cases classifies
  · cases classifies
    exact Nat.le_refl 1
  · cases classifies
    split
    · exact Nat.le_refl 1
    · split <;> simp

/-- The exchange between a validation and its resolver: the report, and the calls in order. -/
inductive Exchange (resolver : Resolver) (level : Level) (text : String)
    (location name : Option String) : Report → List Call → Prop where
  /-- Classification blocks the document, and nothing is asked. -/
  | blocked {document : Document} {block : Diagnostic} {report : Report}
      (classifies : classify text location = .ok (document, [block]))
      (verdict : report.verdict = .invalid) (diagnostics : report.diagnostics = [block]) :
      Exchange resolver level text location name report []
  /-- The answer for the declared family decides, and its report is the report. -/
  | declared {document : Document} {answer : Resolution} {own : Report}
      (classifies : classify text location = .ok (document, []))
      (known : document.family ≠ .unknown)
      (answered : resolver.answer document.family text location = .ok answer)
      (fitting : answer.rejection? document.family = none)
      (alone : (validateFamily resolver standardRules document.family document level).start =
        (.ok (.report own), document.family.calls ++ answer.explanations document.family level)) :
      Exchange resolver level text location name (own.named location name)
        (document.family.calls ++ answer.explanations document.family level)
  /-- The first answer rejects the document and the second decides.  Its report is the report,
  behind a note on the rejection and nothing else of the first answer. -/
  | other {document : Document} {first answer : Resolution} {rejection : Diagnostic} {own : Report}
      (classifies : classify text location = .ok (document, []))
      (known : document.family ≠ .unknown)
      (answeredFirst : resolver.answer document.family text location = .ok first)
      (rejects : first.rejection? document.family = some rejection)
      (answered : resolver.answer document.family.other text location = .ok answer)
      (fitting : answer.rejection? document.family.other = none)
      (alone : (validateFamily resolver standardRules document.family.other document level).start =
        (.ok (.report own),
          document.family.other.calls ++ answer.explanations document.family.other level)) :
      Exchange resolver level text location name
        { own.named location name with
          diagnostics := rejection.withSeverity .info :: own.diagnostics }
        (document.family.calls ++ document.family.other.calls ++
          answer.explanations document.family.other level)
  /-- Both answers reject the document, and the report holds just the two rejections. -/
  | neither {document : Document} {first second : Resolution}
      {rejection otherRejection : Diagnostic} {report : Report}
      (classifies : classify text location = .ok (document, []))
      (known : document.family ≠ .unknown)
      (answeredFirst : resolver.answer document.family text location = .ok first)
      (rejects : first.rejection? document.family = some rejection)
      (answeredSecond : resolver.answer document.family.other text location = .ok second)
      (rejectsToo : second.rejection? document.family.other = some otherRejection)
      (verdict : report.verdict = .invalid) (family : report.family = document.family)
      (diagnostics : report.diagnostics =
        [rejection.withSeverity .error, otherRejection.withSeverity .error]) :
      Exchange resolver level text location name report
        (document.family.calls ++ document.family.other.calls)

section Text

variable {resolver : Resolver} {level : Level} {text : String} {location : Option String}
  (name : Option String) {document : Document}

/-- A document that nothing blocks is validated, and its report gets the name of the text. -/
theorem validateText_of_document {report : Report} {calls : List Call}
    (classifies : classify text location = .ok (document, []))
    (validates : (validateDocument resolver standardRules document level).Yields (.ok report)
      calls) :
    (validateText resolver standardRules level text location name).start =
      (.ok (report.named location name), calls) := by
  have yields : (validateText resolver standardRules level text location name).Yields
      (.ok (report.named location name)) calls :=
    (Yields.ofBreakdown_ok classifies).bind validates.bind_pure
  exact yields.start_eq

/-- The exchange about a document of a family. -/
theorem exchange_of_document (keeps : resolver.KeepsProtocol)
    (classifies : classify text location = .ok (document, [])) :
    ∃ report calls,
      (validateText resolver standardRules level text location name).start = (.ok report, calls) ∧
      Exchange resolver level text location name report calls := by
  have facts := classified classifies
  have known := facts.known rfl
  have knownOther : document.family.other ≠ .unknown := by
    cases family : document.family with
    | swagger2 | openapi3 => exact Family.noConfusion
    | unknown => exact absurd family known
  obtain ⟨first, answeredFirst⟩ := keeps.answers _ known document.text document.location
  obtain ⟨second, answeredSecond⟩ := keeps.answers _ knownOther document.text document.location
  have firstHere := answeredFirst
  have secondHere := answeredSecond
  rw [facts.text_eq, facts.location_eq] at firstHere secondHere
  cases rejects : first.rejection? document.family with
  | none =>
    obtain ⟨own, alone⟩ := validateFamily_of_acceptance keeps.reads answeredFirst rejects level
    have validates : (validateDocument resolver standardRules document level).Yields (.ok own)
        (document.family.calls ++ first.explanations document.family level ++ []) :=
      alone.bind (.pure own)
    rw [List.append_nil] at validates
    exact ⟨_, _, validateText_of_document name classifies validates,
      .declared classifies known firstHere rejects alone.start_eq⟩
  | some rejection =>
    have tried := validateFamily_of_rejection answeredFirst rejects level
    cases rejectsToo : second.rejection? document.family.other with
    | none =>
      obtain ⟨own, alone⟩ :=
        validateFamily_of_acceptance keeps.reads answeredSecond rejectsToo level
      have validates : (validateDocument resolver standardRules document level).Yields
          (.ok (own.withNote (rejection.withSeverity level.messageSeverity)))
          (document.family.calls ++ ((document.family.other.calls ++
            second.explanations document.family.other level) ++ [])) :=
        tried.bind (alone.bind (.pure _))
      rw [List.append_nil, ← List.append_assoc] at validates
      have exchange : Exchange resolver level text location name
          { own.named location name with
            diagnostics := rejection.withSeverity .info :: own.diagnostics } _ :=
        .other classifies known firstHere rejects secondHere rejectsToo alone.start_eq
      exact ⟨_, _, validateText_of_document name classifies validates, exchange⟩
    | some otherRejection =>
      have validates : (validateDocument resolver standardRules document level).Yields
          (.ok (neitherReport document level (rejection.withSeverity level.messageSeverity)
            (otherRejection.withSeverity level.messageSeverity)))
          (document.family.calls ++ (document.family.other.calls ++ [])) :=
        tried.bind ((validateFamily_of_rejection answeredSecond rejectsToo level).bind (.pure _))
      rw [List.append_nil] at validates
      exact ⟨_, _, validateText_of_document name classifies validates,
        .neither classifies known firstHere rejects secondHere rejectsToo rfl rfl rfl⟩

end Text

/-- What a reading breaks down with, if it does. -/
def breakdownOf? : Except ParseFault Tree → Option Breakdown
  | .error (.breakdown breakdown) => some breakdown
  | _ => none

theorem breakdownOf?_eq_some_iff {reading : Except ParseFault Tree} {breakdown : Breakdown} :
    breakdownOf? reading = some breakdown ↔ reading = .error (.breakdown breakdown) := by
  rcases reading with fault | tree
  · cases fault <;> simp [breakdownOf?]
  · simp [breakdownOf?]

/-- A definition with a value that cannot be read as what its tag says. -/
def mistaggedText : String := "swagger: '2.0'\ninfo:\n  title: Pets\nx-n: !!int many\n"

end ApiAdmission
