import ApiAdmission.Diagnostic.Rule
import ApiAdmission.Proofs.Consultation

/-!
# Findings and their severity

A message becomes a finding by its rule alone; the severity only colours the finding.  So the
same message becomes the same finding at every level, up to its severity, and the same calls are
made for it (`diagnose_colours`).  With a resolver whose lenient reading never breaks down every
message becomes a finding by the standard table.

A message is the signal that a document is not of a family when its rule in the standard table
carries the code for that (`isSignal`).  Such a message becomes a finding without another call.
-/

namespace ApiAdmission

set_option autoImplicit false

open Consultation

/-- A context with another severity. -/
def MessageContext.withSeverity (context : MessageContext) (severity : Severity) :
    MessageContext :=
  { context with severity := severity }

/-- A resolver whose lenient reading gives a tree or fails for a reason that is foreseen. -/
def Resolver.ReadsLeniently (resolver : Resolver) : Prop :=
  ∀ text location breakdown, resolver.parseLenient text location ≠ .error (.breakdown breakdown)

/-- A resolver that gives the same answers for all texts, and reads all of them leniently. -/
def Resolver.constant (older newer : Resolution) : Resolver where
  resolveSwagger2 _ _ := .ok older
  resolveOpenapi3 _ _ := .ok newer
  parseLenient _ _ := .ok (.mapping [])

theorem Resolver.constant_readsLeniently (older newer : Resolution) :
    (Resolver.constant older newer).ReadsLeniently :=
  fun _ _ _ => nofun

/-- Consultations that give the same finding but for its severity, and make the same calls. -/
def Colours (finding : Severity → Consultation Diagnostic) (outcome : Except Failure Diagnostic)
    (calls : List Call) : Prop :=
  ∀ severity, (finding severity).Yields (outcome.map (·.withSeverity severity)) calls

/-! ## One rule -/

/-- A rewording gives a text without asking, or it asks for a lenient reading and appends the cause
that this reading finds. -/
theorem Rewording.apply_yields (rewording : Rewording) (context : MessageContext)
    (message : String) :
    (∃ text, rewording ≠ .explainMalformed ∧
      (rewording.apply context message).Yields (.ok text) []) ∨
    (rewording = .explainMalformed ∧
      (rewording.apply context message).Yields
        (withCause message (context.resolver.parseLenient context.text context.location))
        [.lenient]) := by
  cases rewording with
  | wrongFamily | listRemoteReferences | toDefinitions | referenceHint =>
    exact .inl ⟨_, by simp, .pure _⟩
  | explainMalformed =>
    have read : (context.resolver.readLeniently context.text context.location).Yields
        (.ok (context.resolver.parseLenient context.text context.location)) ([.lenient] ++ []) :=
      (Yields.log .lenient).bind (.pure _)
    exact .inr ⟨rfl, read.bind (.ofFailure _)⟩

/-- The cause of a lenient reading that keeps to its protocol is missing only for a remote
reference. -/
theorem withCause_fails {message : String} {answer : Except Failure Tree} {failure : Failure}
    (foreseen : ∀ breakdown, answer ≠ .error (.breakdown breakdown))
    (failed : withCause message answer = .error failure) :
    ∃ reason, failure = .badRemoteReference reason := by
  cases answer with
  | ok tree => cases failed
  | error other =>
    cases other with
    | unreadable | badReference => cases failed
    | badRemoteReference reason =>
      cases failed
      exact ⟨reason, rfl⟩
    | breakdown cause => exact absurd rfl (foreseen cause)

/-- Rewording does not look at the severity. -/
theorem Rewording.apply_withSeverity (rewording : Rewording) (context : MessageContext)
    (severity : Severity) (message : String) :
    rewording.apply (context.withSeverity severity) message =
      rewording.apply context message := by
  cases rewording <;> rfl

/-- The finding that a rule makes of a text; its severity is still open. -/
def Rule.finding (rule : Rule) (text : String) : Diagnostic :=
  ⟨rule.code, .info, text, rule.source⟩

/-- A rule makes its finding of what its rewording gives. -/
theorem Rule.colours_of_rewording {rule : Rule} {rewording : Rewording}
    (rewords : rule.rewording = some rewording) {message : String} {context : MessageContext}
    {outcome : Except Failure String} {calls : List Call}
    (texts : (rewording.apply context message).Yields outcome calls) :
    Colours (fun severity => rule.apply message (context.withSeverity severity))
      (outcome.map rule.finding) calls := by
  intro severity
  simp only [Rule.apply, rewords, rewording.apply_withSeverity]
  cases outcome with
  | ok text => exact texts.bind_pure
  | error failure => exact texts.bind_pure

theorem Rule.of_map_finding_ok {rule : Rule} {outcome : Except Failure String}
    {finding : Diagnostic} (found : outcome.map rule.finding = .ok finding) :
    finding.code = rule.code ∧ finding.source = rule.source := by
  cases outcome with
  | error failure => cases found
  | ok text =>
    cases found
    exact ⟨rfl, rfl⟩

theorem Rule.of_map_finding_error {rule : Rule} {outcome : Except Failure String}
    {failure : Failure} (failed : outcome.map rule.finding = .error failure) :
    outcome = .error failure := by
  cases outcome with
  | ok text => cases failed
  | error other =>
    cases failed
    rfl

/-- A rule makes one finding of a message, whatever its severity.  The finding has the code and the
origin of the rule.  Only a rule that looks for a cause can fail, and only as its lenient reading
does. -/
theorem Rule.apply_colours (rule : Rule) (message : String) (context : MessageContext) :
    ∃ outcome calls,
      Colours (fun severity => rule.apply message (context.withSeverity severity)) outcome calls ∧
      (∀ finding, outcome = .ok finding →
        finding.code = rule.code ∧ finding.source = rule.source) ∧
      (∀ failure, outcome = .error failure →
        withCause message (context.resolver.parseLenient context.text context.location) =
          .error failure) ∧
      (rule.rewording ≠ some .explainMalformed → outcome.isOk ∧ calls = []) := by
  cases rewords : rule.rewording with
  | none =>
    refine ⟨.ok (rule.finding message), [], fun severity => ?_, ?_, nofun, fun _ => ⟨rfl, rfl⟩⟩
    · simp only [Rule.apply, rewords]
      exact .pure _
    · rintro _ ⟨⟩
      exact ⟨rfl, rfl⟩
  | some rewording =>
    rcases rewording.apply_yields context message with ⟨text, _, texts⟩ | ⟨rfl, texts⟩
    · exact ⟨_, _, colours_of_rewording rewords texts, fun _ => of_map_finding_ok, nofun,
        fun _ => ⟨rfl, rfl⟩⟩
    · exact ⟨_, _, colours_of_rewording rewords texts, fun _ => of_map_finding_ok,
        fun _ => of_map_finding_error, fun plain => absurd rfl plain⟩

/-! ## The rule for remote references instead -/

section OrOnRemoteFailure

variable {α : Type} {first second : Consultation α} {calls : List Call}

theorem orOnRemoteFailure_of_ok {value : α} (yields : first.Yields (.ok value) calls) :
    (orOnRemoteFailure first second).Yields (.ok value) calls := by
  intro earlier
  have ran : first earlier = (.ok value, earlier ++ calls) := yields earlier
  show orOnRemoteFailure first second earlier = _
  rw [orOnRemoteFailure, ran]

theorem orOnRemoteFailure_of_error {failure : Failure}
    (other : ∀ reason, failure ≠ .badRemoteReference reason)
    (yields : first.Yields (.error failure) calls) :
    (orOnRemoteFailure first second).Yields (.error failure) calls := by
  intro earlier
  have ran : first earlier = (.error failure, earlier ++ calls) := yields earlier
  show orOnRemoteFailure first second earlier = _
  rw [orOnRemoteFailure, ran]
  cases failure with
  | badRemoteReference reason => exact absurd rfl (other reason)
  | unreadable | badReference | breakdown => rfl

theorem orOnRemoteFailure_of_remote {reason : String} {outcome : Except Failure α}
    {more : List Call} (yields : first.Yields (.error (.badRemoteReference reason)) calls)
    (otherwise : second.Yields outcome more) :
    (orOnRemoteFailure first second).Yields outcome (calls ++ more) := by
  intro earlier
  have ran : first earlier = (.error (.badRemoteReference reason), earlier ++ calls) :=
    yields earlier
  show orOnRemoteFailure first second earlier = _
  rw [orOnRemoteFailure, ran, ← List.append_assoc]
  exact otherwise (earlier ++ calls)

end OrOnRemoteFailure

/-! ## The standard table -/

/-- Some rule of the standard table fits every message. -/
theorem matchRule_standard (message : String) (family : Family) :
    ∃ rule ∈ standardRules, rule.fits message family = true ∧
      matchRule standardRules message family = .ok rule := by
  cases found : standardRules.find? fun rule => rule.fits message family with
  | none =>
    have none_fits := List.find?_eq_none.mp found
    have last := none_fits ⟨.generic, [], none, none, .parser⟩ (by simp [standardRules])
    simp [Rule.fits] at last
  | some rule =>
    refine ⟨rule, List.mem_of_find?_eq_some found, ?_, ?_⟩
    · simpa using List.find?_some found
    · rw [matchRule, found]

/-- The rules of the standard table look at the prose of a message and at its references, never at
resource paths. -/
theorem source_of_mem_standard {rule : Rule} (member : rule ∈ standardRules) :
    rule.source ≠ .semanticCheck := by
  revert rule
  decide

/-- The row of the standard table for remote references. -/
def remoteRule : Rule :=
  ⟨.remoteReference, [remoteReferenceFailure], some .listRemoteReferences, none, .referenceScan⟩

theorem ruleFor_remoteReference : ruleFor standardRules .remoteReference = .ok remoteRule := rfl

/-! ## One message -/

/-- **A message becomes one finding by the standard table, whatever its severity.**  With a resolver
that reads leniently there always is such a finding. -/
theorem diagnose_colours (message : String) (context : MessageContext) :
    ∃ outcome calls,
      Colours (fun severity => diagnose standardRules message (context.withSeverity severity))
        outcome calls ∧
      (∀ finding, outcome = .ok finding → finding.source ≠ .semanticCheck) ∧
      (context.resolver.ReadsLeniently → outcome.isOk) := by
  obtain ⟨rule, member, _, matched⟩ := matchRule_standard message context.family
  have ruled := Yields.ofBreakdown_ok matched
  obtain ⟨outcome, calls, colours, origin, cause, _⟩ := rule.apply_colours message context
  cases outcome with
  | ok finding =>
    refine ⟨.ok finding, [] ++ calls, fun severity =>
      ruled.bind (orOnRemoteFailure_of_ok (colours severity)), ?_, fun _ => rfl⟩
    rintro _ ⟨⟩
    rw [(origin finding rfl).2]
    exact source_of_mem_standard member
  | error failure =>
    by_cases remote : ∃ reason, failure = .badRemoteReference reason
    · obtain ⟨reason, rfl⟩ := remote
      obtain ⟨result, more, others, origin, _, plain⟩ := remoteRule.apply_colours message context
      obtain ⟨found, rfl⟩ := plain (by decide)
      refine ⟨result, [] ++ (calls ++ ([] ++ [])), fun severity =>
        ruled.bind (orOnRemoteFailure_of_remote (colours severity)
          ((Yields.ofBreakdown_ok ruleFor_remoteReference).bind (others severity))), ?_,
        fun _ => found⟩
      intro finding same
      rw [(origin finding same).2]
      decide
    · refine ⟨.error failure, [] ++ calls, fun severity =>
        ruled.bind (orOnRemoteFailure_of_error ?_ (colours severity)), ?_, ?_⟩
      · exact fun reason same => remote ⟨reason, same⟩
      · rintro _ ⟨⟩
      · intro reads
        exact absurd (withCause_fails (reads _ _) (cause failure rfl)) remote

/-! ## Signals of the wrong family -/

/-- Whether a message says, by the standard table, that the document is not of a family. -/
def isSignal (family : Family) (message : String) : Bool :=
  (saysWrongFamily standardRules message family).toOption.getD false

theorem saysWrongFamily_standard (message : String) (family : Family) :
    saysWrongFamily standardRules message family = .ok (isSignal family message) := by
  obtain ⟨rule, _, _, matched⟩ := matchRule_standard message family
  simp [isSignal, saysWrongFamily, codeOf, matched, Except.map, Except.toOption]

/-- A signal is a message whose rule carries the code of the family. -/
theorem isSignal_iff {family : Family} {message : String} {rule : Rule}
    (matched : matchRule standardRules message family = .ok rule) :
    isSignal family message = true ↔ some rule.code = family.wrongFamilyCode? := by
  simp [isSignal, saysWrongFamily, codeOf, matched, Except.map, Except.toOption]

/-- The rules that carry the code of a family ask nothing of the resolver. -/
theorem plain_of_wrongFamilyCode {rule : Rule} (member : rule ∈ standardRules) {family : Family}
    (carries : some rule.code = family.wrongFamilyCode?) :
    rule.rewording ≠ some .explainMalformed ∧ rule.source = .parser := by
  revert rule
  cases family <;> decide

/-- **A signal becomes a finding with the code of its family, without a call.** -/
theorem diagnose_signal {context : MessageContext} {message : String}
    (signal : isSignal context.family message = true) :
    ∃ finding : Diagnostic,
      Colours (fun severity => diagnose standardRules message (context.withSeverity severity))
        (.ok finding) [] ∧
      some finding.code = context.family.wrongFamilyCode? ∧ finding.source = .parser := by
  obtain ⟨rule, member, _, matched⟩ := matchRule_standard message context.family
  have carries := (isSignal_iff matched).mp signal
  obtain ⟨asksNothing, fromParser⟩ := plain_of_wrongFamilyCode member carries
  obtain ⟨outcome, calls, colours, origin, _, plain⟩ := rule.apply_colours message context
  obtain ⟨found, rfl⟩ := plain asksNothing
  cases outcome with
  | error failure => cases found
  | ok finding =>
    obtain ⟨sameCode, sameSource⟩ := origin finding rfl
    refine ⟨finding, fun severity => ?_, sameCode ▸ carries, sameSource.trans fromParser⟩
    exact (Yields.ofBreakdown_ok matched).bind (orOnRemoteFailure_of_ok (colours severity))

end ApiAdmission
