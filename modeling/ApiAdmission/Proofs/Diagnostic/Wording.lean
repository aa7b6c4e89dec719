import ApiAdmission.Proofs.Diagnostic.Findings
import ApiAdmission.Proofs.Text.Replacement

/-!
# Findings keep the words of the message

The first rule of the standard table that fits a message makes the finding, except that a message
about malformed content is handled by the rule for remote references when the lenient reading loses
one.  Every rule adds its words before or behind the message (`Wraps`), and one replaces a pointer
in it: the words between the occurrences stay in their order, and no occurrence is left
(`pointAtDefinitions_pieces`, `contains_pointAtDefinitions`).

So the reader of a finding sees the message itself, whatever its rule is (`diagnose_keeps_message`).
-/

namespace ApiAdmission

set_option autoImplicit false

open Consultation

/-! ## The pointer that is replaced -/

/-- What follows the number sign in the pointer to the components. -/
def componentsSteps : List Char := "/components/schemas/".toList

/-- What follows the number sign in the pointer to the definitions. -/
def definitionsSteps : List Char := "/definitions/".toList

theorem toList_componentsPointer : componentsPointer.toList = '#' :: componentsSteps := by
  decide +kernel

theorem toList_definitionsPointer : definitionsPointer.toList = '#' :: definitionsSteps := by
  decide +kernel

/-- The two pointers begin with a number sign, have no other one, and go on differently. -/
theorem pointers_depart : Text.Departs '#' componentsSteps definitionsSteps where
  once := by decide +kernel
  onceToo := by decide +kernel
  notLonger := by decide +kernel
  notShorter := by decide +kernel

theorem replaces_pointAtDefinitions (message : String) :
    Text.Replaces ('#' :: componentsSteps) ('#' :: definitionsSteps) message.toList
      (pointAtDefinitions message).toList := by
  have shape : (pointAtDefinitions message).toList =
      Text.replaceFrom ('#' :: componentsSteps) ('#' :: definitionsSteps) 0 message.toList := by
    rw [pointAtDefinitions, Text.replaceAll, String.toList_ofList, toList_componentsPointer,
      toList_definitionsPointer]
  rw [shape]
  exact Text.replaces_replaceFrom _ _ _

theorem contains_components_iff {text : String} :
    Text.contains text componentsPointer = true ↔ '#' :: componentsSteps <:+: text.toList := by
  rw [Text.contains_iff, toList_componentsPointer]

theorem eq_join_iff {text separator : String} {pieces : List (List Char)} :
    text = Text.join separator (pieces.map String.ofList) ↔
      text.toList = separator.toList.intercalate pieces := by
  have characters : (Text.join separator (pieces.map String.ofList)).toList =
      separator.toList.intercalate pieces := by
    simp [Text.join, Function.comp_def]
  rw [← characters, String.toList_inj]

/-- What stands between the occurrences of the pointer stays in its order. -/
theorem pointAtDefinitions_pieces (message : String) :
    ∃ pieces, message = Text.join componentsPointer pieces ∧
      pointAtDefinitions message = Text.join definitionsPointer pieces ∧
      ∀ piece ∈ pieces, Text.contains piece componentsPointer = false := by
  obtain ⟨pieces, _, whole, result, free⟩ :=
    (replaces_pointAtDefinitions message).exists_pieces (by simp)
  refine ⟨pieces.map String.ofList, ?_, ?_, ?_⟩
  · rw [eq_join_iff, toList_componentsPointer, whole]
  · rw [eq_join_iff, toList_definitionsPointer, result]
  · simp only [List.forall_mem_map]
    intro piece member
    rw [← Bool.not_eq_true, contains_components_iff, String.toList_ofList]
    exact free piece member

/-- No pointer to the components is left. -/
theorem contains_pointAtDefinitions (message : String) :
    Text.contains (pointAtDefinitions message) componentsPointer = false := by
  rw [← Bool.not_eq_true, contains_components_iff]
  exact (replaces_pointAtDefinitions message).leaves_none pointers_depart

-- The halves of a pointer around another one do not come together.
example : pointAtDefinitions "#/components#/components/schemas//schemas/" =
    "#/components#/definitions//schemas/" := by
  decide +kernel

theorem pointAtDefinitions_of_free {text : String}
    (free : Text.contains text componentsPointer = false) : pointAtDefinitions text = text := by
  rw [← Bool.not_eq_true, contains_components_iff] at free
  exact String.toList_inj.mp ((replaces_pointAtDefinitions text).eq_of_absent free)

/-! ## What each rule makes of a message -/

/-- A text is a message with words before and behind it. -/
def Wraps (message text : String) : Prop :=
  ∃ before after, text = before ++ message ++ after

theorem Wraps.self (message : String) : Wraps message message :=
  ⟨"", "", by simp⟩

theorem wraps_appendRemoteReferences (tree : Option Tree) (message : String) :
    Wraps message (appendRemoteReferences tree message) := by
  unfold appendRemoteReferences
  split
  · exact .self message
  · exact ⟨"", _, by simp only [String.empty_append, String.append_assoc]; rfl⟩

theorem wraps_of_withCause {message text : String} {answer : Except Failure Tree}
    (given : withCause message answer = .ok text) : Wraps message text := by
  rcases answer with (cause | cause | reason | breakdown) | tree <;> cases given
  · exact ⟨"", ". Caused by: " ++ cause, by simp [String.append_assoc]⟩
  · exact ⟨"", ". Caused by: " ++ cause, by simp [String.append_assoc]⟩
  · exact .self message

theorem eq_remote_of_withCause {message reason : String} {answer : Except Failure Tree}
    (failed : withCause message answer = .error (.badRemoteReference reason)) :
    answer = .error (.badRemoteReference reason) := by
  rcases answer with (cause | cause | other | breakdown) | tree <;> cases failed
  rfl

/-- A rewording points at the definitions, or it keeps the message and adds words. -/
theorem Rewording.apply_words (rewording : Rewording) (context : MessageContext)
    (message : String) :
    ∃ outcome calls, (rewording.apply context message).Yields outcome calls ∧
      (∀ text, outcome = .ok text →
        if rewording = .toDefinitions then text = pointAtDefinitions message
        else Wraps message text) ∧
      ∀ failure, outcome = .error failure ↔
        rewording = .explainMalformed ∧
          withCause message (context.resolver.parseLenient context.text context.location) =
            .error failure := by
  cases rewording with
  | wrongFamily label =>
    refine ⟨_, [], .pure _, ?_, by simp⟩
    rintro _ ⟨⟩
    exact ⟨_, "", by rw [String.append_empty]⟩
  | explainMalformed =>
    have read : (context.resolver.readLeniently context.text context.location).Yields
        (.ok (context.resolver.parseLenient context.text context.location)) ([.lenient] ++ []) :=
      (Yields.log .lenient).bind (.pure _)
    refine ⟨_, _, read.bind (.ofFailure _), fun text given => ?_, by simp⟩
    exact wraps_of_withCause given
  | listRemoteReferences =>
    refine ⟨_, [], .pure _, ?_, by simp⟩
    rintro _ ⟨⟩
    exact wraps_appendRemoteReferences _ message
  | toDefinitions =>
    refine ⟨_, [], .pure _, ?_, by simp⟩
    rintro _ ⟨⟩
    rfl
  | referenceHint =>
    refine ⟨_, [], .pure _, ?_, by simp⟩
    rintro _ ⟨⟩
    exact ⟨"", _, by simp only [appendReferenceHint, String.empty_append, String.append_assoc]; rfl⟩

/-- In the standard table the codes of two rules tell how they reword. -/
theorem rewording_of_mem_standard {rule : Rule} (member : rule ∈ standardRules) :
    (rule.code = .schemaReference ↔ rule.rewording = some .toDefinitions) ∧
      (rule.code = .malformed ↔ rule.rewording = some .explainMalformed) := by
  revert rule
  decide

/-- A rule of the standard table makes one finding of a message, or fails as the lenient reading
does. -/
theorem Rule.apply_words {rule : Rule} (member : rule ∈ standardRules) (message : String)
    (context : MessageContext) :
    ∃ (outcome : Except Failure String) (calls : List Call),
      (rule.apply message context).Yields
        (outcome.map fun text => ⟨rule.code, context.severity, text, rule.source⟩) calls ∧
      (∀ text, outcome = .ok text →
        if rule.code = .schemaReference then text = pointAtDefinitions message
        else Wraps message text) ∧
      ∀ failure, outcome = .error failure ↔
        rule.code = .malformed ∧
          withCause message (context.resolver.parseLenient context.text context.location) =
            .error failure := by
  obtain ⟨pointing, explaining⟩ := rewording_of_mem_standard member
  simp only [pointing, explaining]
  cases rewords : rule.rewording with
  | none =>
    refine ⟨.ok message, [], ?_, ?_, by simp⟩
    · simp only [Rule.apply, rewords]
      exact .pure _
    · rintro _ ⟨⟩
      exact .self message
  | some rewording =>
    obtain ⟨outcome, calls, yields, words, fails⟩ := rewording.apply_words context message
    refine ⟨outcome, calls, ?_, ?_, ?_⟩
    · simp only [Rule.apply, rewords]
      exact yields.bind_pure
    · simpa only [Option.some.injEq] using words
    · simpa only [Option.some.injEq] using fails

/-! ## The finding of a message -/

/-- The first rule of the standard table that fits a message is the one that is taken. -/
theorem matchRule_first (message : String) (family : Family) :
    ∃ before rule after, standardRules = before ++ rule :: after ∧
      (∀ other ∈ before, other.fits message family = false) ∧
      rule.fits message family = true ∧ matchRule standardRules message family = .ok rule := by
  obtain ⟨rule, _, _, matched⟩ := matchRule_standard message family
  have found : standardRules.find? (fun rule => rule.fits message family) = some rule := by
    unfold matchRule at matched
    split at matched
    · cases matched
      assumption
    · cases matched
  obtain ⟨fits, before, after, table, others⟩ := List.find?_eq_some_iff_append.mp found
  exact ⟨before, rule, after, table, by simpa using others, fits, matched⟩

/-- The lenient reading of a document loses a remote reference. -/
def MessageContext.LosesReference (context : MessageContext) : Prop :=
  ∃ reason, context.resolver.parseLenient context.text context.location =
    .error (.badRemoteReference reason)

/-- The words of a finding keep those of its message.  The message stands in them as it is, unless
the finding is about a reference to a schema.  Then the pieces of the message stand in them, with
the other pointer between them wherever the pointer to the components stood; that one is left
nowhere, so that replacing it again changes nothing. -/
def Diagnostic.KeepsWords (finding : Diagnostic) (message : String) : Prop :=
  if finding.code = .schemaReference then
    (∃ pieces, message = Text.join componentsPointer pieces ∧
      finding.message = Text.join definitionsPointer pieces ∧
      ∀ piece ∈ pieces, Text.contains piece componentsPointer = false) ∧
    Text.contains finding.message componentsPointer = false ∧
    pointAtDefinitions finding.message = finding.message
  else Wraps message finding.message

theorem keepsWords_of_rule {rule : Rule} {message text : String} {severity : Severity}
    (words : if rule.code = .schemaReference then text = pointAtDefinitions message
      else Wraps message text) :
    Diagnostic.KeepsWords ⟨rule.code, severity, text, rule.source⟩ message := by
  unfold Diagnostic.KeepsWords
  split at words
  case isTrue pointing =>
    subst words
    rw [if_pos pointing]
    exact ⟨pointAtDefinitions_pieces message, contains_pointAtDefinitions message,
      pointAtDefinitions_of_free (contains_pointAtDefinitions message)⟩
  case isFalse other =>
    rw [if_neg other]
    exact words

/-- **Findings keep the words of the message.**  Where the lenient reading does not break down, a
message becomes a finding with the severity of its context.  The finding has the code and the origin
of the first rule that fits, or those of remote references where that rule looks for the cause of
malformed content and the lenient reading loses a remote reference. -/
theorem diagnose_keeps_message (message : String) (context : MessageContext)
    (foreseen : ∀ breakdown,
      context.resolver.parseLenient context.text context.location ≠
        .error (.breakdown breakdown)) :
    ∃ before rule after finding calls,
      standardRules = before ++ rule :: after ∧
      (∀ other ∈ before, other.fits message context.family = false) ∧
      rule.fits message context.family = true ∧
      (diagnose standardRules message context).Yields (.ok finding) calls ∧
      finding.severity = context.severity ∧
      (rule.code = .malformed ∧ context.LosesReference ∧
          finding.code = .remoteReference ∧ finding.source = .referenceScan ∨
        ¬ (rule.code = .malformed ∧ context.LosesReference) ∧
          finding.code = rule.code ∧ finding.source = rule.source) ∧
      finding.KeepsWords message := by
  obtain ⟨before, rule, after, table, passed, fits, matched⟩ :=
    matchRule_first message context.family
  have member : rule ∈ standardRules := by rw [table]; simp
  have ruled := Yields.ofBreakdown_ok matched
  obtain ⟨outcome, calls, yields, words, fails⟩ := Rule.apply_words member message context
  cases outcome with
  | ok text =>
    refine ⟨before, rule, after, _, _, table, passed, fits,
      ruled.bind (orOnRemoteFailure_of_ok yields), rfl, .inr ⟨?_, rfl, rfl⟩,
      keepsWords_of_rule (words text rfl)⟩
    rintro ⟨malformed, reason, lost⟩
    have failed := (fails (.badRemoteReference reason)).mpr ⟨malformed, by rw [lost]; rfl⟩
    cases failed
  | error failure =>
    obtain ⟨malformed, failed⟩ := (fails failure).mp rfl
    obtain ⟨reason, rfl⟩ := withCause_fails foreseen failed
    have lost : context.LosesReference := ⟨reason, eq_remote_of_withCause failed⟩
    have remote : remoteRule ∈ standardRules := by simp [standardRules, remoteRule]
    obtain ⟨found, more, others, otherWords, otherFails⟩ := Rule.apply_words remote message context
    cases found with
    | error other => cases ((otherFails other).mp rfl).1
    | ok text =>
      exact ⟨before, rule, after, _, _, table, passed, fits,
        ruled.bind (orOnRemoteFailure_of_remote yields
          ((Yields.ofBreakdown_ok ruleFor_remoteReference).bind others)), rfl,
        .inl ⟨malformed, lost, rfl, rfl⟩, keepsWords_of_rule (otherWords text rfl)⟩

/-- A definition with a remote reference that is lost. -/
def lostReferenceContext : MessageContext where
  family := .swagger2
  text := ""
  tree := some (.mapping [("$ref", .text "pet.json")])
  location := none
  resolver := ⟨fun _ _ => .ok ⟨none, []⟩, fun _ _ => .ok ⟨none, []⟩,
    fun _ _ => .error (.badRemoteReference "cannot read pet.json")⟩
  severity := .warning

/-- The first rule that fits a message about a malformed reference. -/
theorem code_of_malformedReference :
    (standardRules.find? fun rule =>
      rule.fits "#/components/schemas/Pet is malformed" .swagger2).map Rule.code =
      some .malformed := by
  decide +kernel

/-- The message is handled by the rule for remote references, and stands in the finding as it is. -/
theorem diagnose_keeps_message_lostReference :
    (∀ breakdown, lostReferenceContext.resolver.parseLenient lostReferenceContext.text
      lostReferenceContext.location ≠ .error (.breakdown breakdown)) ∧
    ∃ finding calls,
      (diagnose standardRules "#/components/schemas/Pet is malformed"
        lostReferenceContext).Yields (.ok finding) calls ∧
      finding.severity = .warning ∧ finding.code = .remoteReference ∧
      finding.source = .referenceScan ∧
      Wraps "#/components/schemas/Pet is malformed" finding.message := by
  have foreseen : ∀ breakdown, lostReferenceContext.resolver.parseLenient
      lostReferenceContext.text lostReferenceContext.location ≠ .error (.breakdown breakdown) :=
    fun _ => nofun
  obtain ⟨before, rule, after, finding, calls, table, passed, fits, yields, severity, coded,
    words⟩ :=
    diagnose_keeps_message "#/components/schemas/Pet is malformed" lostReferenceContext foreseen
  have first : standardRules.find? (fun rule =>
      rule.fits "#/components/schemas/Pet is malformed" .swagger2) = some rule :=
    List.find?_eq_some_iff_append.mpr
      ⟨fits, before, after, table, fun other member => congrArg Bool.not (passed other member)⟩
  have malformed := code_of_malformedReference
  rw [first] at malformed
  rcases coded with ⟨_, _, code, source⟩ | ⟨kept, _⟩
  · rw [Diagnostic.KeepsWords, code, if_neg (by decide)] at words
    exact ⟨foreseen, finding, calls, yields, severity, code, source, words⟩
  · exact absurd ⟨Option.some.inj malformed, _, rfl⟩ kept

end ApiAdmission
