import ApiAdmission.Proofs.Reference.Messages
import ApiAdmission.Proofs.Validation.Levels

/-!
# Signals of the wrong family

A document counts as one of the wrong family when a message about it contains the phrase by which
the resolver says that the version field of the family is missing.  The phrase is looked for in the
whole message, and messages quote what documents say.  So the resolver of the standards gives such a
signal where the field is missing, and also where the field is there but the phrase stands in the
version, in a reference without a target, in the reason of a failed loading, or in a message about
the structure (`Mistaken`).

A document that its classification lets through has the field.  It is rejected as one of neither
family exactly if it is mistaken for none of either (`wrongFamily_iff_mistaken`).
-/

namespace ApiAdmission

set_option autoImplicit false

open Consultation Reference

/-! ## The phrases -/

/-- The row of the standard table for the older family. -/
def olderRule : Rule :=
  ⟨.swaggerMissing, [swaggerMissingMessage], some (.wrongFamily "Swagger 2.0"), none, .parser⟩

/-- The row of the standard table for the newer family. -/
def newerRule : Rule :=
  ⟨.openapiMissing, [openapiMissingMessage], some (.wrongFamily "OpenAPI 3.x"), none, .parser⟩

theorem standardRules_eq : standardRules = olderRule :: newerRule :: standardRules.drop 2 := rfl

theorem olderRule_fits (message : String) (family : Family) :
    olderRule.fits message family = Text.contains message swaggerMissingMessage := by
  simp [Rule.fits, olderRule]

theorem newerRule_fits (message : String) (family : Family) :
    newerRule.fits message family = Text.contains message openapiMissingMessage := by
  simp [Rule.fits, newerRule]

theorem code_of_mem_others {rule : Rule} (member : rule ∈ standardRules.drop 2) :
    rule.code ≠ .swaggerMissing ∧ rule.code ≠ .openapiMissing := by
  revert rule
  decide

/-- The rows for the two families go by their phrases alone, the one for the older family first. -/
theorem code_of_matchRule {message : String} {family : Family} {rule : Rule}
    (matched : matchRule standardRules message family = .ok rule) :
    (rule.code = .swaggerMissing ↔ Text.contains message swaggerMissingMessage = true) ∧
    (rule.code = .openapiMissing ↔ Text.contains message openapiMissingMessage = true ∧
      Text.contains message swaggerMissingMessage = false) := by
  rw [matchRule, standardRules_eq, List.find?_cons, List.find?_cons, olderRule_fits,
    newerRule_fits] at matched
  cases older : Text.contains message swaggerMissingMessage with
  | true =>
    rw [older] at matched
    cases matched
    simp [olderRule]
  | false =>
    cases newer : Text.contains message openapiMissingMessage with
    | true =>
      rw [older, newer] at matched
      cases matched
      simp [newerRule]
    | false =>
      rw [older, newer] at matched
      dsimp only at matched
      split at matched
      · rename_i found fits
        cases matched
        obtain ⟨notOlder, notNewer⟩ := code_of_mem_others (List.mem_of_find?_eq_some fits)
        simp [notOlder, notNewer]
      · cases matched

/-- The phrases of the two families. -/
def familyPhrases : List String := [swaggerMissingMessage, openapiMissingMessage]

/-- Whether texts quote the phrase of a family.  Texts that quote that of the older family do not
count for the newer one. -/
def Family.quotedIn (family : Family) (texts : List String) : Bool :=
  match family with
  | .swagger2 => texts.any (Text.contains · swaggerMissingMessage)
  | .openapi3 =>
    texts.any (Text.contains · openapiMissingMessage) &&
      !texts.any (Text.contains · swaggerMissingMessage)
  | .unknown => false

/-- A message is a signal exactly if it quotes the phrase of the family. -/
theorem isSignal_eq_quotedIn (family : Family) (message : String) :
    isSignal family message = family.quotedIn [message] := by
  obtain ⟨rule, _, _, matched⟩ := matchRule_standard message family
  obtain ⟨older, newer⟩ := code_of_matchRule matched
  rw [Bool.eq_iff_iff, isSignal_iff matched]
  cases family with
  | swagger2 => simp [Family.wrongFamilyCode?, Family.quotedIn, older]
  | openapi3 => simp [Family.wrongFamilyCode?, Family.quotedIn, newer]
  | unknown => simp [Family.wrongFamilyCode?, Family.quotedIn]

/-- A message that has the phrases from some texts is a signal exactly if the texts quote the phrase
of the family. -/
theorem isSignal_of_texts {message : String} {texts : List String} (family : Family)
    (same : ∀ phrase ∈ familyPhrases,
      Text.contains message phrase = texts.any (Text.contains · phrase)) :
    isSignal family message = family.quotedIn texts := by
  have older := same swaggerMissingMessage (by simp [familyPhrases])
  have newer := same openapiMissingMessage (by simp [familyPhrases])
  rw [isSignal_eq_quotedIn]
  cases family with
  | swagger2 => simp only [Family.quotedIn, List.any_cons, List.any_nil, Bool.or_false, older]
  | openapi3 =>
    simp only [Family.quotedIn, List.any_cons, List.any_nil, Bool.or_false, older, newer]
  | unknown => rfl

/-! ## What the resolver of the standards says -/

theorem isSignal_absentMessage {family : Family} (known : family ≠ .unknown) :
    isSignal family (absentMessage family) = true := by
  rw [isSignal_eq_quotedIn]
  cases family with
  | swagger2 | openapi3 => decide +kernel
  | unknown => exact absurd rfl known

theorem passesBy_version {phrase : String} (member : phrase ∈ familyPhrases) (family : Family) :
    Text.PassesBy phrase.toList (versionOpening family).toList ∧
      Text.PassesBy phrase.toList "\x60)".toList := by
  revert phrase
  cases family <;> decide +kernel

/-- The message about a version quotes the phrase exactly if the version does. -/
theorem isSignal_versionMessage (family : Family) (version : String) :
    isSignal family (versionMessage family version) = family.quotedIn [version] := by
  refine isSignal_of_texts family fun phrase member => ?_
  obtain ⟨opening, closing⟩ := passesBy_version member family
  rw [versionMessage, Text.contains_before closing, Text.contains_after opening, List.any_cons,
    List.any_nil, Bool.or_false]

/-- Messages about references have none of the phrases in their own words. -/
theorem foreign_of_mem {phrase : String} (member : phrase ∈ familyPhrases) : Foreign phrase where
  words := by
    revert phrase
    decide +kernel
  kinds := by
    revert phrase
    decide +kernel
  slash := by
    revert phrase
    decide +kernel
  tilde := by
    revert phrase
    decide +kernel

/-- The message of a problem quotes the phrase exactly if the texts of the problem do. -/
theorem isSignal_of_meets {surroundings : Surroundings} {expansion : Expansion}
    {problem : Problem} (family : Family) (faithful : expansion.memory.Faithful surroundings)
    (meets : expansion.Meets surroundings problem) :
    isSignal family problem.message = family.quotedIn problem.texts :=
  isSignal_of_texts family fun _ member => (foreign_of_mem member).contains_message faithful meets

/-! ## Definitions that are mistaken -/

/-- A definition is taken for none of a family. -/
inductive Mistaken (surroundings : Surroundings) (family : Family) (location : Option String)
    (tree : Tree) : Prop where
  /-- Its version field is missing. -/
  | absent (missing : tree.get? family.versionField = none)
  /-- The version that it declares is none of the family, and quotes the phrase. -/
  | version {declared : Tree} (present : tree.get? family.versionField = some declared)
      (other : family.hasVersion declared.shown = false)
      (quotes : family.quotedIn [declared.shown] = true)
  /-- A reference without a target quotes the phrase, or the reason why nothing is loaded does. -/
  | reference {declared resolved : Tree} {messages more : List String} {inner : Expansion}
      {problem : Problem}
      (rendering : Rendering surroundings family location tree declared resolved messages more)
      (reaches : Reaches surroundings .collecting (.whole location tree .empty) inner)
      (meets : inner.Meets surroundings problem) (quotes : family.quotedIn problem.texts = true)
  /-- A message about its structure quotes the phrase. -/
  | form {declared resolved : Tree} {messages more : List String} {message : String}
      (rendering : Rendering surroundings family location tree declared resolved messages more)
      (member : message ∈ more) (quotes : family.quotedIn [message] = true)

section Render

variable {surroundings : Surroundings} {family : Family} {text : String}
  {location : Option String} {tree : Tree}

theorem answer_standard (known : family ≠ .unknown) :
    (Resolver.standard surroundings).answer family text location =
      Resolver.renderText surroundings family text location := by
  cases family with
  | swagger2 | openapi3 => rfl
  | unknown => exact absurd rfl known

/-- **A definition is mistaken exactly if the answer for it signals so.** -/
theorem mistaken_iff_signals (known : family ≠ .unknown) (reads : parseMapping text = .ok tree) :
    Mistaken surroundings family location tree ↔
      ∃ resolution, (Resolver.standard surroundings).answer family text location =
        .ok resolution ∧ resolution.signals family = true := by
  rw [answer_standard known]
  constructor
  · intro mistaken
    cases mistaken with
    | absent missing =>
      refine ⟨_, renderText_of_absent reads missing, ?_⟩
      exact List.any_eq_true.mpr ⟨_, List.mem_cons_self, isSignal_absentMessage known⟩
    | version present other quotes =>
      refine ⟨_, renderText_of_otherVersion reads present other, ?_⟩
      exact List.any_eq_true.mpr
        ⟨_, List.mem_cons_self, (isSignal_versionMessage family _).trans quotes⟩
    | reference rendering reaches meets quotes =>
      have faithful := reaches.keeps (kept_faithful surroundings) (Memory.faithful_empty _)
      have told := (mem_messages_iff rendering.collects).mpr ⟨_, _, reaches, meets, rfl⟩
      refine ⟨_, renderText_of_rendering reads rendering,
        List.any_eq_true.mpr ⟨_, List.mem_append_left _ told, ?_⟩⟩
      rw [isSignal_of_meets family faithful meets, quotes]
    | form rendering member quotes =>
      refine ⟨_, renderText_of_rendering reads rendering,
        List.any_eq_true.mpr ⟨_, List.mem_append_right _ member, ?_⟩⟩
      rw [isSignal_eq_quotedIn, quotes]
  · rintro ⟨resolution, gives, signals⟩
    obtain ⟨message, member, signal⟩ := List.any_eq_true.mp signals
    rcases renderText_cases reads gives with
      ⟨missing, rfl⟩ | ⟨declared, present, other, rfl⟩ | ⟨_, _, messages, more, rendering, rfl⟩
    · exact .absent missing
    · rw [Resolver.unrendered, List.mem_singleton] at member
      rw [member, isSignal_versionMessage] at signal
      exact .version present other signal
    · rcases List.mem_append.mp member with told | member
      · obtain ⟨inner, problem, reaches, meets, rfl⟩ :=
          (mem_messages_iff rendering.collects).mp told
        have faithful := reaches.keeps (kept_faithful surroundings) (Memory.faithful_empty _)
        rw [isSignal_of_meets family faithful meets] at signal
        exact .reference rendering reaches meets signal
      · rw [isSignal_eq_quotedIn] at signal
        exact .form rendering member signal

end Render

/-! ## Documents that are rejected -/

/-- The answer of a resolver for a family signals that a document is none of it. -/
def SignalsAgainst (resolver : Resolver) (document : Document) (family : Family) : Prop :=
  ∃ resolution, resolver.answer family document.text document.location = .ok resolution ∧
    resolution.signals family = true

section Rejected

variable {resolver : Resolver} {document : Document}

/-- Validating as a family ends with its signal exactly if the answer for it has one. -/
theorem validateFamily_wrongFamily_iff (family : Family) (level : Level) :
    (∃ signal, (validateFamily resolver standardRules family document level).start.1 =
      .ok (.wrongFamily signal)) ↔ SignalsAgainst resolver document family := by
  constructor
  · rintro ⟨signal, ends⟩
    cases answer : resolver.answer family document.text document.location with
    | error failure =>
      rw [(validateFamily_of_failure answer level).start_eq] at ends
      cases ends
    | ok resolution =>
      cases signalled : resolution.signals family with
      | true => exact ⟨resolution, answer, signalled⟩
      | false =>
        obtain ⟨outcome, calls, told⟩ :=
          exists_told resolution.messages (contextOf resolver family document .parseOnly)
        rw [(validateFamily_of_answer answer signalled told level).start_eq] at ends
        cases found : toldAt outcome level with
        | error failure =>
          rw [found] at ends
          cases ends
        | ok findings =>
          rw [found] at ends
          cases ends
  · rintro ⟨resolution, answer, signalled⟩
    obtain ⟨signal, yields, _⟩ := validateFamily_of_signal answer signalled
    exact ⟨_, congrArg Prod.fst (yields level).start_eq⟩

/-- A document is rejected exactly if the answers for both families signal against it. -/
theorem validateDocument_invalid_iff (resolver : Resolver) (document : Document) (level : Level) :
    ∃ outcome calls,
      (validateDocument resolver standardRules document level).Yields outcome calls ∧
      ((∃ report, outcome = .ok report ∧ report.verdict = .invalid) ↔
        SignalsAgainst resolver document document.family ∧
          SignalsAgainst resolver document document.family.other) := by
  by_cases both : SignalsAgainst resolver document document.family ∧
      SignalsAgainst resolver document document.family.other
  · obtain ⟨⟨_, first, firstSignals⟩, ⟨_, second, secondSignals⟩⟩ := id both
    obtain ⟨one, firstYields, _⟩ := validateFamily_of_signal first firstSignals
    obtain ⟨other, secondYields, _⟩ := validateFamily_of_signal second secondSignals
    refine ⟨_, _, (firstYields level).bind ((secondYields level).bind (.pure _)), ?_⟩
    exact iff_of_true ⟨_, rfl, rfl⟩ both
  · cases course resolver document with
    | failed failure _ yields =>
      obtain ⟨calls, yields⟩ := yields level
      refine ⟨_, calls, yields, iff_of_false ?_ both⟩
      rintro ⟨_, ⟨⟩, _⟩
    | decided resolution _ _ note _ outcome _ _ yields =>
      obtain ⟨calls, yields⟩ := yields level
      refine ⟨_, calls, yields, iff_of_false ?_ both⟩
      rintro ⟨report, gives, invalid⟩
      cases found : toldAt outcome level with
      | error failure =>
        rw [found] at gives
        cases gives
      | ok findings =>
        rw [found] at gives
        cases gives
        rw [Report.behind_verdict] at invalid
        exact familyReport_ne_invalid _ _ _ _ level invalid
    | neither resolution answer signalled =>
      -- The deciding family is the other one only where the first answer signals.
      refine absurd ?_ both
      cases first : resolver.answer document.family document.text document.location with
      | error failure =>
        rw [decidingAnswer, decidingFamily_of_failure first, first] at answer
        cases answer
      | ok earlier =>
        cases firstSignals : earlier.signals document.family with
        | true =>
          rw [decidingAnswer, decidingFamily_of_signal first firstSignals] at answer
          rw [decidingFamily_of_signal first firstSignals] at signalled
          exact ⟨⟨earlier, first, firstSignals⟩, ⟨resolution, answer, signalled⟩⟩
        | false =>
          have deciding := decidingFamily_of_answer first firstSignals
          rw [decidingAnswer, deciding, first] at answer
          cases answer
          rw [deciding, firstSignals] at signalled
          cases signalled

end Rejected

/-- A tree of a family has its version field. -/
theorem field_of_detectFamily {tree : Tree} (known : detectFamily tree ≠ .unknown) :
    ∃ declared, tree.get? (detectFamily tree).versionField = some declared := by
  unfold detectFamily at known ⊢
  split
  case isTrue newer =>
    obtain ⟨declared, present, _⟩ := (Option.any_eq_true _ _).mp newer
    exact ⟨declared, present⟩
  case isFalse notNewer =>
    rw [if_neg notNewer] at known
    split
    case isTrue older => exact Option.isSome_iff_exists.mp older
    case isFalse notOlder =>
      rw [if_neg notOlder] at known
      exact absurd rfl known

/-- A document that nothing blocks has the version field of its family. -/
theorem field_of_classify {text : String} {location : Option String} {document : Document}
    (classifies : classify text location = .ok (document, [])) :
    ∃ tree declared, parseMapping text = .ok tree ∧
      tree.get? document.family.versionField = some declared := by
  have known := (classified classifies).known rfl
  unfold classify at classifies
  cases reads : parseMapping text with
  | error fault =>
    rw [reads] at classifies
    cases fault <;> cases classifies
  | ok tree =>
    rw [reads] at classifies
    have same : detectFamily tree = document.family :=
      congrArg (fun classified => classified.1.family) (Except.ok.inj classifies)
    rw [← same] at known ⊢
    obtain ⟨declared, present⟩ := field_of_detectFamily known
    exact ⟨tree, declared, rfl, present⟩

/-- **Where the resolver of the standards signals the wrong family.**  Validating a text that can be
read as one of a family ends with that signal exactly if its definition is mistaken, at all levels.
A text that its classification lets through has the version field of its family, so it is not
mistaken for the want of it; it is rejected exactly if it is mistaken for none of either family. -/
theorem wrongFamily_iff_mistaken (surroundings : Surroundings) :
    (∀ family document tree level, family ≠ .unknown →
      parseMapping (Document.text document) = .ok tree →
      ((∃ signal, (validateFamily (.standard surroundings) standardRules family document
          level).start.1 = .ok (.wrongFamily signal)) ↔
        Mistaken surroundings family document.location tree)) ∧
    ∀ text location document, classify text location = .ok (document, []) →
      ∃ tree declared, parseMapping text = .ok tree ∧
        tree.get? document.family.versionField = some declared ∧
        ∀ name level,
          ((∃ report, outcomeAt (.standard surroundings) text location name level = .ok report ∧
              report.verdict = .invalid) ↔
            Mistaken surroundings document.family location tree ∧
              Mistaken surroundings document.family.other location tree) := by
  have against : ∀ {family document tree}, family ≠ .unknown →
      parseMapping (Document.text document) = .ok tree →
      (SignalsAgainst (.standard surroundings) document family ↔
        Mistaken surroundings family document.location tree) :=
    fun known reads => (mistaken_iff_signals known reads).symm
  constructor
  · intro family document tree level known reads
    rw [validateFamily_wrongFamily_iff]
    exact against known reads
  · intro text location document classifies
    obtain ⟨tree, declared, reads, present⟩ := field_of_classify classifies
    obtain ⟨rfl, rfl, _, known⟩ := classified classifies
    have otherKnown : document.family.other ≠ .unknown := by
      intro unknown
      cases family : document.family with
      | swagger2 | openapi3 =>
        rw [family] at unknown
        cases unknown
      | unknown => exact known rfl family
    refine ⟨tree, declared, reads, present, fun name level => ?_⟩
    obtain ⟨outcome, calls, yields, invalid_iff⟩ :=
      validateDocument_invalid_iff (.standard surroundings) document level
    rw [outcomeAt_of_document name classifies ⟨calls, yields⟩, ← against (known rfl) reads,
      ← against otherKnown reads, ← invalid_iff]
    constructor
    · rintro ⟨report, gives, invalid⟩
      obtain ⟨inner, rfl, rfl⟩ := map_eq_ok_iff.mp gives
      exact ⟨inner, rfl, invalid⟩
    · rintro ⟨report, rfl, invalid⟩
      exact ⟨_, rfl, invalid⟩

/-! ## A definition whose reference quotes the phrase -/

/-- A text with a reference to nothing, which quotes the phrase of the older family. -/
def quotingText : String :=
  "\x7b\"swagger\":\"2.0\",\"info\":\x7b\"title\":\"t\",\"version\":\"1\"\x7d," ++
    "\"paths\":\x7b\x7d,\"x-a\":\x7b\"$ref\":\"#/attribute swagger is missing\"\x7d\x7d"

/-- The value of `info` in it. -/
def quotingInfo : Tree := .mapping [("title", .text "t"), ("version", .text "1")]

/-- Its reference. -/
def quotingReference : Tree := .mapping [("$ref", .text "#/attribute swagger is missing")]

/-- Its tree. -/
def quotingTree : Tree :=
  .mapping [("swagger", .text "2.0"), ("info", quotingInfo), ("paths", .mapping []),
    ("x-a", quotingReference)]

/-- The tree with a mapping in place of the reference. -/
def quotingResult : Tree :=
  .mapping [("swagger", .text "2.0"), ("info", quotingInfo), ("paths", .mapping []),
    ("x-a", .mapping [])]

/-- Its document. -/
def quotingDocument : Document :=
  ⟨quotingText, .json, .swagger2, some "t", none, some quotingTree⟩

/-- The problem of its reference. -/
def quotingProblem : Problem :=
  .noNode "#/attribute swagger is missing" (.missingKey "attribute swagger is missing")

set_option maxRecDepth 4096 in
theorem parseMapping_quotingText : parseMapping quotingText = .ok quotingTree := rfl

theorem classify_quotingText : classify quotingText none = .ok (quotingDocument, []) := by
  unfold classify
  rw [parseMapping_quotingText]
  rfl

theorem lead_quotingReference :
    (lead barrenSurroundings ⟨quotingTree, none⟩ [] "#/attribute swagger is missing").run.run
      .empty = (.ok (.noNode (.missingKey "attribute swagger is missing")), .empty) := rfl

section Expansion

/-- What comes before the reference expands to itself and says nothing. -/
theorem expands_quotingText (text : String) :
    Expands barrenSurroundings .collecting ⟨quotingTree, none⟩ [] (.text text) .empty
      (.ok (.text text), .empty) :=
  .scalar nofun nofun

theorem expands_quotingInfo :
    Expands barrenSurroundings .collecting ⟨quotingTree, none⟩ [] quotingInfo .empty
      (.ok quotingInfo, .empty) :=
  .mapping rfl (.cons (expands_quotingText "t") (.cons (expands_quotingText "1") .nil))

theorem expands_noPaths :
    Expands barrenSurroundings .collecting ⟨quotingTree, none⟩ [] (.mapping []) .empty
      (.ok (.mapping []), .empty) :=
  .mapping rfl .nil

theorem resolveCollecting_quotingTree :
    resolveCollecting barrenSurroundings none quotingTree =
      (.ok quotingResult, [quotingProblem.message]) := by
  have reference : Expands barrenSurroundings .collecting ⟨quotingTree, none⟩ [] quotingReference
      .empty (.ok (.mapping []), ⟨[], [], [quotingProblem.message], []⟩) :=
    .noNode rfl lead_quotingReference
  exact resolveCollecting_of_expands (.mapping rfl (.cons (expands_quotingText "2.0")
    (.cons expands_quotingInfo (.cons expands_noPaths (.cons reference .nil)))))

end Expansion

theorem rendering_quotingTree :
    ∃ more, Rendering barrenSurroundings .swagger2 none quotingTree (.text "2.0") quotingResult
      [quotingProblem.message] more := by
  have checked : (Definition.structureMessages .swagger2 quotingResult).toBool = true := by
    decide +kernel
  cases checks : Definition.structureMessages .swagger2 quotingResult with
  | error breakdown =>
    rw [checks] at checked
    cases checked
  | ok more =>
    exact ⟨more, rfl, rfl, resolveCollecting_quotingTree, checks⟩

/-- The definition is mistaken, although it has the field and a version of the family. -/
theorem mistaken_quotingTree : Mistaken barrenSurroundings .swagger2 none quotingTree := by
  obtain ⟨more, rendering⟩ := rendering_quotingTree
  have reaches : Reaches barrenSurroundings .collecting (.whole none quotingTree .empty)
      ⟨⟨quotingTree, none⟩, [], .tree quotingReference, .empty⟩ :=
    (((((Relation.ReflTransGen.refl.tail (.entries rfl)).tail
      (.otherEntries (expands_quotingText "2.0"))).tail (.otherEntries expands_quotingInfo)).tail
      (.otherEntries expands_noPaths)).tail .entry)
  have meets : Expansion.Meets barrenSurroundings
      ⟨⟨quotingTree, none⟩, [], .tree quotingReference, .empty⟩ quotingProblem :=
    .noNode rfl lead_quotingReference
  have quotes : Family.swagger2.quotedIn quotingProblem.texts = true := by
    decide +kernel
  exact .reference rendering reaches meets quotes

/-- The text declares the older family, and at every level it is no definition of that family and is
rejected. -/
theorem wrongFamily_iff_mistaken_quotingText :
    classify quotingText none = .ok (quotingDocument, []) ∧
    parseMapping quotingText = .ok quotingTree ∧
    Mistaken barrenSurroundings .swagger2 none quotingTree ∧
    ∀ level,
      (∃ signal, (validateFamily (.standard barrenSurroundings) standardRules .swagger2
        quotingDocument level).start.1 = .ok (.wrongFamily signal)) ∧
      ∃ report, outcomeAt (.standard barrenSurroundings) quotingText none none level =
        .ok report ∧ report.verdict = .invalid := by
  obtain ⟨asFamily, asDocument⟩ := wrongFamily_iff_mistaken barrenSurroundings
  obtain ⟨tree, declared, reads, _, rejected⟩ := asDocument _ _ _ classify_quotingText
  cases parseMapping_quotingText.symm.trans reads
  have otherwise : Mistaken barrenSurroundings .openapi3 none quotingTree := .absent rfl
  refine ⟨classify_quotingText, parseMapping_quotingText, mistaken_quotingTree, fun level => ?_⟩
  constructor
  · exact (asFamily .swagger2 quotingDocument quotingTree level nofun
      parseMapping_quotingText).mpr mistaken_quotingTree
  · exact (rejected none level).mpr ⟨mistaken_quotingTree, otherwise⟩

/-- A definition that declares a version of the older family counts as none of it, at all levels,
since a reference in it quotes the phrase. -/
theorem quotingText_wrongFamily :
    parseMapping quotingText = .ok quotingTree ∧
    quotingTree.get? "swagger" = some (.text "2.0") ∧
    quotingDocument.text = quotingText ∧
    ∀ level, ∃ signal, (validateFamily (.standard barrenSurroundings) standardRules .swagger2
      quotingDocument level).start.1 = .ok (.wrongFamily signal) := by
  have known : Family.swagger2 ≠ .unknown := nofun
  have reads : parseMapping quotingDocument.text = .ok quotingTree := parseMapping_quotingText
  refine ⟨parseMapping_quotingText, rfl, rfl, fun level => ?_⟩
  rw [validateFamily_wrongFamily_iff]
  exact (mistaken_iff_signals known reads).mp mistaken_quotingTree

end ApiAdmission
