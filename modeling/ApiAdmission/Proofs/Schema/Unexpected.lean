import ApiAdmission.Proofs.Outcome
import ApiAdmission.Proofs.Schema.Quotes
import ApiAdmission.Schema.Validate

/-!
# Unexpected attributes by their names

A schema that allows no other properties than it speaks of has one violation by an object with
others.  The words of the violation quote the keys of these, and where the schema has patterns, the
patterns as well.  The messages are made of whatever the words quote.

So they name the unexpected keys, and nothing else, only where all of these keys are plain and no
pattern is quoted; `unexpected_named_iff` gives the exact condition.  It fails for every schema with
a usual pattern (`pattern_is_named`).
-/

namespace ApiAdmission.Schema

set_option autoImplicit false

/-! ## The keys that a schema says nothing about -/

/-- The properties that a schema lists. -/
def listedProperties (schema : List (String × Tree)) : List (String × Tree) :=
  ((Tree.lookup? "properties" schema).map Tree.entries).getD []

/-- Whether a key is neither listed among the properties of a schema nor matched by one of its
patterns. -/
def isUnexpected (schema : List (String × Tree)) (name : String) : Bool :=
  (Tree.lookup? name (listedProperties schema)).isNone &&
    !(namePatterns schema).any fun pattern => Pattern.search pattern name

/-- The keys of an object that are neither listed nor matched. -/
def unexpectedKeys (schema entries : List (String × Tree)) : List String :=
  (entries.map Prod.fst).filter (isUnexpected schema)

/-- The message that a name at a place is unexpected. -/
def unexpectedAttribute (path : List Step) (name : String) : String :=
  "attribute " ++ (if placeText path == "" then "" else placeText path ++ ".") ++ name ++
    " is unexpected"

theorem unexpectedAttribute_injective (path : List Step) :
    Function.Injective (unexpectedAttribute path) := by
  intro first second same
  have characters := congrArg String.toList same
  simp only [unexpectedAttribute, String.toList_append] at characters
  exact String.toList_injective (List.append_cancel_left (List.append_cancel_right characters))

section Extras

variable {schema entries : List (String × Tree)} {name : String}

theorem eq_search_of_fits {pattern : String} {matched : Bool}
    (given : fits pattern name = .ok matched) : matched = Pattern.search pattern name := by
  unfold fits at given
  unfold Pattern.search
  cases read : Pattern.ofText? pattern with
  | none =>
    rw [read] at given
    cases given
  | some pattern =>
    rw [read] at given
    cases given
    rfl

theorem eq_any_of_fitsAny {patterns : List String} {matched : Bool}
    (given : fitsAny patterns name = .ok matched) :
    matched = patterns.any fun pattern => Pattern.search pattern name := by
  obtain ⟨results, each, ⟨⟩⟩ := bind_eq_ok_iff.mp given
  have pairs := mapM_eq_ok_iff.mp each
  clear given each
  induction pairs with
  | nil => rfl
  | @cons pattern result patterns results first _ ih =>
    rw [List.any_cons, ← ih, ← eq_search_of_fits first]
    cases result <;> simp

theorem eq_isUnexpected_of_isExtra {extra : Bool} (named : namePatterns schema ≠ [""])
    (given : isExtra schema name = .ok extra) : extra = isUnexpected schema name := by
  change (if (Tree.lookup? name (listedProperties schema)).isSome then .ok false
    else if namePatterns schema == [""] then .ok true
    else (fitsAny (namePatterns schema) name).map (!·)) = Except.ok extra at given
  unfold isUnexpected
  cases listed : Tree.lookup? name (listedProperties schema) with
  | some value =>
    rw [listed, if_pos Option.isSome_some] at given
    cases given
    rfl
  | none =>
    rw [listed, if_neg (by simp), if_neg (by simpa using named)] at given
    obtain ⟨matched, fitting, rfl⟩ := map_eq_ok_iff.mp given
    rw [← eq_any_of_fitsAny fitting]
    rfl

/-- Where the patterns can be searched, the extra names are the keys that are neither listed nor
matched, unless the only pattern is empty. -/
theorem extraNames_of_ok {extras : List String} (named : namePatterns schema ≠ [""])
    (given : extraNames schema entries = .ok extras) : extras = unexpectedKeys schema entries := by
  unfold extraNames at given
  unfold unexpectedKeys
  generalize entries.map Prod.fst = keys at given
  induction keys generalizing extras with
  | nil =>
    cases given
    rfl
  | cons key rest ih =>
    obtain ⟨found, first, rested⟩ := bind_eq_ok_iff.mp given
    obtain ⟨extra, decided, ⟨⟩⟩ := bind_eq_ok_iff.mp first
    obtain ⟨others, further, ⟨⟩⟩ := bind_eq_ok_iff.mp rested
    rw [ih further, List.filter_cons, ← eq_isUnexpected_of_isExtra named decided]
    cases extra <;> rfl

/-- The empty pattern matches every key, so that none is unexpected. -/
theorem unexpectedKeys_of_emptyPattern (named : namePatterns schema = [""]) :
    unexpectedKeys schema entries = [] := by
  have matched (name : String) : Pattern.search "" name = true := by
    have empty : Pattern.ofText? "" = some .empty := by rfl
    simp only [Pattern.search, empty, Option.any_some, Pattern.occursIn, List.any_eq_true]
    exact ⟨0, by simp, rfl⟩
  rw [unexpectedKeys, List.filter_eq_nil_iff]
  intro name _
  simp [isUnexpected, named, matched]

end Extras

/-! ## The violation of unexpected attributes -/

section Violations

variable {application : Application} {entries : List (String × Tree)}

/-- Where no more may be, an object with extra names has one violation. -/
theorem violations_of_closed (keyword : application.keyword = "additionalProperties")
    (closed : application.value = .boolean false)
    (object : application.subject = .mapping entries) :
    application.violations = (extraNames application.schema entries).map fun extras =>
      if extras.isEmpty then []
      else [application.own (extraMessage application.frame.dialect application.schema extras)
        []] := by
  have known : application.frame.dialect.knows "additionalProperties" = true := by
    cases application.frame.dialect <;> decide +kernel
  have single : Application.combinationKeywords.contains "additionalProperties" = false := by
    decide +kernel
  have property : Application.propertyKeywords.contains "additionalProperties" = true := by
    decide +kernel
  simp only [Application.violations, keyword, known, single, property, object,
    Application.properties, closed, Tree.isMapping, Tree.isTruthy]
  cases extraNames application.schema entries with
  | error fault => rfl
  | ok extras => cases extras <;> rfl

/-- The messages of the violation are about the names that its words quote. -/
theorem describe_own (keyword : application.keyword = "additionalProperties") (message : String)
    (path : List Step) :
    describe application.frame.dialect ((application.own message []).under path) =
      (unexpectedNames message).map (unexpectedAttribute path) := by
  have whole : ((application.own message []).under path).best application.frame.dialect =
      .mk (some "additionalProperties") application.value path message application.subject
        (.mapping application.schema) [] := by
    simp [Violation.best, Violation.context, Application.own, Violation.under, keyword]
  rw [describe, whole]
  rfl

theorem unexpectedNames_ne_nil (message : String) : unexpectedNames message ≠ [] := by
  unfold unexpectedNames
  split
  · nofun
  · assumption

/-! ## The words of the violation -/

theorem sorted_perm (names : List String) : (sorted names).Perm names :=
  List.mergeSort_perm names _

theorem unquoted_congr {first second : List String} (same : first.Perm second) :
    Unquoted first ↔ Unquoted second := by
  suffices onward : ∀ {first second : List String}, first.Perm second →
      Unquoted first → Unquoted second from ⟨onward same, onward same.symm⟩
  intro first second same unquoted
  cases unquoted with
  | none => exact same.nil_eq ▸ .none
  | empty => exact List.singleton_perm.mp same ▸ .empty
  | block single double split free freeAfter =>
    exact List.singleton_perm.mp same ▸ .block single double split free freeAfter

theorem toList_unexpected (shown : List String) :
    ("Additional properties are not allowed (" ++ unexpected (shown.map Text.quote)).toList =
      "Additional properties are not allowed (".toList ++ ((literals shown).toList ++
        ((if (shown.map Text.quote).length == 1 then " was" else " were").toList ++
          " unexpected)".toList)) := by
  simp only [unexpected, literals, String.toList_append, List.append_assoc]

theorem toList_unmatched (verb : String) (shown patterns : List String) :
    (literals shown ++ verb ++ " not match any of the regexes: " ++ literals patterns).toList =
      [] ++ ((literals shown).toList ++ (verb.toList ++
        (" not match any of the regexes: ".toList ++ (literals patterns).toList))) := by
  simp only [String.toList_append, List.append_assoc, List.nil_append]

/-- Names may be shown in any order. -/
theorem shownNames_perm_iff {shown names : List String} {message : String}
    {start finish : List Char} (same : shown.Perm names) (inhabited : names ≠ [])
    (free : '\'' ∉ start)
    (said : message.toList = start ++ ((literals shown).toList ++ finish)) :
    (unexpectedNames message).Perm names ↔
      (∀ name ∈ names, IsPlain name) ∧ between finish = [] := by
  have some : shown ≠ [] := fun none => inhabited (none ▸ same).nil_eq.symm
  rw [← same.congr_right, unexpectedNames_perm_iff some free said]
  simp only [same.mem_iff]

/-- The words give the extra names exactly if these are plain, and the patterns are not quoted
where the words are about them. -/
theorem unexpectedNames_extraMessage {dialect : Dialect} {schema : List (String × Tree)}
    {extras : List String} (inhabited : extras ≠ []) :
    (unexpectedNames (extraMessage dialect schema extras)).Perm extras ↔
      (∀ name ∈ extras, IsPlain name) ∧
        ((Tree.lookup? "patternProperties" schema).isSome → dialect ≠ .definition3 →
          Unquoted (namePatterns schema)) := by
  unfold extraMessage
  split
  case isTrue patterned =>
    simp only [Bool.and_eq_true, bne_iff_ne] at patterned
    have verb : '\'' ∉ (if extras.length == 1 then " does" else " do").toList := by
      split <;> decide
    have rest : '\'' ∉ " not match any of the regexes: ".toList := by decide +kernel
    rw [shownNames_perm_iff (sorted_perm extras) inhabited List.not_mem_nil
        (toList_unmatched _ _ _),
      between_append verb, between_append rest, between_literals_eq_nil_iff,
      unquoted_congr (sorted_perm _)]
    simp [patterned]
  case isFalse unpatterned =>
    have unquoted : (Tree.lookup? "patternProperties" schema).isSome → dialect ≠ .definition3 →
        Unquoted (namePatterns schema) := by
      intro present other
      exact absurd (by simp [present, other]) unpatterned
    have start : '\'' ∉ "Additional properties are not allowed (".toList := by decide +kernel
    have finish (single : Bool) :
        '\'' ∉ (if single then " was" else " were").toList ++ " unexpected)".toList := by
      cases single <;> decide +kernel
    have shown : (if dialect == .definition3 then extras else sorted extras).Perm extras := by
      split
      · exact .refl _
      · exact sorted_perm extras
    rw [shownNames_perm_iff shown inhabited start (toList_unexpected _),
      between_of_not_mem (finish _), and_iff_left rfl, and_iff_left unquoted]

end Violations

/-! ## Messages that name the unexpected keys -/

/-- When the messages of a violation name the unexpected keys, and nothing else: all of them are
plain, the patterns are not just the empty one, and where the words are about patterns, these are
not quoted. -/
structure NamesUnexpected (dialect : Dialect) (schema entries : List (String × Tree)) : Prop where
  /-- Every unexpected key is written in the words as it is. -/
  plain : ∀ name ∈ unexpectedKeys schema entries, IsPlain name
  /-- The empty pattern alone, which matches every key, counts as none. -/
  patterned : namePatterns schema ≠ [""]
  /-- The words about patterns quote no pattern. -/
  unquoted : (Tree.lookup? "patternProperties" schema).isSome → dialect ≠ .definition3 →
    Unquoted (namePatterns schema)

/-- **Unexpected attributes are named exactly where the words quote nothing else.**  A schema that
closes its objects yields at most one violation, and one exactly if some key is neither listed nor
matched, unless its only pattern is empty.  At every place, the messages of the violation are one
for each of these keys exactly if the keys are plain and no pattern is quoted. -/
theorem unexpected_named_iff {application : Application} {entries : List (String × Tree)}
    {violations : List Violation} (keyword : application.keyword = "additionalProperties")
    (closed : application.value = .boolean false) (object : application.subject = .mapping entries)
    (given : application.violations = .ok violations) :
    violations.length ≤ 1 ∧
    (namePatterns application.schema ≠ [""] →
      (violations = [] ↔ unexpectedKeys application.schema entries = [])) ∧
    ∀ violation ∈ violations, ∀ path,
      (describe application.frame.dialect (violation.under path)).Perm
          ((unexpectedKeys application.schema entries).map (unexpectedAttribute path)) ↔
        NamesUnexpected application.frame.dialect application.schema entries := by
  rw [violations_of_closed keyword closed object] at given
  obtain ⟨extras, named, rfl⟩ := map_eq_ok_iff.mp given
  refine ⟨by split <;> simp, fun patterned => ?_, ?_⟩
  · rw [← extraNames_of_ok patterned named]
    cases extras <;> simp
  · intro violation member path
    split at member
    · cases member
    · rename_i some
      have inhabited : extras ≠ [] := by simpa using some
      cases List.mem_singleton.mp member
      rw [describe_own keyword, List.map_perm_map_iff (unexpectedAttribute_injective path)]
      by_cases patterned : namePatterns application.schema = [""]
      · rw [unexpectedKeys_of_emptyPattern patterned, List.perm_nil]
        exact iff_of_false (unexpectedNames_ne_nil _) fun names => names.patterned patterned
      · rw [← extraNames_of_ok patterned named, unexpectedNames_extraMessage inhabited]
        constructor
        · rintro ⟨plain, unquoted⟩
          exact ⟨extraNames_of_ok patterned named ▸ plain, patterned, unquoted⟩
        · rintro ⟨plain, _, unquoted⟩
          exact ⟨extraNames_of_ok patterned named ▸ plain, unquoted⟩

/-- The keyword that closes a schema, for an object. -/
def closing (schema entries : List (String × Tree)) : Application where
  frame := ⟨.fourth, []⟩
  root := .mapping schema
  schema := schema
  keyword := "additionalProperties"
  value := .boolean false
  subject := .mapping entries
  validate := validateWithin ⟨.fourth, []⟩ 0
  nesting := 0

/-- A closed schema that lists one property. -/
def listingSchema : List (String × Tree) :=
  [("properties", .mapping [("a", .mapping [])]), ("additionalProperties", .boolean false)]

/-- An object with that property and another key. -/
def twoKeys : List (String × Tree) := [("a", .integer 1), ("b", .integer 2)]

/-- Without patterns, the other key is named at its place. -/
theorem other_key_is_named :
    ∃ violation, (closing listingSchema twoKeys).violations = .ok [violation] ∧
      (describe .fourth (violation.under [.key "info"])).Perm
        ["attribute info.b is unexpected"] := by
  have given : (closing listingSchema twoKeys).violations =
      .ok [(closing listingSchema twoKeys).own (extraMessage .fourth listingSchema ["b"]) []] :=
    (violations_of_closed rfl rfl rfl).trans rfl
  have keys : unexpectedKeys listingSchema twoKeys = ["b"] := by rfl
  have message : unexpectedAttribute [.key "info"] "b" = "attribute info.b is unexpected" := by
    decide +kernel
  have names : NamesUnexpected .fourth listingSchema twoKeys := by
    refine ⟨fun name member => ?_, by decide +kernel, fun present => ?_⟩
    · rw [keys, List.mem_singleton] at member
      subst member
      refine ⟨by decide, fun c letter => ?_⟩
      obtain rfl := List.mem_singleton.mp letter
      decide
    · cases present
  obtain ⟨_, _, exactly⟩ := unexpected_named_iff rfl rfl rfl given
  have named := (exactly _ List.mem_cons_self [.key "info"]).mpr names
  rw [show (closing listingSchema twoKeys).schema = listingSchema from rfl, keys,
    List.map_singleton, message] at named
  exact ⟨_, given, named⟩

/-- A closed schema with a pattern, as nearly all closed schemas of definitions have one. -/
def patternedSchema : List (String × Tree) :=
  [("patternProperties", .mapping [("^x-", .mapping [])]), ("additionalProperties", .boolean false)]

/-- An object with one key that the pattern does not match. -/
def oneKey : List (String × Tree) := [("a", .integer 1)]

/-- The pattern is named like an attribute, besides the one key that is unexpected. -/
theorem pattern_is_named :
    (validate ⟨.fourth, []⟩ ⟨.mapping patternedSchema, .mapping patternedSchema⟩
        (.mapping oneKey)).map (·.map (describe .fourth)) =
      .ok [["attribute a is unexpected", "attribute ^x- is unexpected"]] ∧
    (unexpectedKeys patternedSchema oneKey).map (unexpectedAttribute []) =
      ["attribute a is unexpected"] ∧
    ¬ ["attribute a is unexpected", "attribute ^x- is unexpected"].Perm
      ["attribute a is unexpected"] :=
  ⟨by decide +kernel, by decide +kernel, by decide +kernel⟩

end ApiAdmission.Schema
