import ApiAdmission.Schema.Assertion
import ApiAdmission.Schema.Reference

/-!
# Validating a value against a schema

The keywords of a schema are taken in the order in which the schema has them, and each yields its
violations.  Keywords about parts of the value validate these parts and pass their violations on;
alternatives pass theirs on inside one violation of their own.  In the older dialects a reference
hides the keywords beside it.

Validation of one value goes from schema to schema before it goes down into the value, so the depth
of a validation is bounded by the sizes of the schemas and of the value.
-/

namespace ApiAdmission.Schema

set_option autoImplicit false

/-- The violations found, or a breakdown. -/
abbrev Found := Except Breakdown (List Violation)

/-- What validation depends on besides schema and value. -/
structure Frame where
  /-- The dialect of the schemas. -/
  dialect : Dialect
  /-- Documents that references may name, with their addresses. -/
  documents : List (String × Tree)

/-- A schema with the document that its references are about. -/
structure Located where
  /-- The document around the schema. -/
  root : Tree
  /-- The schema. -/
  schema : Tree

/-- The results of a search over the members of a list, one after the other. -/
def gather {α β : Type} (search : α → Except Breakdown (List β)) :
    List α → Except Breakdown (List β)
  | [] => .ok []
  | member :: rest => do
    let found ← search member
    return found ++ (← gather search rest)

/-! ## Keywords -/

/-- The keywords of the fourth draft. -/
def fourthKeywords : List String :=
  ["$ref", "additionalItems", "additionalProperties", "allOf", "anyOf", "dependencies", "enum",
    "items", "maxItems", "maxLength", "maxProperties", "maximum", "minItems", "minLength",
    "minProperties", "minimum", "multipleOf", "not", "oneOf", "pattern", "patternProperties",
    "properties", "required", "type", "uniqueItems"]

/-- The keywords of the draft of December 2020. -/
def december2020Keywords : List String :=
  ["$dynamicRef", "$ref", "additionalProperties", "allOf", "anyOf", "const", "contains",
    "dependentRequired", "dependentSchemas", "enum", "exclusiveMaximum", "exclusiveMinimum", "if",
    "items", "maxItems", "maxLength", "maxProperties", "maximum", "minItems", "minLength",
    "minProperties", "minimum", "multipleOf", "not", "oneOf", "pattern", "patternProperties",
    "prefixItems", "properties", "propertyNames", "required", "type", "unevaluatedProperties",
    "uniqueItems"]

/-- The keywords of the schema objects of the older definitions. -/
def definition3Keywords : List String :=
  ["$ref", "additionalProperties", "allOf", "anyOf", "enum", "format", "items", "maxItems",
    "maxLength", "maxProperties", "maximum", "minItems", "minLength", "minProperties", "minimum",
    "multipleOf", "not", "oneOf", "pattern", "properties", "required", "type", "uniqueItems"]

/-- Whether a dialect knows a keyword. -/
def Dialect.knows (dialect : Dialect) (keyword : String) : Bool :=
  match dialect with
  | .fourth => fourthKeywords.contains keyword
  | .december2020 => december2020Keywords.contains keyword
  | .definition3 => definition3Keywords.contains keyword
  | .definition31 => keyword == "format" || december2020Keywords.contains keyword

/-- The keywords of a schema that apply: all of them, or only the reference where that hides the
others. -/
def applicable (dialect : Dialect) (schema : List (String × Tree)) : List (String × Tree) :=
  match dialect.isRecent, Tree.lookup? "$ref" schema with
  | false, some (.text reference) => [("$ref", .text reference)]
  | _, _ => schema

/-- The schema that a reference names. -/
def Frame.named (frame : Frame) (root : Tree) (reference : String) : Except Breakdown Located :=
  let (address, fragment) := Text.cutAt '#' reference.toList
  let document? :=
    if address.isEmpty then some root else Tree.lookup? (String.ofList address) frame.documents
  match document? with
  | none => .error (Lost.elsewhere reference).namedBreakdown
  | some document => do
    match ← targetOf document (String.ofList (fragment.getD [])) with
    | .ok target => return ⟨document, target.value⟩
    | .error lost => throw lost.namedBreakdown

/-! ## Properties -/

/-- The patterns of a schema for the names of properties. -/
def namePatterns (schema : List (String × Tree)) : List String :=
  ((Tree.lookup? "patternProperties" schema).map Tree.entries).getD [] |>.map Prod.fst

/-- Whether a name fits a pattern. -/
def fits (pattern name : String) : Except Breakdown Bool :=
  match Pattern.ofText? pattern with
  | some pattern => .ok (pattern.occursIn name)
  | none => .error .brokenPattern

/-- Whether a name fits one of some patterns. -/
def fitsAny (patterns : List String) (name : String) : Except Breakdown Bool := do
  return (← patterns.mapM (fits · name)).contains true

/-- Whether a schema says nothing about a name.  A single empty pattern counts as none. -/
def isExtra (schema : List (String × Tree)) (name : String) : Except Breakdown Bool :=
  let properties := ((Tree.lookup? "properties" schema).map Tree.entries).getD []
  if (Tree.lookup? name properties).isSome then .ok false
  else if namePatterns schema == [""] then .ok true
  else (fitsAny (namePatterns schema) name).map (!·)

/-- The names of an object that a schema says nothing about. -/
def extraNames (schema entries : List (String × Tree)) : Except Breakdown (List String) :=
  gather (fun name => do return if ← isExtra schema name then [name] else [])
    (entries.map Prod.fst)

/-- The words about names that a schema says nothing about, where none may be. -/
def extraMessage (dialect : Dialect) (schema : List (String × Tree)) (extras : List String) :
    String :=
  if (Tree.lookup? "patternProperties" schema).isSome && dialect != .definition3 then
    literals (sorted extras) ++ (if extras.length == 1 then " does" else " do") ++
      " not match any of the regexes: " ++ literals (sorted (namePatterns schema))
  else
    let shown := if dialect == .definition3 then extras else sorted extras
    "Additional properties are not allowed (" ++ unexpected (shown.map Text.quote)

/-! ## Validation -/

/-- Validates a value against a schema. -/
abbrev Validator := Located → Tree → Found

/-- Whether a value satisfies a schema. -/
def satisfies (validate : Validator) (located : Located) (subject : Tree) :
    Except Breakdown Bool := do
  return (← validate located subject).isEmpty

/-- The keys of an object that some part of a schema speaks about and is satisfied by; at most so
many schemas are nested. -/
def evaluatedKeys (frame : Frame) (validate : Validator) :
    Nat → Located → Tree → Except Breakdown (List String)
  | 0, _, _ => .error .endless
  | nesting + 1, located, subject =>
    match located.schema with
    | .mapping schema => do
      let within (inner : Tree) : Located := ⟨located.root, inner⟩
      let recur (inner : Located) : Except Breakdown (List String) :=
        evaluatedKeys frame validate nesting inner subject
      let values := subject.entries
      let referred (keyword : String) : Except Breakdown (List String) :=
        match Tree.lookup? keyword schema with
        | some (.text reference) => do recur (← frame.named located.root reference)
        | _ => .ok []
      let subschemas (keyword : String) : List Tree :=
        match Tree.lookup? keyword schema with
        | some (.list items) => items
        | _ => []
      let satisfied (keyword : String) : Except Breakdown (List String) :=
        gather (fun inner => do
          if ← satisfies validate (within inner) subject then recur (within inner)
          else return []) (subschemas keyword)
      let direct (keyword : String) : Except Breakdown (List String) :=
        match Tree.lookup? keyword schema with
        | none | some .null => .ok []
        | some inner =>
          gather (fun entry => do
            if ← satisfies validate (within inner) entry.2 then return [entry.1]
            else return []) values
      let properties := ((Tree.lookup? "properties" schema).map Tree.entries).getD []
      let named := gather (fun name => do
        let matched ← fitsAny (namePatterns schema) name
        return if (Tree.lookup? name properties).isSome || matched then [name] else [])
        (values.map Prod.fst)
      let dependent := ((Tree.lookup? "dependentSchemas" schema).map Tree.entries).getD []
      let conditional : Except Breakdown (List String) :=
        match Tree.lookup? "if" schema with
        | none | some .null => .ok []
        | some condition => do
          let branch (keyword : String) : Except Breakdown (List String) :=
            match Tree.lookup? keyword schema with
            | none | some .null => .ok []
            | some inner => recur (within inner)
          if ← satisfies validate (within condition) subject then
            return (← recur (within condition)) ++ (← branch "then")
          else branch "else"
      return (← referred "$ref") ++ (← referred "$dynamicRef") ++ (← named) ++
        (← direct "additionalProperties") ++ (← direct "unevaluatedProperties") ++
        (← gather (fun entry =>
          if (Tree.lookup? entry.1 values).isSome then recur (within entry.2) else .ok [])
          dependent) ++
        (← satisfied "allOf") ++ (← satisfied "oneOf") ++ (← satisfied "anyOf") ++
        (← conditional)
    | _ => .ok []

/-- What a keyword needs to yield its violations. -/
structure Application where
  /-- What validation depends on. -/
  frame : Frame
  /-- The document around the schema. -/
  root : Tree
  /-- The schema that has the keyword. -/
  schema : List (String × Tree)
  /-- The keyword. -/
  keyword : String
  /-- Its value. -/
  value : Tree
  /-- The value to validate. -/
  subject : Tree
  /-- Validates a value against a schema inside. -/
  validate : Validator
  /-- How many schemas may be nested. -/
  nesting : Nat

namespace Application

/-- A violation of the keyword itself. -/
def own (application : Application) (message : String) (context : List Violation) : Violation :=
  .mk (some application.keyword) application.value [] message application.subject
    (.mapping application.schema) context

/-- The violations of the value itself against a schema inside. -/
def descend (application : Application) (schema : Tree) : Found :=
  application.validate ⟨application.root, schema⟩ application.subject

/-- The violations of a part of the value against a schema inside. -/
def descendTo (application : Application) (schema : Tree) (step : Step) (part : Tree) : Found := do
  return (← application.validate ⟨application.root, schema⟩ part).map (Violation.inside step)

/-- Whether the value itself satisfies a schema inside. -/
def accepts (application : Application) (schema : Tree) : Except Breakdown Bool := do
  return (← application.descend schema).isEmpty

/-- The items of a list with their positions, from a position on. -/
def numbered (first : Nat) (items : List Tree) : List (Nat × Tree) :=
  (items.zipIdx first).map fun entry => (entry.2, entry.1)

/-- Validates the items of a list from a position on against one schema. -/
def eachItem (application : Application) (schema : Tree) (first : Nat) (items : List Tree) :
    Found :=
  gather (fun (position, item) => application.descendTo schema (.index position) item)
    (numbered first items)

/-- Validates the first items of a list against one schema each. -/
def itemByItem (application : Application) (schemas items : List Tree) : Found :=
  gather (fun ((position, item), schema) => application.descendTo schema (.index position) item)
    ((numbered 0 items).zip schemas)

/-- The words about a value that satisfies no alternative. -/
def noAlternative (application : Application) : String :=
  application.subject.literal ++ " is not valid under any of the given schemas"

/-- Validates against alternatives until one is satisfied: the violations of those before it, and
the ones from it on. -/
def tryAlternatives (application : Application) :
    List Tree → List Violation → Except Breakdown (List Violation × List Tree)
  | [], found => .ok (found, [])
  | schema :: rest, found => do
    let violations ← application.descend schema
    if violations.isEmpty then return (found, schema :: rest)
    else tryAlternatives application rest (found ++ violations)

/-- The alternatives among some that are satisfied. -/
def accepted (application : Application) : List Tree → Except Breakdown (List Tree)
  | [] => .ok []
  | schema :: rest => do
    let first := if ← application.accepts schema then [schema] else []
    return first ++ (← accepted application rest)

/-- The violations of a name that asks for other names, one for each of those that an object
lacks. -/
def withAbsent (application : Application) (entries : List (String × Tree)) (name : String)
    (names : List Tree) : Found := do
  return (← absentNames entries names).map fun missing =>
    application.own (missing.literal ++ " is a dependency of " ++ Text.quote name) []

/-- The violations of a keyword about properties. -/
def properties (application : Application) (entries : List (String × Tree)) : Found :=
  let schema := application.schema
  let value := application.value
  match application.keyword with
  | "properties" =>
    gather (fun (name, inner) =>
      match Tree.lookup? name entries with
      | some part => application.descendTo inner (.key name) part
      | none => .ok []) value.entries
  | "patternProperties" =>
    gather (fun (pattern, inner) =>
      gather (fun (name, part) => do
        if ← fits pattern name then application.descendTo inner (.key name) part
        else return []) entries) value.entries
  | "additionalProperties" => do
    let extras ← extraNames schema entries
    if value.isMapping then
      gather (fun name => application.descendTo value (.key name)
        ((Tree.lookup? name entries).getD .null)) extras
    else if Tree.isTruthy value || extras.isEmpty then return []
    else return [application.own (extraMessage application.frame.dialect schema extras) []]
  | "unevaluatedProperties" => do
    let evaluated ← evaluatedKeys application.frame application.validate application.nesting
      ⟨application.root, .mapping schema⟩ application.subject
    let rest := entries.filter fun entry => !evaluated.contains entry.1
    let wrong ← gather (fun (name, part) => do
      return (← application.descendTo value (.key name) part).map fun _ => name) rest
    if wrong.isEmpty then return []
    else
      let words :=
        if value == .boolean false then "not allowed (" else "not valid under the given schema ("
      return [application.own ("Unevaluated properties are " ++ words ++
        unexpected ((sorted wrong).map Text.quote)) []]
  | "propertyNames" => gather (fun entry =>
      application.validate ⟨application.root, value⟩ (.text entry.1)) entries
  | "dependencies" =>
    gather (fun (name, dependency) =>
      if (Tree.lookup? name entries).isNone then .ok []
      else
        match dependency with
        | .list names => application.withAbsent entries name names
        | .text missing => application.withAbsent entries name [.text missing]
        | inner => application.descend inner) value.entries
  | "dependentRequired" =>
    gather (fun (name, dependency) => do
      if (Tree.lookup? name entries).isNone then return []
      else application.withAbsent entries name (← Tree.elements dependency)) value.entries
  | "dependentSchemas" =>
    gather (fun (name, inner) =>
      if (Tree.lookup? name entries).isNone then .ok [] else application.descend inner)
      value.entries
  | _ => .ok []

/-- The violations of a keyword about items. -/
def items (application : Application) (items : List Tree) : Found :=
  let schema := application.schema
  let value := application.value
  match application.keyword with
  | "items" =>
    match application.frame.dialect, value with
    | .fourth, .list schemas => application.itemByItem schemas items
    | .december2020, _ | .definition31, _ =>
      let first := match Tree.lookup? "prefixItems" schema with
        | some (.list schemas) => schemas.length
        | _ => 0
      let rest := items.drop first
      if value == .boolean false then
        match rest with
        | [] => .ok []
        | [extra] =>
          .ok [application.own ("Expected at most " ++ toString first ++
            (if first == 1 then " item" else " items") ++ " but found 1 extra: " ++
            extra.literal) []]
        | extras =>
          .ok [application.own ("Expected at most " ++ toString first ++
            (if first == 1 then " item" else " items") ++ " but found " ++
            toString extras.length ++ " extra: " ++ (Tree.list extras).literal) []]
      else application.eachItem value first rest
    | _, _ => application.eachItem value 0 items
  | "prefixItems" =>
    match value with
    | .list schemas => application.itemByItem schemas items
    | _ => .ok []
  | "additionalItems" =>
    match (Tree.lookup? "items" schema).getD (.mapping []) with
    | .list schemas =>
      let extras := items.drop schemas.length
      if value.isMapping then application.eachItem value schemas.length extras
      else if Tree.isTruthy value || extras.isEmpty then .ok []
      else
        .ok [application.own ("Additional items are not allowed (" ++
          unexpected (extras.map Tree.literal)) []]
    | _ => .ok []
  | "contains" => do
    let least ← match Tree.lookup? "minContains" schema with
      | some limit => bound limit
      | none => pure (.ofInteger 1)
    let most? ← match Tree.lookup? "maxContains" schema with
      | some limit => (bound limit).map some
      | none => pure none
    let fitting ← gather (fun item => do
      return if (← application.validate ⟨application.root, value⟩ item).isEmpty then [item]
        else []) items
    let count := Quantity.ofInteger fitting.length
    if most?.any (·.less count) then
      return [application.own "Too many items match the given schema (expected at most)" []]
    else if count.less least then
      if fitting.isEmpty then
        return [application.own (application.subject.literal ++
          " does not contain items matching the given schema") []]
      else
        return [application.own "Too few items match the given schema (expected at least)" []]
    else return []
  | _ => .ok []

/-- The violations of a keyword about several schemas for the value itself. -/
def combination (application : Application) : Found :=
  let value := application.value
  match application.keyword with
  | "$ref" | "$dynamicRef" =>
    match value with
    | .text reference => do
      let located ← application.frame.named application.root reference
      application.validate located application.subject
    | _ => .ok []
  | "allOf" => do gather application.descend (← Tree.elements value)
  | "anyOf" => do
    match ← application.tryAlternatives (← Tree.elements value) [] with
    | (found, []) => return [application.own application.noAlternative found]
    | _ => return []
  | "oneOf" => do
    match ← application.tryAlternatives (← Tree.elements value) [] with
    | (found, []) => return [application.own application.noAlternative found]
    | (_, first :: rest) =>
      let others ← application.accepted rest
      if others.isEmpty then return []
      else
        return [application.own (application.subject.literal ++ " is valid under each of " ++
          Text.join ", " ((others ++ [first]).map Tree.literal)) []]
  | "not" => do
    if ← application.accepts value then
      return [application.own (application.subject.literal ++ " should not be valid under " ++
        value.literal) []]
    else return []
  | "if" => do
    let branch := if ← application.accepts value then "then" else "else"
    match Tree.lookup? branch application.schema with
    | some inner => application.descend inner
    | none => return []
  | _ => .ok []

/-- The violations of a keyword that looks at the value alone. -/
def alone (application : Application) : Found := do
  let words ← complaints application.frame.dialect application.schema application.keyword
    application.value application.subject
  return words.map fun message => application.own message []

/-- The keywords about several schemas for the value itself. -/
def combinationKeywords : List String :=
  ["$ref", "$dynamicRef", "allOf", "anyOf", "oneOf", "not", "if"]

/-- The keywords about properties. -/
def propertyKeywords : List String :=
  ["properties", "patternProperties", "additionalProperties", "unevaluatedProperties",
    "propertyNames", "dependencies", "dependentRequired", "dependentSchemas"]

/-- The keywords about items. -/
def itemKeywords : List String := ["items", "prefixItems", "additionalItems", "contains"]

/-- The violations of a keyword. -/
def violations (application : Application) : Found :=
  if !application.frame.dialect.knows application.keyword then .ok []
  else if combinationKeywords.contains application.keyword then application.combination
  else if propertyKeywords.contains application.keyword then
    match application.subject with
    | .mapping entries => application.properties entries
    | _ => .ok []
  else if itemKeywords.contains application.keyword then
    match application.subject with
    | .list items => application.items items
    | _ => .ok []
  else application.alone

end Application

/-- The violation of a schema that allows nothing. -/
def nothingAllowed (schema subject : Tree) : Violation :=
  .mk none .null [] ("False schema does not allow " ++ subject.literal) subject schema []

/-- The violations of a schema; at most so many schemas are nested. -/
def validateWithin (frame : Frame) : Nat → Validator
  | 0, _, _ => .error .endless
  | nesting + 1, located, subject =>
    match located.schema with
    | .boolean true => .ok []
    | .boolean false => .ok [nothingAllowed located.schema subject]
    | .mapping schema =>
      gather (fun (keyword, value) => Application.violations {
        frame := frame
        root := located.root
        schema := schema
        keyword := keyword
        value := value
        subject := subject
        validate := validateWithin frame nesting
        nesting := nesting }) (applicable frame.dialect schema)
    | _ => .error .noSuchMember

/-- A number of nested schemas that only an endless validation exceeds. -/
def nestingBound (frame : Frame) (located : Located) (subject : Tree) : Nat :=
  let schemas := located.root.size + located.schema.size +
    Tree.sizeOfEntries frame.documents
  (schemas + 1) * (subject.size + 1) + 1

/-- The violations of a schema by a value. -/
def validate (frame : Frame) (located : Located) (subject : Tree) : Found :=
  validateWithin frame (nestingBound frame located subject) located subject

end ApiAdmission.Schema
