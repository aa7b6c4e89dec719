import ApiAdmission.Definition.Finding
import ApiAdmission.Definition.Place
import ApiAdmission.Definition.Template
import ApiAdmission.Family
import ApiAdmission.Schema.Validate

/-!
# Walking through a definition

The walk takes the paths of a definition in their order, in each path the operations, in each
operation the responses and the parameters, and at last the schemas among the components.  It finds
operation identifiers and parameters that occur twice, names of path templates that no parameter
fills in, properties that a combined schema requires and no part of it defines, and default values
that violate their schemas.

References are followed where the walk meets them.  A schema is visited once, however many ways lead
to it, so the walk ends; the properties of combined schemas are collected without that care, and
collecting them from a schema that contains itself breaks down.
-/

namespace ApiAdmission.Definition

set_option autoImplicit false

open Schema (Step Target)

/-- What the walk depends on. -/
structure Rules where
  /-- The definition. -/
  root : Tree
  /-- The family of the definition. -/
  family : Family
  /-- The dialect in which default values are validated. -/
  dialect : Schema.Dialect

/-- How far the walk has come. -/
structure Progress where
  /-- What it has found. -/
  findings : List Finding
  /-- The schemas that it has visited, by their steps. -/
  visited : List (List Step)
  /-- The operation identifiers that it has met. -/
  identifiers : List Tree

/-- The progress before the first step. -/
def Progress.start : Progress := ⟨[], [], []⟩

/-- A part of the walk, which may break down; what is found before that stays found. -/
abbrev Walk (α : Type) := ExceptT Breakdown (StateM Progress) α

namespace Walk

/-- Passes on a result that breaks down or not. -/
def ofResult {α : Type} : Except Breakdown α → Walk α
  | .ok value => pure value
  | .error breakdown => throw breakdown

/-- Notes findings. -/
def note (findings : List Finding) : Walk Unit :=
  modify fun progress => { progress with findings := progress.findings ++ findings }

/-- Does something with each member of a list. -/
def each {α : Type} (visit : α → Walk Unit) : List α → Walk Unit
  | [] => pure ()
  | member :: rest => do
    visit member
    each visit rest

end Walk

/-- A truth value as the number that it equals among identifiers. -/
def asIdentifier : Tree → Tree
  | .boolean value => .integer (if value then 1 else 0)
  | tree => tree

/-- Whether two values are the same identifier. -/
def sameIdentifier (first second : Tree) : Bool :=
  Tree.equal (asIdentifier first) (asIdentifier second)

/-! ## Schemas -/

/-- The names of properties in a schema and in the schemas that it is combined of. -/
def propertyNames (root : Tree) : Nat → Target → Except Breakdown (List String)
  | 0, _ => .error .endless
  | budget + 1, place => do
    let own ← match ← child? root "properties" place with
      | some properties => do return (← branches properties).map Prod.fst
      | none => pure []
    let inside (keyword : String) : Except Breakdown (List String) := do
      match ← child? root keyword place with
      | some inner => propertyNames root budget inner
      | none => return []
    let among (keyword : String) : Except Breakdown (List String) := do
      match ← child? root keyword place with
      | some combined =>
        Schema.gather (fun inner => do propertyNames root budget (← settle root inner))
          (← members combined)
      | none => return []
    return own ++ (← among "allOf") ++ (← among "anyOf") ++ (← among "oneOf") ++
      (← inside "items") ++ (← inside "not")

/-- The members of a list, each once. -/
def eachOnce (values : List Tree) : List Tree :=
  values.foldl (fun known value =>
    if known.any (sameIdentifier value) then known else known ++ [value]) []

/-- The names that a schema requires, where they can be told apart. -/
def requiredOf (schema : Tree) : Except Breakdown (List Tree) := do
  let names ← Tree.elements ((← written? "required" schema).getD (.list []))
  if names.all Tree.isIdentifier then return eachOnce names else throw .wrongKind

/-- The properties that a combined schema requires and neither it nor a part of it defines. -/
def undefinedProperties (place : Target) (nested : List String) : Except Breakdown (List Tree) := do
  let own := ((place.value.get? "properties").map Tree.entries).getD []
  return (← requiredOf place.value).filter fun name =>
    !(name.text?.any fun key => nested.contains key || (Tree.lookup? key own).isSome)

/-- Validates a value against the schema at a place, and notes its violations. -/
def checkValue (rules : Rules) (place : Target) (value : Tree) : Walk Unit := do
  let violations ← Walk.ofResult
    (Schema.validate ⟨rules.dialect, []⟩ ⟨rules.root, place.value⟩ value)
  Walk.note (violations.map (.badDefault rules.dialect))

/-- Validates the default value of a schema, if it has one. -/
def checkDefault (rules : Rules) (place : Target) : Walk Unit := do
  match ← Walk.ofResult (written? "default" place.value) with
  | none => return
  | some value => checkValue rules place value

/-- Visits the schema at a place, unless it is visited already.  Schemas inside of it are not
entered directly, and what they require is judged by the schema that combines them. -/
def visitSchema (rules : Rules) : Nat → Bool → Target → Walk Unit
  | 0, _, _ => throw .endless
  | budget + 1, direct, place => do
    match place.value with
    | .null | .boolean _ | .integer _ | .number _ | .moment _ | .set _ => return
    | .text _ | .bytes _ | .list _ | .pair .. => throw .wrongKind
    | .mapping _ =>
      if (← get).visited.contains place.path then return
      modify fun progress => { progress with visited := place.path :: progress.visited }
      let visitInner (inner : Target) : Walk Unit := do
        visitSchema rules budget false (← Walk.ofResult (settle rules.root inner))
      let child (keyword : String) : Walk (Option Target) :=
        Walk.ofResult (child? rules.root keyword place)
      let visitMembers (keyword : String) : Walk Unit := do
        match ← child keyword with
        | some combined => Walk.each visitInner (← Walk.ofResult (members combined))
        | none => return
      let visitChild (keyword : String) : Walk Unit := do
        match ← child keyword with
        | some inner => visitInner inner
        | none => return
      let combined ← child "allOf"
      let nested ← match combined with
        | none => pure []
        | some combined =>
          (← Walk.ofResult (members combined)).foldlM (fun names inner => do
            visitInner inner
            let inner ← Walk.ofResult (settle rules.root inner)
            return names ++ (← Walk.ofResult
              (propertyNames rules.root (rules.root.size + 1) inner))) []
      visitMembers "anyOf"
      visitMembers "oneOf"
      visitChild "not"
      visitChild "items"
      match ← child "properties" with
      | some properties =>
        Walk.each (fun entry => visitInner entry.2) (← Walk.ofResult (branches properties))
      | none => pure ()
      if combined.isSome then
        let names ← Walk.ofResult (undefinedProperties place nested)
        if direct && !names.isEmpty then Walk.note [.undefinedProperties names]
      checkDefault rules place

/-- Visits the schema at a node that stands on its own.  Nested visits are of different schemas, so
they are no more than the definition has nodes. -/
def enterSchema (rules : Rules) (node : Target) : Walk Unit := do
  visitSchema rules (rules.root.size + 2) true (← Walk.ofResult (settle rules.root node))

/-- Visits the schema under the key `schema` of a place, if there is one. -/
def enterSchemaOf (rules : Rules) (place : Target) : Walk Unit := do
  match ← Walk.ofResult (child? rules.root "schema" place) with
  | some schema => enterSchema rules schema
  | none => return

/-! ## Parameters -/

/-- Visits a parameter.  In the older family it is a schema of its own default value. -/
def visitParameter (rules : Rules) (place : Target) : Walk Unit := do
  enterSchemaOf rules place
  if rules.family == .swagger2 then
    if ← Walk.ofResult (hasKey "default" place.value) then
      match ← Walk.ofResult (written "default" place.value) with
      | .null => return
      | value => checkValue rules place value

/-- Visits parameters in their order, after those with the given names and places. -/
def visitParameterList (rules : Rules) : List (Tree × Tree) → List Target → Walk Unit
  | _, [] => return
  | known, node :: rest => do
    let place ← Walk.ofResult (settle rules.root node)
    visitParameter rules place
    let name ← Walk.ofResult (written "name" place.value)
    let position ← Walk.ofResult (written "in" place.value)
    if !(name.isIdentifier && position.isIdentifier) then throw .wrongKind
    if known.any fun (other, otherPosition) =>
        sameIdentifier name other && sameIdentifier position otherPosition then
      Walk.note [.repeatedParameter name]
    visitParameterList rules ((name, position) :: known) rest

/-- Visits the parameters at a place. -/
def visitParameters (rules : Rules) (place : Target) : Walk Unit := do
  visitParameterList rules [] (← Walk.ofResult (members place))

/-- The names of the parameters at a place that fill in names of the path. -/
def fillingNames (root : Tree) (place : Target) : Except Breakdown (List Tree) := do
  Schema.gather (fun node => do
    let parameter ← settle root node
    if (← written "in" parameter.value) == .text "path" then
      return [← written "name" parameter.value]
    else return []) (← members place)

/-- Visits the parameters under the key `parameters` of a place, and gives the names that they fill
in. -/
def visitParametersOf (rules : Rules) (place : Target) : Walk (List Tree) := do
  match ← Walk.ofResult (child? rules.root "parameters" place) with
  | some parameters =>
    visitParameters rules parameters
    Walk.ofResult (fillingNames rules.root parameters)
  | none => return []

/-! ## Operations -/

/-- Visits the schemas of a response. -/
def visitResponse (rules : Rules) (node : Target) : Walk Unit := do
  let place ← Walk.ofResult (settle rules.root node)
  if rules.family == .swagger2 then enterSchemaOf rules place
  else
    match ← Walk.ofResult (child? rules.root "content" place) with
    | none => return
    | some content =>
      Walk.each (fun entry => do
        enterSchemaOf rules (← Walk.ofResult (settle rules.root entry.2)))
        (← Walk.ofResult (branches content))

/-- Meets the identifier of an operation. -/
def meetIdentifier (template method : String) (identifier : Tree) : Walk Unit := do
  if identifier != .null && (← get).identifiers.any (sameIdentifier identifier) then
    Walk.note [.repeatedOperation identifier method template]
  modify fun progress => { progress with identifiers := identifier :: progress.identifiers }

/-- Visits an operation of a path whose own parameters fill in the given names. -/
def visitOperation (rules : Rules) (template : String) (shared : List Tree) (method : String)
    (node : Target) : Walk Unit := do
  let place ← Walk.ofResult (settle rules.root node)
  meetIdentifier template method
    ((← Walk.ofResult (written? "operationId" place.value)).getD .null)
  match ← Walk.ofResult (child? rules.root "responses" place) with
  | some responses =>
    Walk.each (fun entry => visitResponse rules entry.2) (← Walk.ofResult (branches responses))
  | none => pure ()
  let filled := (← visitParametersOf rules place) ++ shared
  let names ← Walk.ofResult (templateNames template)
  Walk.note ((names.filter fun name => !filled.contains (.text name)).map fun name =>
    .unfilledName name method template)

/-- The fields of a path that are operations. -/
def methodFields : List String :=
  ["get", "put", "post", "delete", "options", "head", "patch", "trace"]

/-- Visits a path. -/
def visitPath (rules : Rules) (template : String) (node : Target) : Walk Unit := do
  let place ← Walk.ofResult (settle rules.root node)
  let shared ← visitParametersOf rules place
  Walk.each (fun (field, operation) =>
    if methodFields.contains field then visitOperation rules template shared field operation
    else return) (← Walk.ofResult (branches place))

/-! ## The definition -/

/-- Visits the schemas among the components. -/
def visitComponents (rules : Rules) (components : Target) : Walk Unit := do
  match ← Walk.ofResult (child? rules.root "schemas" components) with
  | some schemas =>
    Walk.each (fun entry => enterSchema rules entry.2) (← Walk.ofResult (branches schemas))
  | none => return

/-- Visits the whole definition. -/
def visit (rules : Rules) : Walk Unit := do
  let place ← Walk.ofResult (settle rules.root ⟨[], rules.root⟩)
  match ← Walk.ofResult (child? rules.root "paths" place) with
  | some paths =>
    Walk.each (fun entry => visitPath rules entry.1 entry.2) (← Walk.ofResult (branches paths))
  | none => pure ()
  match ← Walk.ofResult (child? rules.root "components" place) with
  | some components => visitComponents rules components
  | none => return

/-- What the walk finds, and the breakdown that ends it early, if there is one. -/
def inspect (rules : Rules) : List Finding × Option Breakdown :=
  let (outcome, progress) := (visit rules).run.run Progress.start
  match outcome with
  | .ok _ => (progress.findings, none)
  | .error breakdown => (progress.findings, some breakdown)

end ApiAdmission.Definition
