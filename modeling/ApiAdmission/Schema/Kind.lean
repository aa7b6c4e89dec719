import ApiAdmission.Breakdown
import ApiAdmission.Tree.Comparison

/-!
# Kinds of values in schemas

Dialects of the schema language differ in which names of kinds they know and in whether a number
with a fraction part of zero counts as an integer.
-/

namespace ApiAdmission.Schema

set_option autoImplicit false

/-- A dialect of the schema language. -/
inductive Dialect where
  /-- The fourth draft. -/
  | fourth
  /-- The draft of December 2020. -/
  | december2020
  /-- The schema objects of the older definitions. -/
  | definition3
  /-- The schema objects of the newest definitions. -/
  | definition31
deriving DecidableEq, Repr

/-- Whether a dialect is built on the draft of December 2020. -/
def Dialect.isRecent : Dialect → Bool
  | .december2020 | .definition31 => true
  | .fourth | .definition3 => false

/-- Whether a value is an integer in a dialect. -/
def isInteger (dialect : Dialect) : Tree → Bool
  | .integer _ => true
  | .number value => dialect.isRecent && value.toInteger?.isSome
  | _ => false

/-- Whether a value is of a named kind; a name that the dialect does not know breaks down. -/
def isOfKind (dialect : Dialect) (name : String) (value : Tree) : Except Breakdown Bool :=
  match name with
  | "object" => .ok value.isMapping
  | "array" => .ok (match value with | .list _ => true | _ => false)
  | "string" =>
    .ok (match value with
      | .text _ => true
      | .bytes _ => dialect == .definition3
      | _ => false)
  | "boolean" => .ok (match value with | .boolean _ => true | _ => false)
  | "number" => .ok value.quantity?.isSome
  | "integer" => .ok (isInteger dialect value)
  | "null" => if dialect == .definition3 then .error .unknownKind else .ok (value == .null)
  | _ => .error .unknownKind

/-- The names of kinds that the value of a `type` keyword lists. -/
def kindNames : Tree → List String
  | .text name => [name]
  | .list items => items.filterMap Tree.text?
  | _ => []

/-- Whether a value is of one of some kinds. -/
def isOfKinds (dialect : Dialect) : List String → Tree → Except Breakdown Bool
  | [], _ => .ok false
  | name :: rest, value => do
    if ← isOfKind dialect name value then return true else isOfKinds dialect rest value

end ApiAdmission.Schema
