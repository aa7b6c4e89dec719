import ApiAdmission.Pattern.Reader
import ApiAdmission.Schema.Format
import ApiAdmission.Schema.Violation
import ApiAdmission.Tree.Literal
import ApiAdmission.Tree.Members

/-!
# Keywords that look at a value alone

These keywords compare a value with what the schema says about its kind, its size, its bounds or its
text, and do not look at parts of it through other schemas.  Each gives the words for what is wrong.
-/

namespace ApiAdmission.Schema

set_option autoImplicit false

/-- What is wrong with a value, in words; or a breakdown. -/
abbrev Complaints := Except Breakdown (List String)

/-- The quantity that a bound states. -/
def bound : Tree → Except Breakdown Quantity
  | .boolean value => .ok (.ofInteger (if value then 1 else 0))
  | tree =>
    match tree.quantity? with
    | some quantity => .ok quantity
    | none => .error .wrongKind

/-- Names as literals with commas between them. -/
def literals (names : List String) : String :=
  Text.join ", " (names.map Text.quote)

/-- Names in the order of their characters. -/
def sorted (names : List String) : List String :=
  names.mergeSort fun a b => decide (a ≤ b)

/-- The words about what should not be there. -/
def unexpected (shown : List String) : String :=
  Text.join ", " shown ++ (if shown.length == 1 then " was" else " were") ++ " unexpected)"

/-- Whether a number is a multiple of another one. -/
def isMultiple (value factor : Tree) : Except Breakdown Bool :=
  match factor, value.quantity? with
  | .number divisor, some quantity =>
    let dividend := match value with
      | .integer number => Double.ofInteger number
      | .number number => number
      | _ => .notANumber
    let quotient := Double.ofFloat (dividend.toFloat / divisor.toFloat)
    if quotient.isInfinite then
      match quantity, Quantity.ofDouble divisor with
      | .fraction a b, .fraction c d => .ok (c != 0 && (a * d) % (b * c) == 0)
      | _, _ => .error .wrongKind
    else .ok quotient.toInteger?.isSome
  | _, some quantity => do
    match quantity, ← bound factor with
    | .fraction a b, .fraction c d =>
      if c == 0 then throw .wrongKind else return (a * d) % (b * c) == 0
    | _, _ => return false
  | _, none => .ok true

/-- The complaint that a size is too small. -/
def tooSmall (subject limit : Tree) (size : Nat) (words : String) : Complaints := do
  let least ← bound limit
  if (Quantity.ofInteger size).less least then
    let single := least.equal (.ofInteger 1)
    return [subject.literal ++ " " ++ (if single then "should be non-empty" else words)]
  else return []

/-- The complaint that a size is too great. -/
def tooGreat (subject limit : Tree) (size : Nat) (words : String) : Complaints := do
  let most ← bound limit
  if most.less (.ofInteger size) then
    let nothing := most.equal (.ofInteger 0)
    return [subject.literal ++ " " ++ (if nothing then "is expected to be empty" else words)]
  else return []

/-- The complaint about a number beyond a bound. -/
def beyond (subject limit : Tree) (quantity : Quantity) (inclusive lower : Bool) : Complaints := do
  let limitQuantity ← bound limit
  let (first, second) := if lower then (quantity, limitQuantity) else (limitQuantity, quantity)
  if if inclusive then first.atMost second else first.less second then
    let words := if lower then "less than " else "greater than "
    let orEqual := if inclusive then "or equal to " else ""
    let which := if lower then "minimum" else "maximum"
    return [subject.literal ++ " is " ++ words ++ orEqual ++ "the " ++ which ++ " of " ++
      limit.literal]
  else return []

/-- The complaint about the kind of a value. -/
def kindComplaint (dialect : Dialect) (schema : List (String × Tree)) (value subject : Tree) :
    Complaints := do
  if dialect == .definition3 && value.text?.isNone then throw .wrongKind
  let names := kindNames value
  let wrong := subject.literal ++ " is not of type " ++ literals names
  let absent := dialect == .definition3 && subject == .null
  if absent && Tree.lookup? "nullable" schema == some (.boolean true) then return []
  else if ← isOfKinds dialect names subject then return []
  else return (if absent then ["None for not nullable"] else []) ++ [wrong]

/-- The names among some that an object lacks.  What cannot be a key cannot be looked for. -/
def absentNames (entries : List (String × Tree)) (names : List Tree) :
    Except Breakdown (List Tree) :=
  if names.all Tree.isIdentifier then
    .ok (names.filter fun name => !(name.text?.any fun key => (Tree.lookup? key entries).isSome))
  else .error .wrongKind

/-- Whether a property need not be there because it is only read or only written. -/
def isOneWay (schema : List (String × Tree)) (name : Tree) : Bool :=
  let properties := (Tree.lookup? "properties" schema).getD .null
  match name.text?.bind properties.get? with
  | some property =>
    (property.get? "readOnly").any Tree.isTruthy || (property.get? "writeOnly").any Tree.isTruthy
  | none => false

/-- What a keyword that looks at a value alone has to complain about. -/
def complaints (dialect : Dialect) (schema : List (String × Tree)) (keyword : String)
    (value subject : Tree) : Complaints :=
  match keyword, subject with
  | "type", _ => kindComplaint dialect schema value subject
  | "enum", _ => do
    if (← Tree.elements value).any (Tree.equal subject) then return []
    else return [subject.literal ++ " is not one of " ++ value.literal]
  | "const", _ =>
    .ok (if Tree.equal subject value then [] else [value.literal ++ " was expected"])
  | "required", .mapping entries => do
    let missing ← absentNames entries (← Tree.elements value)
    let missing :=
      if dialect == .definition3 then missing.filter (!isOneWay schema ·) else missing
    return missing.map fun name => name.literal ++ " is a required property"
  | "minProperties", .mapping entries =>
    tooSmall subject value entries.length "does not have enough properties"
  | "maxProperties", .mapping entries =>
    tooGreat subject value entries.length "has too many properties"
  | "minItems", .list items => tooSmall subject value items.length "is too short"
  | "maxItems", .list items => tooGreat subject value items.length "is too long"
  | "uniqueItems", .list items =>
    .ok (if Tree.isTruthy value && !Tree.allDistinct items then
      [subject.literal ++ " has non-unique elements"] else [])
  | "minLength", .text text => tooSmall subject value text.length "is too short"
  | "maxLength", .text text => tooGreat subject value text.length "is too long"
  | "pattern", .text text =>
    match value with
    | .text written =>
      match Pattern.ofText? written with
      | some pattern =>
        .ok (if pattern.occursIn text then []
          else [subject.literal ++ " does not match " ++ value.literal])
      | none => .error .brokenPattern
    | _ => .error .wrongKind
  | "format", _ =>
    match value with
    | .text format =>
      .ok (if hasFormat dialect format subject then []
        else [subject.literal ++ " is not a " ++ value.literal])
    | _ => .ok []
  | "multipleOf", _ => do
    if ← isMultiple subject value then return []
    else return [subject.literal ++ " is not a multiple of " ++ value.literal]
  | "minimum", _ =>
    match subject.quantity? with
    | some quantity =>
      let exclusive :=
        !dialect.isRecent && (Tree.lookup? "exclusiveMinimum" schema).any Tree.isTruthy
      beyond subject value quantity exclusive true
    | none => .ok []
  | "maximum", _ =>
    match subject.quantity? with
    | some quantity =>
      let exclusive :=
        !dialect.isRecent && (Tree.lookup? "exclusiveMaximum" schema).any Tree.isTruthy
      beyond subject value quantity exclusive false
    | none => .ok []
  | "exclusiveMinimum", _ =>
    match subject.quantity? with
    | some quantity => beyond subject value quantity true true
    | none => .ok []
  | "exclusiveMaximum", _ =>
    match subject.quantity? with
    | some quantity => beyond subject value quantity true false
    | none => .ok []
  | _, _ => .ok []

end ApiAdmission.Schema
