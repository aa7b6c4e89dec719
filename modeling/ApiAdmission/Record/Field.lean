import ApiAdmission.Number.Setting
import ApiAdmission.Record.Complaint
import ApiAdmission.Tree.Comparison

/-!
# Reading the fields of records

A reader takes a value and gives what a record needs, or complaints.  Readers are lenient where no
doubt is possible: a number may be given as a text or as a truth value, and a truth value as one of
a few words or as zero or one.
-/

namespace ApiAdmission.Record

set_option autoImplicit false

/-- What turns a value into what a record needs. -/
abbrev FieldReader (α : Type) := Tree → Checked α

/-! ## Single values -/

/-- Reads a text. -/
def readText : FieldReader String
  | .text value => .ok value
  | _ => Checked.complain .noText

/-- The greatest magnitude that a number with a fraction part of zero may have as an integer. -/
def integerLimit : Int := Nat.pow 2 63

/-- Reads a number as an integer. -/
def integerOfDouble (value : Double) : Checked Int :=
  if value.isNaN || value.isInfinite then Checked.complain .noFiniteNumber
  else
    match value.toInteger? with
    | none => Checked.complain .fraction
    | some integer =>
      if -integerLimit < integer && integer < integerLimit then .ok integer
      else Checked.complain .longInteger

/-- Reads an integer. -/
def readInteger : FieldReader Int
  | .integer value => .ok value
  | .boolean value => .ok (if value then 1 else 0)
  | .number value => integerOfDouble value
  | .text value =>
    if Number.digitLimit < value.length && value.toList.all Text.isAsciiDigit then
      Checked.complain .longInteger
    else
      match Number.settingInteger? value with
      | some integer => .ok integer
      | none => Checked.complain .noIntegerText
  | _ => Checked.complain .noInteger

/-- Reads an integer between two limits. -/
def readIntegerBetween (least most : Int) : FieldReader Int := fun tree => do
  let value ← readInteger tree
  if value < least then Checked.complain (.below least)
  else if most < value then Checked.complain (.above most)
  else return value

/-- Reads a number. -/
def readDouble : FieldReader Double
  | .number value => .ok value
  | .integer value =>
    let double := Double.ofInteger value
    if double.isInfinite then Checked.complain .noNumber else .ok double
  | .boolean value => .ok (.ofInteger (if value then 1 else 0))
  | .text value =>
    match Number.settingDouble? value with
    | some double => .ok double
    | none => Checked.complain .noNumberText
  | _ => Checked.complain .noNumber

/-- The words for false. -/
def falseWords : List String := ["0", "f", "n", "no", "off", "false"]

/-- The words for true. -/
def trueWords : List String := ["1", "t", "y", "on", "yes", "true"]

/-- The truth value that an integer stands for. -/
def truthOfInteger (value : Int) : Checked Bool :=
  if value == 0 then .ok false
  else if value == 1 then .ok true
  else Checked.complain .noTruthText

/-- Reads a truth value. -/
def readTruth : FieldReader Bool
  | .boolean value => .ok value
  | .text value =>
    let word := Text.asciiLower value
    if falseWords.contains word then .ok false
    else if trueWords.contains word then .ok true
    else Checked.complain .noTruthText
  | .integer value =>
    if -integerLimit ≤ value && value < integerLimit then truthOfInteger value
    else Checked.complain .noTruthValue
  | .number value =>
    match integerOfDouble value with
    | .ok integer => truthOfInteger integer
    | .error _ => Checked.complain .noTruthValue
  | _ => Checked.complain .noTruthValue

/-- Reads one of some named values. -/
def readNamed {α : Type} (values : List α) (name : α → String) : FieldReader α := fun tree =>
  match tree.text?.bind fun text => values.find? fun value => name value == text with
  | some value => .ok value
  | none => Checked.complain (.noName (values.map name))

/-- Reads one of some words. -/
def readWord {α : Type} (values : List α) (name : α → String) : FieldReader α := fun tree =>
  match tree.text?.bind fun text => values.find? fun value => name value == text with
  | some value => .ok value
  | none => Checked.complain (.noWord (values.map name))

/-! ## Combined values -/

/-- Reads a value that may be null. -/
def readOptional {α : Type} (read : FieldReader α) : FieldReader (Option α)
  | .null => .ok none
  | tree => (read tree).map some

/-- Reads a list. -/
def readList {α : Type} (read : FieldReader α) : FieldReader (List α)
  | .list items => Checked.each read 0 items
  | _ => Checked.complain .noList

/-- Reads a sequence. -/
def readSequence {α : Type} (read : FieldReader α) : FieldReader (List α)
  | .list items => Checked.each read 0 items
  | _ => Checked.complain .noSequence

/-- Reads a record of a kind from its entries. -/
def readRecord {α : Type} (kind : String) (read : List (String × Tree) → Checked α) :
    FieldReader α
  | .mapping entries => read entries
  | _ => Checked.complain (.noRecord kind)

/-! ## Fields -/

/-- Reads a field that has to be there. -/
def requiredField {α : Type} (entries : List (String × Tree)) (name : String)
    (read : FieldReader α) : Checked α :=
  Checked.inside (.key name) <|
    match Tree.lookup? name entries with
    | some value => read value
    | none => Checked.complain .missing

/-- Reads a field that has a value of its own where it is absent. -/
def optionalField {α : Type} (entries : List (String × Tree)) (name : String) (absent : α)
    (read : FieldReader α) : Checked α :=
  match Tree.lookup? name entries with
  | some value => Checked.inside (.key name) (read value)
  | none => .ok absent

end ApiAdmission.Record
