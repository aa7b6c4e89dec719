import ApiAdmission.Schema.Violation
import ApiAdmission.Text.Search

/-!
# Complaints about records

A record is read from the fields of a mapping.  A field that is absent or does not hold what the
record needs gives a complaint, which says where the value is and what should be there.  Reading
goes on behind a complaint, so all of them are known at the end, in the order of the fields.
-/

namespace ApiAdmission.Record

set_option autoImplicit false

/-- What a complaint is about. -/
inductive Cause where
  /-- A field is absent. -/
  | missing
  /-- A value is no text. -/
  | noText
  /-- A value is no integer. -/
  | noInteger
  /-- A text is no integer. -/
  | noIntegerText
  /-- A text has too many digits for an integer. -/
  | longInteger
  /-- A number has a fraction where an integer is needed. -/
  | fraction
  /-- A number is too great to be an integer, or not finite. -/
  | noFiniteNumber
  /-- A value is no number. -/
  | noNumber
  /-- A text is no number. -/
  | noNumberText
  /-- A value is no truth value. -/
  | noTruthValue
  /-- A value stands for no truth value. -/
  | noTruthText
  /-- A value is no list. -/
  | noList
  /-- A value is no sequence. -/
  | noSequence
  /-- A value is no record of a kind. -/
  | noRecord (kind : String)
  /-- A value is none of some names. -/
  | noName (names : List String)
  /-- A value is none of some words. -/
  | noWord (words : List String)
  /-- A number is less than a limit. -/
  | below (limit : Int)
  /-- A number is greater than a limit. -/
  | above (limit : Int)
deriving DecidableEq, Repr

/-- Words as literals, with "or" before the last one. -/
def alternatives (words : List String) : String :=
  match words.reverse.map fun word => "'" ++ word ++ "'" with
  | [] => ""
  | [word] => word
  | last :: rest => Text.join ", " rest.reverse ++ " or " ++ last

namespace Cause

/-- The name of a cause. -/
def name : Cause → String
  | .missing => "missing"
  | .noText => "string_type"
  | .noInteger => "int_type"
  | .noIntegerText => "int_parsing"
  | .longInteger => "int_parsing_size"
  | .fraction => "int_from_float"
  | .noFiniteNumber => "finite_number"
  | .noNumber => "float_type"
  | .noNumberText => "float_parsing"
  | .noTruthValue => "bool_type"
  | .noTruthText => "bool_parsing"
  | .noList => "list_type"
  | .noSequence => "tuple_type"
  | .noRecord _ => "model_type"
  | .noName _ => "enum"
  | .noWord _ => "literal_error"
  | .below _ => "greater_than_equal"
  | .above _ => "less_than_equal"

/-- The message of a cause. -/
def message : Cause → String
  | .missing => "Field required"
  | .noText => "Input should be a valid string"
  | .noInteger => "Input should be a valid integer"
  | .noIntegerText => "Input should be a valid integer, unable to parse string as an integer"
  | .longInteger => "Unable to parse input string as an integer, exceeded maximum size"
  | .fraction => "Input should be a valid integer, got a number with a fractional part"
  | .noFiniteNumber => "Input should be a finite number"
  | .noNumber => "Input should be a valid number"
  | .noNumberText => "Input should be a valid number, unable to parse string as a number"
  | .noTruthValue => "Input should be a valid boolean"
  | .noTruthText => "Input should be a valid boolean, unable to interpret input"
  | .noList => "Input should be a valid list"
  | .noSequence => "Input should be a valid tuple"
  | .noRecord kind => "Input should be a valid dictionary or instance of " ++ kind
  | .noName names => "Input should be " ++ alternatives names
  | .noWord words => "Input should be " ++ alternatives words
  | .below limit => "Input should be greater than or equal to " ++ toString limit
  | .above limit => "Input should be less than or equal to " ++ toString limit

end Cause

/-- A complaint about the value at a place of a record. -/
structure Complaint where
  /-- Where the value is. -/
  place : List Schema.Step
  /-- What is wrong with it. -/
  cause : Cause
deriving DecidableEq, Repr

/-- A value, or the complaints that there are instead. -/
abbrev Checked (α : Type) := Except (List Complaint) α

namespace Checked

/-- Complains about the value itself. -/
def complain {α : Type} (cause : Cause) : Checked α := .error [⟨[], cause⟩]

/-- A checked value seen from one step above. -/
def inside {α : Type} (step : Schema.Step) (checked : Checked α) : Checked α :=
  checked.mapError fun complaints =>
    complaints.map fun complaint => { complaint with place := step :: complaint.place }

/-- Fills a checked argument into a checked function; the complaints about both are kept. -/
def fill {α β : Type} (argument : Checked α) (function : Checked (α → β)) : Checked β :=
  match function, argument with
  | .ok function, .ok argument => .ok (function argument)
  | .ok _, .error complaints => .error complaints
  | .error complaints, .ok _ => .error complaints
  | .error first, .error second => .error (first ++ second)

/-- Checks the members of a list, each at its position. -/
def each {α : Type} (read : Tree → Checked α) : Nat → List Tree → Checked (List α)
  | _, [] => .ok []
  | position, item :: rest =>
    (inside (.index position) (read item)).map List.cons |> fill (each read (position + 1) rest)

end Checked

end ApiAdmission.Record
