import ApiAdmission.Number.Shortest
import ApiAdmission.Text.Quoted
import ApiAdmission.Tree.Basic

/-!
# Values in messages

Messages show a value either as it reads or as a literal.  The two differ only for texts, which a
literal quotes, and for moments, which a literal writes out by their parts.
-/

namespace ApiAdmission.Tree

set_option autoImplicit false

/-- The word for a truth value. -/
def booleanWord (value : Bool) : String :=
  if value then "True" else "False"

mutual
/-- A value as a literal. -/
def literal : Tree → String
  | .null => "None"
  | .boolean value => booleanWord value
  | .integer value => toString value
  | .number value => value.text
  | .text value => Text.quote value
  | .bytes value => Text.quoteBytes value
  | .moment value => value.literal
  | .list items => "[" ++ Text.join ", " (itemLiterals items) ++ "]"
  | .pair key value => "(" ++ literal key ++ ", " ++ literal value ++ ")"
  | .set [] => "set()"
  | .set members => "\x7b" ++ Text.join ", " (itemLiterals members) ++ "\x7d"
  | .mapping entries => "\x7b" ++ Text.join ", " (entryLiterals entries) ++ "\x7d"
termination_by structural tree => tree

/-- The literals of a list of values. -/
def itemLiterals : List Tree → List String
  | [] => []
  | item :: rest => literal item :: itemLiterals rest
termination_by structural items => items

/-- The literals of the entries of a mapping. -/
def entryLiterals : List (String × Tree) → List String
  | [] => []
  | (key, value) :: rest => (Text.quote key ++ ": " ++ literal value) :: entryLiterals rest
termination_by structural entries => entries
end

/-- A value as it reads. -/
def shown : Tree → String
  | .text value => value
  | .moment value => value.text
  | tree => literal tree

end ApiAdmission.Tree
