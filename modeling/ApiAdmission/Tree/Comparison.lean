import ApiAdmission.Tree.Basic

/-!
# Comparing values

Numbers are compared by their exact values, so an integer and a number with a fraction part of zero
are equal, whatever their size.  Truth values are equal only to truth values.  Two mappings are
equal when they have the same entries in any order.
-/

namespace ApiAdmission

set_option autoImplicit false

/-- The exact value of a number. -/
inductive Quantity where
  /-- A fraction with a positive denominator. -/
  | fraction (numerator : Int) (denominator : Nat)
  /-- One of the two infinities. -/
  | infinite (negative : Bool)
  /-- No number. -/
  | none
deriving DecidableEq, Repr

namespace Quantity

/-- The quantity of an integer. -/
def ofInteger (value : Int) : Quantity := .fraction value 1

/-- The quantity of a double. -/
def ofDouble (value : Double) : Quantity :=
  match value.toFraction? with
  | some (numerator, denominator) => .fraction numerator denominator
  | Option.none => if value.isNaN then .none else .infinite value.isNegative

/-- Whether two quantities are equal. -/
def equal : Quantity → Quantity → Bool
  | .fraction a b, .fraction c d => a * d == c * b
  | .infinite a, .infinite b => a == b
  | _, _ => false

/-- Whether one quantity is less than another. -/
def less : Quantity → Quantity → Bool
  | .fraction a b, .fraction c d => decide (a * d < c * b)
  | .infinite negative, .fraction .. => negative
  | .fraction .., .infinite negative => !negative
  | .infinite first, .infinite second => first && !second
  | _, _ => false

/-- Whether one quantity is at most another. -/
def atMost (first second : Quantity) : Bool := less first second || equal first second

end Quantity

namespace Tree

/-- The exact value of a number that is no truth value. -/
def quantity? : Tree → Option Quantity
  | .integer value => some (.ofInteger value)
  | .number value => some (.ofDouble value)
  | _ => none

mutual
/-- Whether two values are equal. -/
def equal : Tree → Tree → Bool
  | .integer a, b => b.quantity?.any (Quantity.equal (.ofInteger a))
  | .number a, b => b.quantity?.any (Quantity.equal (.ofDouble a))
  | .list a, .list b => equalItems a b
  | .mapping a, .mapping b => a.length == b.length && equalEntries a b
  | a, b => decide (a = b)
termination_by structural tree => tree

/-- Whether two lists have equal items. -/
def equalItems : List Tree → List Tree → Bool
  | [], [] => true
  | a :: restA, b :: restB => equal a b && equalItems restA restB
  | _, _ => false
termination_by structural items => items

/-- Whether every entry of a list has an equal one in another list. -/
def equalEntries : List (String × Tree) → List (String × Tree) → Bool
  | [], _ => true
  | (key, value) :: rest, others =>
    (match lookup? key others with
      | some other => equal value other
      | none => false) && equalEntries rest others
termination_by structural entries => entries
end

/-- Whether no two values of a list are equal. -/
def allDistinct : List Tree → Bool
  | [] => true
  | item :: rest => rest.all (fun other => !equal item other) && allDistinct rest

end Tree

end ApiAdmission
