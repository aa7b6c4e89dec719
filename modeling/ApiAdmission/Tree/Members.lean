import ApiAdmission.Breakdown
import ApiAdmission.Tree.Comparison

/-!
# Truth and members of values

Zero, nothing and whatever is empty count as false, and every other value as true.  A value that has
members yields them in order: a list its items, a mapping its keys, a text its characters.  What is
made of other values by listing them cannot be looked for among keys.
-/

namespace ApiAdmission.Tree

set_option autoImplicit false

/-- Whether a value counts as true. -/
def isTruthy : Tree → Bool
  | .null => false
  | .boolean value => value
  | .integer value => value != 0
  | .number value => !(Quantity.ofDouble value).equal (.ofInteger 0)
  | .text value => value != ""
  | .bytes value => !value.isEmpty
  | .moment _ | .pair .. => true
  | .list items => !items.isEmpty
  | .set members => !members.isEmpty
  | .mapping entries => !entries.isEmpty

/-- What a value yields when it is gone through. -/
def elements : Tree → Except Breakdown (List Tree)
  | .list items => .ok items
  | .set members => .ok members
  | .pair key value => .ok [key, value]
  | .text value => .ok (value.toList.map fun c => .text (String.singleton c))
  | .mapping entries => .ok (entries.map fun entry => .text entry.1)
  | .bytes value => .ok (value.map fun byte => .integer byte.toNat)
  | _ => .error .wrongKind

/-- Whether a value can be told apart from others at once, as identifiers and keys have to. -/
def isIdentifier : Tree → Bool
  | .mapping _ | .list _ | .set _ => false
  | .pair first second => isIdentifier first && isIdentifier second
  | _ => true

end ApiAdmission.Tree
