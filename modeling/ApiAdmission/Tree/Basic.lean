import ApiAdmission.Number.Double
import ApiAdmission.Tree.Moment

/-!
# Document trees

The value of a parsed document.  Mappings keep their entries in the order of first appearance, and
a key that is written again takes the later value at its first position.  Besides the values of
JSON there are those that the other notation adds: strings of bytes, moments, sets, and the pairs
of an ordered list of entries.
-/

namespace ApiAdmission

set_option autoImplicit false

/-- A parsed document value. -/
inductive Tree where
  /-- The absent value. -/
  | null
  /-- A truth value. -/
  | boolean (value : Bool)
  /-- An integer of any size. -/
  | integer (value : Int)
  /-- A number with a fraction or an exponent. -/
  | number (value : Double)
  /-- A text. -/
  | text (value : String)
  /-- A string of bytes. -/
  | bytes (value : List UInt8)
  /-- A day or an instant. -/
  | moment (value : Moment)
  /-- A sequence. -/
  | list (items : List Tree)
  /-- A key with its value, as an ordered list of entries holds them. -/
  | pair (key value : Tree)
  /-- A set, with its members in the order of first appearance. -/
  | set (members : List Tree)
  /-- A mapping, with its entries in order. -/
  | mapping (entries : List (String × Tree))
deriving Inhabited, Repr

namespace Tree

/-- The value stored under a key in a list of entries. -/
def lookup? (key : String) : List (String × Tree) → Option Tree
  | [] => none
  | (name, value) :: rest => if name == key then some value else lookup? key rest

/-- Stores a value under a key: in place when the key is present, at the end otherwise. -/
def insertEntry {α : Type} (key : String) (value : α) : List (String × α) → List (String × α)
  | [] => [(key, value)]
  | (name, old) :: rest =>
    if name == key then (name, value) :: rest else (name, old) :: insertEntry key value rest

/-- The entries that a list of pairs stores, one after the other. -/
def collectEntries {α : Type} (pairs : List (String × α)) : List (String × α) :=
  pairs.foldl (fun entries pair => insertEntry pair.1 pair.2 entries) []

/-- The value stored under a key of a mapping. -/
def get? (tree : Tree) (key : String) : Option Tree :=
  match tree with
  | .mapping entries => lookup? key entries
  | _ => none

/-- The entries of a mapping, and none of anything else. -/
def entries : Tree → List (String × Tree)
  | .mapping entries => entries
  | _ => []

/-- Whether a value is a mapping. -/
def isMapping : Tree → Bool
  | .mapping _ => true
  | _ => false

/-- The text that a value is. -/
def text? : Tree → Option String
  | .text value => some value
  | _ => none

/-- The name of the kind of a value, as messages give it. -/
def kindName : Tree → String
  | .null => "NoneType"
  | .boolean _ => "bool"
  | .integer _ => "int"
  | .number _ => "float"
  | .text _ => "str"
  | .bytes _ => "bytes"
  | .moment (.day ..) => "date"
  | .moment (.instant ..) => "datetime"
  | .list _ => "list"
  | .pair .. => "tuple"
  | .set _ => "set"
  | .mapping _ => "dict"

mutual
/-- The number of values in a tree, itself included. -/
def size : Tree → Nat
  | .list items => 1 + sizeOfItems items
  | .set members => 1 + sizeOfItems members
  | .pair key value => 1 + size key + size value
  | .mapping entries => 1 + sizeOfEntries entries
  | .null | .boolean _ | .integer _ | .number _ | .text _ | .bytes _ | .moment _ => 1
termination_by structural tree => tree

/-- The number of values in a list of trees. -/
def sizeOfItems : List Tree → Nat
  | [] => 0
  | item :: rest => size item + sizeOfItems rest
termination_by structural items => items

/-- The number of values in the entries of a mapping. -/
def sizeOfEntries : List (String × Tree) → Nat
  | [] => 0
  | (_, value) :: rest => size value + sizeOfEntries rest
termination_by structural entries => entries
end

/-! ## Equality -/

mutual
/-- Whether two trees are the same, entry order included. -/
def same : Tree → Tree → Bool
  | .null, .null => true
  | .boolean a, .boolean b => a == b
  | .integer a, .integer b => a == b
  | .number a, .number b => a == b
  | .text a, .text b => a == b
  | .bytes a, .bytes b => a == b
  | .moment a, .moment b => a == b
  | .list a, .list b => sameItems a b
  | .set a, .set b => sameItems a b
  | .pair a b, .pair c d => same a c && same b d
  | .mapping a, .mapping b => sameEntries a b
  | _, _ => false
termination_by structural tree => tree

/-- Whether two lists of trees are the same. -/
def sameItems : List Tree → List Tree → Bool
  | [], [] => true
  | a :: restA, b :: restB => same a b && sameItems restA restB
  | _, _ => false
termination_by structural items => items

/-- Whether two lists of entries are the same. -/
def sameEntries : List (String × Tree) → List (String × Tree) → Bool
  | [], [] => true
  | (k, a) :: restA, (l, b) :: restB => k == l && same a b && sameEntries restA restB
  | _, _ => false
termination_by structural entries => entries
end

mutual
/-- The comparison of trees decides equality. -/
theorem same_iff : ∀ a b : Tree, same a b = true ↔ a = b
  | .null, b => by cases b <;> simp [same]
  | .boolean _, b => by cases b <;> simp [same]
  | .integer _, b => by cases b <;> simp [same]
  | .number _, b => by cases b <;> simp [same]
  | .text _, b => by cases b <;> simp [same]
  | .bytes _, b => by cases b <;> simp [same]
  | .moment _, b => by cases b <;> simp [same]
  | .list items, b => by cases b <;> simp [same, sameItems_iff items]
  | .set members, b => by cases b <;> simp [same, sameItems_iff members]
  | .pair key value, b => by cases b <;> simp [same, same_iff key, same_iff value]
  | .mapping entries, b => by cases b <;> simp [same, sameEntries_iff entries]
termination_by structural tree => tree

/-- The comparison of lists of trees decides equality. -/
theorem sameItems_iff : ∀ a b : List Tree, sameItems a b = true ↔ a = b
  | [], b => by cases b <;> simp [sameItems]
  | item :: rest, b => by cases b <;> simp [sameItems, same_iff item, sameItems_iff rest]
termination_by structural items => items

/-- The comparison of lists of entries decides equality. -/
theorem sameEntries_iff : ∀ a b : List (String × Tree), sameEntries a b = true ↔ a = b
  | [], b => by cases b <;> simp [sameEntries]
  | (key, value) :: rest, b => by
    cases b with
    | nil => simp [sameEntries]
    | cons entry _ =>
      cases entry
      simp [sameEntries, same_iff value, sameEntries_iff rest, Prod.ext_iff]
termination_by structural entries => entries
end

instance : DecidableEq Tree := fun a b => decidable_of_iff (same a b = true) (same_iff a b)

end Tree

end ApiAdmission
