import ApiAdmission.Text.Search
import ApiAdmission.Tree.Basic

/-!
# Finding references

A reference is a text stored under the key `$ref` of a mapping.  The scan visits a tree depth first
and in the order of its entries, and does not look inside the value of a `$ref` key.  A reference is
local when it starts with `#/`; every other one is remote.
-/

namespace ApiAdmission.Reference

set_option autoImplicit false

/-- The key of references. -/
def key : String := "$ref"

mutual
/-- The references in a tree. -/
def references : Tree → List String
  | .mapping entries => referencesInEntries entries
  | .list items => referencesInItems items
  | _ => []
termination_by structural tree => tree

/-- The references in the items of a list. -/
def referencesInItems : List Tree → List String
  | [] => []
  | item :: rest => references item ++ referencesInItems rest
termination_by structural items => items

/-- The references in the entries of a mapping. -/
def referencesInEntries : List (String × Tree) → List String
  | [] => []
  | (name, value) :: rest =>
    (if name == key then value.text?.toList else references value) ++ referencesInEntries rest
termination_by structural entries => entries
end

/-- Whether a reference points into the document that contains it. -/
def isLocal (reference : String) : Bool := Text.startsWith reference "#/"

/-- Whether a reference points out of the document that contains it. -/
def isRemote (reference : String) : Bool := !isLocal reference

/-- Adds a value at the end of a list that lacks it. -/
def addNew {α : Type} [BEq α] (values : List α) (value : α) : List α :=
  if values.contains value then values else values ++ [value]

/-- The remote references in a tree, each once, in the order of first appearance. -/
def remoteReferences (tree : Tree) : List String :=
  ((references tree).filter isRemote).foldl addNew []

end ApiAdmission.Reference
