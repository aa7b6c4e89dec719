import ApiAdmission.Schema.Assertion
import ApiAdmission.Schema.Reference

/-!
# Places in a definition

A place is a node of a definition with the steps that lead to it.  Where the node is a reference,
the place is the one that the reference names, so two places are the same exactly when their steps
are.  The checks look into places without asking first what is there: a node of the wrong kind is a
breakdown, and so is a reference that names nothing.
-/

namespace ApiAdmission.Definition

set_option autoImplicit false

open Schema (Step Target Lost)

/-- The reference that a node is. -/
def referenceIn? (value : Tree) : Option String :=
  (value.get? "$ref").bind Tree.text?

/-- What a reference inside a definition names. -/
def lookUp (root : Tree) (reference : String) : Except Breakdown Target := do
  let found ← match reference.toList with
    | '#' :: fragment => Schema.targetOf root (String.ofList fragment)
    | [] => .ok (.ok ⟨[], root⟩)
    | _ => .ok (.error (.elsewhere reference))
  match found with
  | .ok target => return target
  | .error lost => throw lost.breakdown

/-- Follows references from a node, at most so many. -/
def settleWithin (root : Tree) : Nat → Target → Except Breakdown Target
  | 0, _ => .error .endless
  | budget + 1, target =>
    match referenceIn? target.value with
    | none => .ok target
    | some reference => do settleWithin root budget (← lookUp root reference)

/-- The place of a node.  A chain of references that does not end visits a node twice, so it is
longer than the definition has nodes. -/
def settle (root : Tree) (target : Target) : Except Breakdown Target :=
  settleWithin root (root.size + 1) target

/-! ## Looking into a place -/

/-- Whether a node has a key: a mapping among its keys, a sequence among its items, and a text as a
part of it. -/
def hasKey (key : String) : Tree → Except Breakdown Bool
  | .mapping entries => .ok (Tree.lookup? key entries).isSome
  | .list items => .ok (items.contains (.text key))
  | .set members => .ok (members.contains (.text key))
  | .pair first second => .ok (first == .text key || second == .text key)
  | .text text => .ok (Text.contains text key)
  | .null | .boolean _ | .integer _ | .number _ | .bytes _ | .moment _ => .error .wrongKind

/-- The value under a key of a mapping, as it is written. -/
def written? (key : String) : Tree → Except Breakdown (Option Tree)
  | .mapping entries => .ok (Tree.lookup? key entries)
  | _ => .error .wrongKind

/-- The value under a key that a mapping has to have, as it is written. -/
def written (key : String) (value : Tree) : Except Breakdown Tree := do
  match ← written? key value with
  | some value => return value
  | none => throw (.missingKey (Text.quote key))

/-- The place under a key, if there is one. -/
def child? (root : Tree) (key : String) (place : Target) : Except Breakdown (Option Target) := do
  if ← hasKey key place.value then
    match ← written? key place.value with
    | some value => return some (← settle root ⟨place.path ++ [.key key], value⟩)
    | none => return none
  else return none

/-- The nodes under the keys of a mapping. -/
def branches (place : Target) : Except Breakdown (List (String × Target)) :=
  match place.value with
  | .mapping entries =>
    .ok (entries.map fun entry => (entry.1, ⟨place.path ++ [.key entry.1], entry.2⟩))
  | _ => .error .noSuchMember

/-- The nodes of a sequence.  A mapping that is not empty has no node at the first position. -/
def members (place : Target) : Except Breakdown (List Target) := do
  match place.value with
  | .mapping (_ :: _) => throw (.missingKey "0")
  | .set (_ :: _) => throw .wrongKind
  | value =>
    return (← Tree.elements value).zipIdx.map fun (item, position) =>
      ⟨place.path ++ [.index position], item⟩

end ApiAdmission.Definition
