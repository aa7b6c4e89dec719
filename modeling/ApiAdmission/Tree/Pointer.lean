import ApiAdmission.Number.Reader
import ApiAdmission.Tree.Basic

/-!
# Pointers into a tree

A pointer names a node by the segments on the way to it: a segment is a key of a mapping or an
index of a list.  In a segment `~1` stands for a slash and `~0` for a tilde.  Slashes at the front
of a pointer are skipped, and a pointer that is empty or one slash names the whole tree.

An index is any decimal integer in the liberal grammar of numbers; a negative one counts from the
end of the list.
-/

namespace ApiAdmission

set_option autoImplicit false

/-- Why a pointer names no node. -/
inductive PointerFault where
  /-- A mapping has no such key. -/
  | missingKey (key : String)
  /-- A list has no such index. -/
  | badIndex (segment : String)
  /-- A value that is neither a mapping nor a list has no parts. -/
  | noParts (kind : String)
deriving DecidableEq, Repr

/-- The message of a pointer fault. -/
def PointerFault.message : PointerFault → String
  | .missingKey key => "key '" ++ key ++ "' not found"
  | .badIndex segment => "invalid array index '" ++ segment ++ "'"
  | .noParts kind => "cannot navigate into " ++ kind

namespace Tree

/-- The element at an index that counts from the end when it is negative. -/
def atIndex? {α : Type} (items : List α) (index : Int) : Option α :=
  if index < 0 then
    let fromEnd := index.natAbs
    if fromEnd ≤ items.length then items[items.length - fromEnd]? else none
  else items[index.toNat]?

/-- One step of a pointer. -/
def step (tree : Tree) (segment : String) : Except PointerFault Tree :=
  match tree with
  | .mapping entries =>
    match lookup? segment entries with
    | some value => .ok value
    | none => .error (.missingKey segment)
  | .list items =>
    match (Number.integer? segment).bind (atIndex? items) with
    | some item => .ok item
    | none => .error (.badIndex segment)
  | other => .error (.noParts other.kindName)

/-- Follows segments one after the other. -/
def followSegments (tree : Tree) : List String → Except PointerFault Tree
  | [] => .ok tree
  | segment :: rest => do followSegments (← tree.step segment) rest

/-- A segment with its escapes replaced. -/
def unescapeSegment (segment : String) : String :=
  Text.replaceAll "~0" "~" (Text.replaceAll "~1" "/" segment)

/-- The segments of a pointer. -/
def pointerSegments (pointer : String) : List String :=
  (Text.splitAt '/' (Text.trimStart (· == '/') pointer.toList)).map fun segment =>
    unescapeSegment (String.ofList segment)

/-- The node that a pointer names. -/
def follow (tree : Tree) (pointer : String) : Except PointerFault Tree :=
  if pointer == "" || pointer == "/" then .ok tree
  else tree.followSegments (pointerSegments pointer)

end Tree

end ApiAdmission
