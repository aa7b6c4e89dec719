import ApiAdmission.Schema.Violation
import ApiAdmission.Tree.Literal
import ApiAdmission.Tree.Pointer
import ApiAdmission.World.TextFile

/-!
# References inside schemas

A reference that starts with a number sign names a node of the document around it: the whole
document, the node that a pointer names, or the node that carries an anchor.  Octets in a pointer
may be written as a per cent sign with two hexadecimal digits.
-/

namespace ApiAdmission.Schema

set_option autoImplicit false

/-- The bytes of a text whose escaped octets are decoded. -/
def octets : List Char → List UInt8
  | '%' :: a :: b :: rest =>
    match Text.hexValue? a, Text.hexValue? b with
    | some high, some low => UInt8.ofNat (16 * high + low) :: octets rest
    | _, _ => Utf8.encode "%" ++ octets (a :: b :: rest)
  | c :: rest => Utf8.encode (String.singleton c) ++ octets rest
  | [] => []

/-- A text with its escaped octets decoded. -/
def unescapeOctets (text : String) : String :=
  if text.toList.contains '%' then String.ofList (Utf8.decodeTolerantly (octets text.toList))
  else text

/-- The segments of a pointer that starts with a slash, still escaped. -/
def segmentsOf (pointer : String) : List String :=
  Text.split '/' (unescapeOctets (String.ofList (pointer.toList.drop 1)))

/-- Why a reference names nothing. -/
inductive Lost where
  /-- A pointer leads nowhere in a document. -/
  | nowhere (pointer : String) (root : Tree)
  /-- No definition carries an anchor. -/
  | noAnchor (anchor : String) (root : Tree)
  /-- An anchor holds a slash. -/
  | badAnchor (anchor : String)
  /-- The document that a reference names is not known. -/
  | elsewhere (reference : String)

namespace Lost

/-- The sentence about what is missing. -/
def sentence : Lost → String
  | .nowhere pointer root =>
    Text.quote pointer ++ " does not exist within " ++ root.literal ++
      (if pointer == "/" then
        ". The pointer '/' is a valid JSON Pointer " ++
        "but it points to an empty string property ''. " ++
          "If you intended to point to the entire resource, you should use '#'."
      else "")
  | .noAnchor anchor root => Text.quote anchor ++ " does not exist within " ++ root.literal
  | .badAnchor anchor =>
    "'#" ++ anchor ++ "' is not a valid anchor, neither as a plain name anchor nor as a JSON " ++
      "Pointer. You may have intended to use '#/" ++ anchor ++
      "', as the slash is required *before each segment* of a JSON pointer."
  | .elsewhere reference => reference

/-- The name of the cause. -/
def causeName : Lost → String
  | .nowhere .. => "PointerToNowhere"
  | .noAnchor .. => "NoSuchAnchor"
  | .badAnchor _ => "InvalidAnchor"
  | .elsewhere _ => "Unresolvable"

/-- The breakdown of a walk through a definition that meets the reference. -/
def breakdown (lost : Lost) : Breakdown := .lostTarget lost.sentence

/-- The breakdown of a validation that meets the reference, which tells the cause as well. -/
def namedBreakdown (lost : Lost) : Breakdown :=
  .lostTarget (lost.causeName ++ ": " ++ lost.sentence)

end Lost

/-- A node of a document with the steps that lead to it. -/
structure Target where
  /-- The steps from the root of the document. -/
  path : List Step
  /-- The node. -/
  value : Tree

/-- The position that a segment names in a sequence of so many items; the sequence may lack it. -/
def positionIn (size : Nat) (segment : String) : Except Breakdown (Option Nat) :=
  match Number.integer? segment with
  | some index => .ok (Tree.atIndex? (List.range size) index)
  | none =>
    .error (.illegalValue ("invalid literal for int() with base 10: " ++ Text.quote segment))

/-- The item that a segment names in a sequence. -/
def itemAt (items : List Tree) (segment : String) : Except Breakdown (Option (Step × Tree)) := do
  return (← positionIn items.length segment).bind fun position =>
    items[position]?.map fun item => (.index position, item)

/-- One step of a pointer down into a value, if there is anything there. -/
def stepInto (segment : String) : Tree → Except Breakdown (Option (Step × Tree))
  | .mapping entries =>
    let name := Tree.unescapeSegment segment
    .ok ((Tree.lookup? name entries).map fun value => (.key name, value))
  | .list items => itemAt items segment
  | .pair key value => itemAt [key, value] segment
  | .text text => itemAt (text.toList.map fun c => .text (String.singleton c)) segment
  | .bytes bytes => itemAt (bytes.map fun byte => .integer byte.toNat) segment
  | .null | .boolean _ | .integer _ | .number _ | .moment _ | .set _ => .error .wrongKind

/-- The node at segments below a node. -/
def descendAlong : List String → Target → Except Breakdown (Option Target)
  | [], target => .ok (some target)
  | segment :: rest, target => do
    match ← stepInto segment target.value with
    | some (step, value) => descendAlong rest ⟨target.path ++ [step], value⟩
    | none => return none

/-- The node that carries an anchor among the definitions of a schema. -/
def anchored? (anchor : String) (root : Tree) : Option Target :=
  let definitions := ((root.get? "$defs").map Tree.entries).getD []
  (definitions.find? fun entry =>
    entry.2.get? "$dynamicAnchor" == some (.text anchor) ||
      entry.2.get? "$anchor" == some (.text anchor)).map fun entry =>
    ⟨[.key "$defs", .key entry.1], entry.2⟩

/-- The node of a document that a reference without its number sign names, or why there is none. -/
def targetOf (root : Tree) (fragment : String) : Except Breakdown (Except Lost Target) := do
  if fragment == "" then return .ok ⟨[], root⟩
  else if Text.startsWith fragment "/" then
    match ← descendAlong (segmentsOf fragment) ⟨[], root⟩ with
    | some target => return .ok target
    | none => return .error (.nowhere fragment root)
  else
    match anchored? fragment root with
    | some target => return .ok target
    | none =>
      if fragment.toList.contains '/' then return .error (.badAnchor fragment)
      else return .error (.noAnchor fragment root)

end ApiAdmission.Schema
