import ApiAdmission.Tree.Literal
import ApiAdmission.Yaml.Node

/-!
# From nodes to values

The tag of a node decides its value.  Scalars get their values when the collection around them is
read, and collections are read level by level: of two faults the one on the outer level is reported,
and on one level the first.  So a fault carries the level it was found on, and a collection reports
the fault of the least level among its members.

A mapping may take over the entries of other mappings under a merge key; its own entries win over
them, and of several merged mappings the first wins.  Keys become texts; two keys that are the same
number, or have the same text, are one key.
-/

namespace ApiAdmission.Yaml

set_option autoImplicit false

/-- A fault with the level of nesting on which it was found. -/
abbrev LeveledFault := Nat × Fault

/-- Whether a key can be the same as another one of a different kind: a number. -/
def keyNumber? : Tree → Option (Sum Int Double)
  | .boolean value => some (.inl (if value then 1 else 0))
  | .integer value => some (.inl value)
  | .number value => match value.toInteger? with
    | some integer => some (.inl integer)
    | none => some (.inr value)
  | _ => none

/-- Whether two keys are the same. -/
def sameKey (first second : Tree) : Bool :=
  match keyNumber? first, keyNumber? second with
  | some (.inl a), some (.inl b) => a == b
  | some (.inr a), some (.inr b) => a == b
  | none, none => decide (first = second)
  | _, _ => false

/-- Stores a value under a key: in place when the key is present, at the end otherwise. -/
def insertKey (key value : Tree) : List (Tree × Tree) → List (Tree × Tree)
  | [] => [(key, value)]
  | (name, old) :: rest =>
    if sameKey name key then (name, value) :: rest else (name, old) :: insertKey key value rest

/-- The entries of a mapping, with their keys as texts. -/
def entriesOf (pairs : List (Tree × Tree)) : List (String × Tree) :=
  let distinct := pairs.foldl (fun entries pair => insertKey pair.1 pair.2 entries) []
  Tree.collectEntries (distinct.map fun pair => (pair.1.shown, pair.2))

/-- The members of a set. -/
def membersOf (keys : List Tree) : List Tree :=
  (keys.foldl (fun entries key => insertKey key key entries) []).map Prod.fst

/-! ## Scalars -/

/-- The text of a node that must be a scalar; a mapping with a value key stands for its value. -/
def scalarText : Nat → Node → Except Fault String
  | _, .scalar _ text _ => .ok text
  | 0, node => .error (.complaint none (.expectedKind "scalar" node.kindName) node.place)
  | budget + 1, .mapping tag entries place =>
    match entries.find? fun entry => entry.1.tag == standardTag "value" with
    | some (_, value) => scalarText budget value
    | none =>
      .error (.complaint none (.expectedKind "scalar" (Node.mapping tag entries place).kindName)
        place)
  | _, node => .error (.complaint none (.expectedKind "scalar" node.kindName) node.place)

/-- Lifts a fault of a value. -/
def liftValue {α : Type} (result : Except ValueFault α) : Except Fault α :=
  result.mapError Fault.value

/-- How the characters from one position to another are named. -/
def characterRange (characters : List Char) (start : Nat) : String :=
  match characters with
  | [c] =>
    "character '" ++ Text.escapeCode c.toNat ++ "' in position " ++ toString start
  | _ =>
    "characters in position " ++ toString start ++ "-" ++
      toString (start + characters.length - 1)

/-- The bytes of a scalar in base 64. -/
def bytesValue (text : String) (place : Mark) : Except Fault (List UInt8) :=
  let characters := text.toList
  let start := (characters.takeWhile fun c => c.toNat < 0x80).length
  match (characters.drop start).takeWhile fun c => 0x80 ≤ c.toNat with
  | [] =>
    match base64Bytes characters with
    | .ok bytes => .ok bytes
    | .error message => .error (.complaint none (.undecodableBinary message) place)
  | foreign =>
    .error (.complaint none
      (.nonAsciiBinary ("'ascii' codec can't encode " ++ characterRange foreign start ++
        ": ordinal not in range(128)"))
      place)

/-- The tags of collections. -/
def collectionTags : List String := ["seq", "map", "set", "omap", "pairs"].map standardTag

/-- What a node yields at once: the value of a scalar, or nothing for a collection, which is read
on the next level. -/
def immediateValue (node : Node) : Except Fault (Option Tree) := do
  let text := scalarText node.height node
  let tag := node.tag
  if tag == standardTag "null" then
    let _ ← text
    return some .null
  else if tag == standardTag "bool" then
    return some (.boolean (← liftValue (truthValue (← text))))
  else if tag == standardTag "int" then
    return some (.integer (← liftValue (integerValue (← text))))
  else if tag == standardTag "float" then
    return some (.number (← liftValue (numberValue (← text))))
  else if tag == standardTag "binary" then
    return some (.bytes (← bytesValue (← text) node.place))
  else if tag == standardTag "timestamp" then
    return some (.moment (← liftValue (momentValue (← text))))
  else if tag == standardTag "str" then
    return some (.text (← text))
  else if collectionTags.contains tag then
    return none
  else .error (.complaint none (.unknownTag tag) node.place)

/-! ## Merging -/

/-- Whether a key takes over the entries of other mappings. -/
def isMergeKey (key : Node) : Bool := key.tag == standardTag "merge"

/-- A key that is the mark of a value is an ordinary text. -/
def plainKey : Node → Node
  | .scalar tag text place =>
    .scalar (if tag == standardTag "value" then standardTag "str" else tag) text place
  | node => node

/-- The entries of a mapping with those that it takes over in front.  A merge key takes over the
entries of one mapping, or of a list of mappings, those of the last one first. -/
def mergedEntries : Nat → Mark → List (Node × Node) → Except Fault (List (Node × Node))
  | 0, _, _ => .error .endless
  | budget + 1, place, entries => do
    let entriesOfMapping (source : Node) : Except Fault (List (Node × Node)) :=
      match source with
      | .mapping _ entries inner => mergedEntries budget inner entries
      | .endless _ => .error .endless
      | other =>
        .error (.during .constructingMapping place
          (.expectedMappingForMerge other.kindName) other.place)
    let takenFrom (source : Node) : Except Fault (List (Node × Node)) :=
      match source with
      | .sequence _ items _ => do return (← items.mapM entriesOfMapping).reverse.flatten
      | .scalar .. =>
        .error (.during .constructingMapping place
          (.expectedMappingsForMerge source.kindName) source.place)
      | _ => entriesOfMapping source
    let taken ← ((entries.filter fun entry => isMergeKey entry.1).map Prod.snd).mapM takenFrom
    let own := (entries.filter fun entry => !isMergeKey entry.1).map fun entry =>
      (plainKey entry.1, entry.2)
    return taken.flatten ++ own

/-! ## Collections -/

/-- Whether a value can be a key. -/
def isHashable : Option Tree → Bool
  | some _ => true
  | none => false

/-- Runs readers on members in order and keeps the fault of the least level. -/
def gather {α β : Type} (read : α → Except LeveledFault β) : List α → Except LeveledFault (List β)
  | [] => .ok []
  | member :: rest =>
    match read member, gather read rest with
    | .ok value, .ok values => .ok (value :: values)
    | .error fault, .ok _ => .error fault
    | .ok _, .error fault => .error fault
    | .error first, .error second => .error (if second.1 < first.1 then second else first)

/-- Checks the members of a mapping in order: keys must have values of their own. -/
def checkEntries (place : Mark) : List (Node × Node) → Except Fault Unit
  | [] => .ok ()
  | (key, value) :: rest => do
    if !isHashable (← immediateValue key) then
      .error (.during .constructingMapping place .unhashableKey key.place)
    else
      let _ ← immediateValue value
      checkEntries place rest

/-- Checks the members of a sequence in order. -/
def checkItems : List Node → Except Fault Unit
  | [] => .ok ()
  | item :: rest => do
    let _ ← immediateValue item
    checkItems rest

/-- The single entries of a list of pairs; the activity is named in complaints. -/
def singleEntries (activity : Activity) (node : Node) : Except Fault (List (Node × Node)) :=
  match node with
  | .sequence _ items place => items.mapM fun item =>
      match item with
      | .mapping _ [(key, value)] _ => do
        let _ ← immediateValue key
        let _ ← immediateValue value
        return (key, value)
      | .mapping _ entries inner =>
        .error (.during activity place (.expectedSingleItem entries.length) inner)
      | other => .error (.during activity place (.expectedEntry other.kindName) other.place)
  | other => .error (.during activity other.place (.expectedSequenceOfEntries other.kindName)
      other.place)

/-- The value of a node on a level of nesting, once what it yields at once has been checked. -/
def valueOn : Nat → Nat → Node → Except LeveledFault Tree
  | 0, level, _ => .error (level, .endless)
  | budget + 1, level, node =>
    let onLevel {α : Type} (result : Except Fault α) : Except LeveledFault α :=
      result.mapError fun fault => (level, fault)
    let member (inner : Node) : Except LeveledFault Tree := do
      match ← onLevel (immediateValue inner) with
      | some value => return value
      | none => valueOn budget (level + 1) inner
    let pairs (activity : Activity) : Except LeveledFault Tree := do
      let entries ← onLevel (singleEntries activity node)
      return .list (← gather (fun (entry : Node × Node) => do
        return Tree.pair (← member entry.1) (← member entry.2)) entries)
    if node.tag == standardTag "seq" then
      match node with
      | .sequence _ items _ => do
        onLevel (checkItems items)
        return .list (← gather member items)
      | other =>
        .error (level, .complaint none (.expectedKind "sequence" other.kindName) other.place)
    else if node.tag == standardTag "omap" then pairs .constructingOrderedMap
    else if node.tag == standardTag "pairs" then pairs .constructingPairs
    else
      match node with
      | .mapping tag entries place => do
        let entries ← onLevel (mergedEntries (node.height + 1) place entries)
        onLevel (checkEntries place entries)
        let values ← gather (fun (entry : Node × Node) => do
          return (← member entry.1, ← member entry.2)) entries
        return if tag == standardTag "set" then .set (membersOf (values.map Prod.fst))
          else .mapping (entriesOf values)
      | .endless _ => return .null
      | other =>
        .error (level, .complaint none (.expectedKind "mapping" other.kindName) other.place)

/-- The value of the node of a document. -/
def Node.value (node : Node) : Except Fault Tree := do
  let value ← match ← immediateValue node with
    | some value => pure value
    | none => (valueOn (2 * node.height + 2) 1 node).mapError Prod.snd
  if node.isEndless then .error .endless else return value

/-- Reads a whole text as one YAML document; an empty text is the absent value. -/
def read (text : String) : Except Fault Tree := do
  match ← readSingleDocument (scan text) with
  | none => return .null
  | some node => node.value

end ApiAdmission.Yaml
