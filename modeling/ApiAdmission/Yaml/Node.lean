import ApiAdmission.Yaml.Scalar
import ApiAdmission.Yaml.Token.Scanner

/-!
# From tokens to nodes

A document is one node: a scalar, a sequence or a mapping, each with its tag and the place where it
starts.  An alias stands for the node that its anchor names; where that node is still being read,
the alias would make it contain itself, which is recorded as an endless node.

The grammar is read by recursive descent.  Every function either consumes a token or hands over to
one that does, so a budget of a few steps for each token is never exhausted.
-/

namespace ApiAdmission.Yaml

set_option autoImplicit false

/-- A node of a document. -/
inductive Node where
  /-- A scalar with its tag, its text and its place. -/
  | scalar (tag text : String) (place : Mark)
  /-- A sequence with its tag, its items and its place. -/
  | sequence (tag : String) (items : List Node) (place : Mark)
  /-- A mapping with its tag, its entries and its place. -/
  | mapping (tag : String) (entries : List (Node × Node)) (place : Mark)
  /-- A node that contains itself. -/
  | endless (place : Mark)
deriving Inhabited

namespace Node

/-- The place where a node starts. -/
def place : Node → Mark
  | .scalar _ _ place => place
  | .sequence _ _ place => place
  | .mapping _ _ place => place
  | .endless place => place

/-- The tag of a node. -/
def tag : Node → String
  | .scalar tag _ _ => tag
  | .sequence tag _ _ => tag
  | .mapping tag _ _ => tag
  | .endless _ => standardTag "map"

/-- The word for the kind of a node. -/
def kindName : Node → String
  | .scalar .. => "scalar"
  | .sequence .. => "sequence"
  | .mapping .. => "mapping"
  | .endless _ => "mapping"

mutual
/-- How deep a node is nested. -/
def height : Node → Nat
  | .scalar .. | .endless _ => 0
  | .sequence _ items _ => 1 + heightOfItems items
  | .mapping _ entries _ => 1 + heightOfEntries entries
termination_by structural node => node

/-- The greatest height of a list of nodes. -/
def heightOfItems : List Node → Nat
  | [] => 0
  | item :: rest => max (height item) (heightOfItems rest)
termination_by structural items => items

/-- The greatest height of the keys and values of a list of entries. -/
def heightOfEntries : List (Node × Node) → Nat
  | [] => 0
  | (key, value) :: rest => max (max (height key) (height value)) (heightOfEntries rest)
termination_by structural entries => entries
end

mutual
/-- Whether a node contains itself somewhere. -/
def isEndless : Node → Bool
  | .scalar .. => false
  | .endless _ => true
  | .sequence _ items _ => isEndlessItems items
  | .mapping _ entries _ => isEndlessEntries entries
termination_by structural node => node

/-- Whether one of a list of nodes contains itself somewhere. -/
def isEndlessItems : List Node → Bool
  | [] => false
  | item :: rest => isEndless item || isEndlessItems rest
termination_by structural items => items

/-- Whether a key or a value of a list of entries contains itself somewhere. -/
def isEndlessEntries : List (Node × Node) → Bool
  | [] => false
  | (key, value) :: rest => isEndless key || isEndless value || isEndlessEntries rest
termination_by structural entries => entries
end

end Node

/-! ## Reading state -/

/-- An anchor: its place, and its node once that is complete. -/
structure Anchor where
  /-- The name. -/
  name : String
  /-- Where the node starts. -/
  place : Mark
  /-- The node, unless it is still being read. -/
  node : Option Node

/-- The tokens that are left, the abbreviations for tags and the anchors. -/
structure Reading where
  /-- The tokens that are left. -/
  tokens : List Token
  /-- The fault after the last token. -/
  fault : Option Fault
  /-- The abbreviations for tags. -/
  abbreviations : List (String × String)
  /-- The anchors seen so far. -/
  anchors : List Anchor

namespace Reading

/-- The next token, or the fault where there is none. -/
def peek (reading : Reading) : Except Fault Token :=
  match reading.tokens with
  | token :: _ => .ok token
  | [] => .error (reading.fault.getD .endless)

/-- The state after the next token. -/
def next (reading : Reading) : Reading :=
  { reading with tokens := reading.tokens.drop 1 }

/-- Finds an anchor by its name. -/
def anchor? (reading : Reading) (name : String) : Option Anchor :=
  reading.anchors.find? fun anchor => anchor.name == name

/-- Notes that a node with an anchor begins; the name must be new. -/
def openAnchor (reading : Reading) (name : Option String) (place : Mark) :
    Except Fault Reading :=
  match name with
  | none => .ok reading
  | some name =>
    match reading.anchor? name with
    | some first => .error (.during .duplicateAnchor first.place .secondOccurrence place)
    | none => .ok { reading with anchors := ⟨name, place, none⟩ :: reading.anchors }

/-- Notes the node of an anchor. -/
def closeAnchor (reading : Reading) (name : Option String) (node : Node) : Reading :=
  match name with
  | none => reading
  | some name =>
    let anchors := reading.anchors.map fun anchor =>
      if anchor.name == name then { anchor with node := some node } else anchor
    { reading with anchors := anchors }

end Reading

/-- The anchor and the tag in front of a node, and the place where the node starts with them. -/
structure Properties where
  /-- The name of the anchor. -/
  anchor : Option String
  /-- The handle and the suffix of the tag, with its place. -/
  tag : Option (String × String × Mark)
  /-- Where the node starts. -/
  place : Mark

/-- Reads the anchor and the tag in front of a node, in either order. -/
def readProperties (reading : Reading) : Except Fault (Properties × Reading) := do
  let first ← reading.peek
  match first.kind with
  | .anchor name =>
    let second ← reading.next.peek
    match second.kind with
    | .tag handle suffix =>
      return (⟨some name, some (handle, suffix, second.start), first.start⟩, reading.next.next)
    | _ => return (⟨some name, none, first.start⟩, reading.next)
  | .tag handle suffix =>
    let second ← reading.next.peek
    match second.kind with
    | .anchor name =>
      return (⟨some name, some (handle, suffix, first.start), first.start⟩, reading.next.next)
    | _ => return (⟨none, some (handle, suffix, first.start), first.start⟩, reading.next)
  | _ => return (⟨none, none, first.start⟩, reading)

/-- The tag that a handle and a suffix stand for. -/
def expandTag (reading : Reading) (properties : Properties) : Except Fault (Option String) :=
  match properties.tag with
  | none => .ok none
  | some ("", suffix, _) => .ok (some suffix)
  | some (handle, suffix, place) =>
    match reading.abbreviations.find? fun entry => entry.1 == handle with
    | some (_, start) => .ok (some (start ++ suffix))
    | none => .error (.during .parsingNode properties.place .undefinedTagHandle place)

/-- The tag of a collection: the one given, unless it is absent or leaves the kind open. -/
def collectionTag (given : Option String) (kind : String) : String :=
  match given with
  | none => standardTag kind
  | some tag => if tag == "!" then standardTag kind else tag

/-- The tag of a scalar that is written out. -/
def scalarTag (given : Option String) (plain : Bool) (text : String) : String :=
  match given with
  | none => if plain then plainTag text else standardTag "str"
  | some tag => if tag == "!" then plainTag text else tag

/-- The tag of a scalar of which only the properties are written. -/
def emptyTag (given : Option String) : String :=
  match given with
  | none => standardTag "null"
  | some tag => if tag == "!" then standardTag "str" else tag

/-- The node of a scalar that is not written at all. -/
def emptyNode (place : Mark) : Node := .scalar (standardTag "null") "" place

/-! ## The grammar -/

/-- In what surroundings a node is read. -/
inductive Surroundings where
  /-- Block collections may follow. -/
  | block
  /-- Block collections may follow, and a sequence without indentation of its own. -/
  | blockOrUnindented
  /-- Only flow collections may follow. -/
  | flow
deriving DecidableEq

/-- Whether a token is one of the given kinds. -/
def Token.isOneOf (token : Token) (kinds : List TokenKind) : Bool :=
  kinds.contains token.kind

mutual
/-- Reads a node. -/
def readNode : Nat → Surroundings → Reading → Except Fault (Node × Reading)
  | 0, _, _ => .error .endless
  | budget + 1, surroundings, reading => do
    let first ← reading.peek
    match first.kind with
    | .alias name =>
      match reading.anchor? name with
      | none => .error (.complaint none .undefinedAlias first.start)
      | some anchor => return (anchor.node.getD (.endless anchor.place), reading.next)
    | _ =>
      let (properties, reading) ← readProperties reading
      let token ← reading.peek
      let tag ← expandTag reading properties
      let place := properties.place
      let name := properties.anchor
      match token.kind, surroundings with
      | .blockEntry, .blockOrUnindented =>
        let reading ← reading.openAnchor name place
        let (items, reading) ← readUnindented budget [] reading
        let node := Node.sequence (collectionTag tag "seq") items place
        return (node, reading.closeAnchor name node)
      | .scalar text plain, _ =>
        let reading ← reading.next.openAnchor name place
        let node := Node.scalar (scalarTag tag plain text) text place
        return (node, reading.closeAnchor name node)
      | .flowSequenceStart, _ =>
        let reading ← reading.openAnchor name place
        let (items, reading) ← readFlowItems budget token.start true [] reading.next
        let node := Node.sequence (collectionTag tag "seq") items place
        return (node, reading.closeAnchor name node)
      | .flowMappingStart, _ =>
        let reading ← reading.openAnchor name place
        let (entries, reading) ← readFlowEntries budget token.start true [] reading.next
        let node := Node.mapping (collectionTag tag "map") entries place
        return (node, reading.closeAnchor name node)
      | kind, _ =>
        if kind == .blockSequenceStart && surroundings != .flow then
          let reading ← reading.openAnchor name place
          let (items, reading) ← readBlockItems budget token.start [] reading.next
          let node := Node.sequence (collectionTag tag "seq") items place
          return (node, reading.closeAnchor name node)
        else if kind == .blockMappingStart && surroundings != .flow then
          let reading ← reading.openAnchor name place
          let (entries, reading) ← readBlockEntries budget token.start [] reading.next
          let node := Node.mapping (collectionTag tag "map") entries place
          return (node, reading.closeAnchor name node)
        else if name.isSome || tag.isSome then
          let reading ← reading.openAnchor name place
          let node := Node.scalar (emptyTag tag) "" place
          return (node, reading.closeAnchor name node)
        else
          let activity :=
            if surroundings == .flow then Activity.parsingFlowNode else .parsingBlockNode
          .error (.during activity place .missingNodeContent token.start)

/-- Reads a node unless one of the given tokens follows, which stand for an absent node. -/
def readNodeUnless : Nat → List TokenKind → Surroundings → Mark → Reading →
    Except Fault (Node × Reading)
  | 0, _, _, _, _ => .error .endless
  | budget + 1, kinds, surroundings, place, reading => do
    let token ← reading.peek
    if token.isOneOf kinds then return (emptyNode place, reading)
    else readNode budget surroundings reading

/-- Reads the items of a block sequence. -/
def readBlockItems : Nat → Mark → List Node → Reading → Except Fault (List Node × Reading)
  | 0, _, _, _ => .error .endless
  | budget + 1, start, reversed, reading => do
    let token ← reading.peek
    match token.kind with
    | .blockEntry =>
      let (item, reading) ←
        readNodeUnless budget [.blockEntry, .blockEnd] .block token.finish reading.next
      readBlockItems budget start (item :: reversed) reading
    | .blockEnd => return (reversed.reverse, reading.next)
    | _ =>
      .error (.during .parsingBlockCollection start .missingSequenceIndicator token.start)

/-- Reads the items of a sequence that is not indented in its mapping. -/
def readUnindented : Nat → List Node → Reading → Except Fault (List Node × Reading)
  | 0, _, _ => .error .endless
  | budget + 1, reversed, reading => do
    let token ← reading.peek
    match token.kind with
    | .blockEntry =>
      let (item, reading) ←
        readNodeUnless budget [.blockEntry, .key, .value, .blockEnd] .block token.finish
          reading.next
      readUnindented budget (item :: reversed) reading
    | _ => return (reversed.reverse, reading)

/-- Reads the entries of a block mapping. -/
def readBlockEntries : Nat → Mark → List (Node × Node) → Reading →
    Except Fault (List (Node × Node) × Reading)
  | 0, _, _, _ => .error .endless
  | budget + 1, start, reversed, reading => do
    let token ← reading.peek
    match token.kind with
    | .key =>
      let (key, reading) ←
        readNodeUnless budget [.key, .value, .blockEnd] .blockOrUnindented token.finish
          reading.next
      let second ← reading.peek
      match second.kind with
      | .value =>
        let (value, reading) ←
          readNodeUnless budget [.key, .value, .blockEnd] .blockOrUnindented second.finish
            reading.next
        readBlockEntries budget start ((key, value) :: reversed) reading
      | _ => readBlockEntries budget start ((key, emptyNode second.start) :: reversed) reading
    | .blockEnd => return (reversed.reverse, reading.next)
    | _ => .error (.during .parsingBlockMapping start .missingKey token.start)

/-- Reads the items of a flow sequence; an item with a colon is a mapping of one entry. -/
def readFlowItems : Nat → Mark → Bool → List Node → Reading →
    Except Fault (List Node × Reading)
  | 0, _, _, _, _ => .error .endless
  | budget + 1, start, isFirst, reversed, reading => do
    let token ← reading.peek
    if token.kind == .flowSequenceEnd then return (reversed.reverse, reading.next)
    else if !isFirst && token.kind != .flowEntry then
      .error (.during .parsingFlowSequence start .missingSequenceEnd token.start)
    else
      let reading := if isFirst then reading else reading.next
      let token ← reading.peek
      match token.kind with
      | .key =>
        let (entry, reading) ← readFlowPair budget reading.next
        let item := Node.mapping (standardTag "map") [entry] token.start
        readFlowItems budget start false (item :: reversed) reading
      | .flowSequenceEnd => return (reversed.reverse, reading.next)
      | _ =>
        let (item, reading) ← readNode budget .flow reading
        readFlowItems budget start false (item :: reversed) reading

/-- Reads the key and the value of a mapping of one entry in a flow sequence.  Where the key is
absent, the token that shows so is taken for it. -/
def readFlowPair : Nat → Reading → Except Fault ((Node × Node) × Reading)
  | 0, _ => .error .endless
  | budget + 1, reading => do
    let token ← reading.peek
    let (key, reading) ←
      if token.isOneOf [.value, .flowEntry, .flowSequenceEnd] then
        pure (emptyNode token.finish, reading.next)
      else readNode budget .flow reading
    let second ← reading.peek
    match second.kind with
    | .value =>
      let third ← reading.next.peek
      let (value, reading) ←
        readNodeUnless budget [.flowEntry, .flowSequenceEnd] .flow third.start reading.next
      return ((key, value), reading)
    | _ => return ((key, emptyNode second.start), reading)

/-- Reads the entries of a flow mapping; a key without a colon has an absent value. -/
def readFlowEntries : Nat → Mark → Bool → List (Node × Node) → Reading →
    Except Fault (List (Node × Node) × Reading)
  | 0, _, _, _, _ => .error .endless
  | budget + 1, start, isFirst, reversed, reading => do
    let token ← reading.peek
    if token.kind == .flowMappingEnd then return (reversed.reverse, reading.next)
    else if !isFirst && token.kind != .flowEntry then
      .error (.during .parsingFlowMapping start .missingMappingEnd token.start)
    else
      let reading := if isFirst then reading else reading.next
      let token ← reading.peek
      match token.kind with
      | .key =>
        let inner ← reading.next.peek
        let (key, reading) ←
          readNodeUnless budget [.value, .flowEntry, .flowMappingEnd] .flow inner.start
            reading.next
        let second ← reading.peek
        match second.kind with
        | .value =>
          let third ← reading.next.peek
          let (value, reading) ←
            readNodeUnless budget [.flowEntry, .flowMappingEnd] .flow third.start reading.next
          readFlowEntries budget start false ((key, value) :: reversed) reading
        | _ =>
          readFlowEntries budget start false ((key, emptyNode second.start) :: reversed) reading
      | .flowMappingEnd => return (reversed.reverse, reading.next)
      | _ =>
        let (key, reading) ← readNode budget .flow reading
        let second ← reading.peek
        readFlowEntries budget start false ((key, emptyNode second.start) :: reversed) reading
end

/-! ## Documents -/

/-- The abbreviations that every document has. -/
def defaultAbbreviations : List (String × String) :=
  [("!", "!"), ("!!", "tag:yaml.org,2002:")]

/-- Reads the directives in front of a document. -/
def readDirectives : Nat → Bool → Reading → Except Fault Reading
  | 0, _, _ => .error .endless
  | budget + 1, versionSeen, reading => do
    let token ← reading.peek
    match token.kind with
    | .versionDirective major minor =>
      if versionSeen then .error (.complaint none .duplicateVersionDirective token.start)
      else if major != 1 || (minor != 1 && minor != 2) then
        .error (.complaint none .incompatibleVersion token.start)
      else readDirectives budget true reading.next
    | .tagDirective handle start =>
      if reading.abbreviations.any fun entry => entry.1 == handle then
        .error (.complaint none .duplicateTagDirective token.start)
      else
        let abbreviations := reading.abbreviations ++ [(handle, start)]
        readDirectives budget versionSeen { reading.next with abbreviations := abbreviations }
    | _ => return reading

/-- Adds the abbreviations that a document does not define itself. -/
def Reading.withDefaults (reading : Reading) : Reading :=
  let missing := defaultAbbreviations.filter fun entry =>
    !reading.abbreviations.any fun other => other.1 == entry.1
  { reading with abbreviations := reading.abbreviations ++ missing }

/-- Reads the start of a document that is marked as one, with its directives. -/
def readDocumentStart (reading : Reading) : Except Fault Reading := do
  let fresh := { reading with abbreviations := [] }
  let reading ← readDirectives (reading.tokens.length + 1) false fresh
  let token ← reading.peek
  if token.kind == .documentStart then return reading.next.withDefaults
  else .error (.complaint none .missingDocumentStart token.start)

/-- The tokens that show that a marked document is empty. -/
def emptyDocumentKinds (token : Token) : Bool :=
  match token.kind with
  | .versionDirective .. | .tagDirective .. | .documentStart | .documentEnd | .streamEnd => true
  | _ => false

/-- Reads the first document of a text: its node, and what follows it. -/
def readDocument (reading : Reading) : Except Fault (Node × Reading) := do
  let budget := 4 * reading.tokens.length + 8
  let token ← reading.peek
  let (node, reading) ←
    match token.kind with
    | .versionDirective .. | .tagDirective .. | .documentStart => do
      let reading ← readDocumentStart reading
      let inner ← reading.peek
      if emptyDocumentKinds inner then pure (emptyNode inner.start, reading)
      else readNode budget .block reading
    | _ => readNode budget .block reading.withDefaults
  let token ← reading.peek
  return (node, if token.kind == .documentEnd then reading.next else reading)

/-- Skips the markers of a document's end. -/
def skipDocumentEnds : Nat → Reading → Reading
  | 0, reading => reading
  | budget + 1, reading =>
    match reading.tokens with
    | token :: _ =>
      if token.kind == .documentEnd then skipDocumentEnds budget reading.next else reading
    | [] => reading

/-- The only document of a text, if there is one.  A second document is refused. -/
def readSingleDocument (stream : TokenStream) : Except Fault (Option Node) := do
  let reading : Reading := ⟨stream.tokens, stream.fault, [], []⟩
  let _ ← reading.peek
  let reading := reading.next
  let first ← reading.peek
  if first.kind == .streamEnd then return none
  else
    let (node, reading) ← readDocument reading
    let reading := skipDocumentEnds reading.tokens.length reading
    let second ← reading.peek
    if second.kind == .streamEnd then return some node
    else
      let _ ← readDocumentStart reading
      .error (.during .singleDocument node.place .anotherDocument second.start)

end ApiAdmission.Yaml
