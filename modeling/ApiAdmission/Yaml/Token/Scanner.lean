import ApiAdmission.Yaml.Token.Property
import ApiAdmission.Yaml.Token.Scalar

/-!
# From text to tokens

The scanner keeps the indentation of the open block collections, the nesting of flow collections
and, for every level of nesting, the place where a simple key may have begun.  A colon after such a
place makes what stands there a key, and the mark of the key is inserted in front of it; therefore a
token that may still turn out to begin a key is held back until that is decided.

`scan` gives the tokens in the order in which they are handed out and the fault that ends the text
early, if there is one.  A token that was held back when the fault was found is not handed out.
-/

namespace ApiAdmission.Yaml

set_option autoImplicit false

/-- A place where a simple key may have begun. -/
structure KeyCandidate where
  /-- Whether only a key can stand there. -/
  required : Bool
  /-- The number of the token that would be the key. -/
  number : Nat
  /-- The place. -/
  mark : Mark

/-- The state of the scanner. -/
structure Scanner where
  /-- The reading position. -/
  cursor : Cursor
  /-- The tokens that are not handed out yet. -/
  queue : List Token
  /-- The number of tokens handed out. -/
  taken : Nat
  /-- The column of the innermost block collection; minus one outside of all. -/
  indent : Int
  /-- The columns of the block collections around it. -/
  outer : List Int
  /-- The key candidates, one for each level of flow nesting, the innermost first. -/
  candidates : List (Option KeyCandidate)
  /-- Whether a simple key may begin at the reading position. -/
  keyAllowed : Bool

namespace Scanner

/-- The scanner at the start of a text, with the token for the start handed in. -/
def start (characters : List Char) : Scanner :=
  let mark : Mark := ⟨0, 0, 0⟩
  { cursor := ⟨characters, mark, characters.length⟩, queue := [⟨.streamStart, mark, mark⟩],
    taken := 0, indent := -1, outer := [], candidates := [none], keyAllowed := true }

/-- Whether the reading position is inside a flow collection. -/
def inFlow (scanner : Scanner) : Bool := 1 < scanner.candidates.length

/-- The place of the reading position. -/
def mark (scanner : Scanner) : Mark := scanner.cursor.mark

/-- Adds a token at the end of the queue. -/
def push (scanner : Scanner) (token : Token) : Scanner :=
  { scanner with queue := scanner.queue ++ [token] }

/-- Inserts a token in front of the token of the given number. -/
def insertAt (scanner : Scanner) (number : Nat) (token : Token) : Scanner :=
  let position := number - scanner.taken
  { scanner with queue := scanner.queue.take position ++ token :: scanner.queue.drop position }

/-! ## Key candidates -/

/-- Forgets a candidate that is too far away or on an earlier line. -/
def refreshCandidate (place : Mark) : Option KeyCandidate → Except Fault (Option KeyCandidate)
  | none => .ok none
  | some candidate =>
    if candidate.mark.line < place.line || candidate.mark.index + 1024 < place.index then
      if candidate.required then
        .error (.during .scanningSimpleKey candidate.mark .missingColon place)
      else .ok none
    else .ok (some candidate)

/-- Forgets the candidates that can be no keys any more, outermost first. -/
def refreshCandidates (scanner : Scanner) : Except Fault Scanner := do
  let refreshed ← scanner.candidates.reverse.mapM (refreshCandidate scanner.mark)
  return { scanner with candidates := refreshed.reverse }

/-- Replaces the candidate of the innermost level; a required one may not be given up. -/
def replaceCandidate (scanner : Scanner) (candidate : Option KeyCandidate) :
    Except Fault Scanner :=
  match scanner.candidates with
  | some old :: rest =>
    if old.required then
      .error (.during .scanningSimpleKey old.mark .missingColon scanner.mark)
    else .ok { scanner with candidates := candidate :: rest }
  | none :: rest => .ok { scanner with candidates := candidate :: rest }
  | [] => .ok scanner

/-- Notes that a simple key may begin here, if one may. -/
def noteCandidate (scanner : Scanner) : Except Fault Scanner :=
  if scanner.keyAllowed then
    let required := !scanner.inFlow && scanner.indent == scanner.mark.column
    let number := scanner.taken + scanner.queue.length
    scanner.replaceCandidate (some ⟨required, number, scanner.mark⟩)
  else .ok scanner

/-! ## Indentation -/

/-- Opens a block collection if the column is further in than the innermost one. -/
def openBlock (scanner : Scanner) (kind : TokenKind) (place : Mark) (number : Option Nat) :
    Scanner :=
  if scanner.inFlow || (place.column : Int) ≤ scanner.indent then scanner
  else
    let opened :=
      { scanner with outer := scanner.indent :: scanner.outer, indent := place.column }
    let token : Token := ⟨kind, place, place⟩
    match number with
    | none => opened.push token
    | some number => opened.insertAt number token

/-- Closes the block collections that are further in than a column. -/
def closeBlocksFrom (column : Int) : List Int → Scanner → Scanner
  | [], scanner => scanner
  | outer :: rest, scanner =>
    if scanner.indent ≤ column then scanner
    else
      let token : Token := ⟨.blockEnd, scanner.mark, scanner.mark⟩
      closeBlocksFrom column rest { scanner.push token with indent := outer, outer := rest }

/-- Closes the block collections that are further in than a column, outside flow collections. -/
def closeBlocks (scanner : Scanner) (column : Int) : Scanner :=
  if scanner.inFlow then scanner else closeBlocksFrom column scanner.outer scanner

/-! ## Reading one token -/

/-- Skips white space, comments and line ends up to the next token. -/
def skipToToken : Nat → Scanner → Scanner
  | 0, scanner => scanner
  | budget + 1, scanner =>
    let cursor := scanner.cursor
    let cursor :=
      if cursor.mark.column == 0 && cursor.isAt '\uFEFF' then cursor.skip 1 else cursor
    let tabs := scanner.inFlow || !scanner.keyAllowed
    let cursor := cursor.skipWhile fun c => c == ' ' || (tabs && c == '\t')
    let cursor := if cursor.isAt '#' then cursor.skipWhile (fun c => !isBreak c) else cursor
    if !cursor.rest.isEmpty && atBreakOrEnd cursor.rest then
      skipToToken budget
        { scanner with
          cursor := cursor.skipBreak, keyAllowed := scanner.keyAllowed || !scanner.inFlow }
    else { scanner with cursor := cursor }

/-- Adds a token of the next `width` characters. -/
def pushIndicator (scanner : Scanner) (kind : TokenKind) (width : Nat) : Scanner :=
  let after := scanner.cursor.skip width
  { scanner.push ⟨kind, scanner.mark, after.mark⟩ with cursor := after }

/-- Ends all block collections and drops the key candidate, as a document marker does. -/
def endBlocks (scanner : Scanner) : Except Fault Scanner := do
  let scanner ← (scanner.closeBlocks (-1)).replaceCandidate none
  return { scanner with keyAllowed := false }

/-- Reads the end of the text. -/
def fetchEnd (scanner : Scanner) : Except Fault Scanner := do
  let place := scanner.mark
  let place := if place.column == 0 then place else ⟨place.index, place.line + 1, 0⟩
  let cursor := { scanner.cursor with rest := [], mark := place }
  let scanner ← { scanner with cursor := cursor }.endBlocks
  return scanner.push ⟨.streamEnd, place, place⟩

/-- Reads a directive. -/
def fetchDirective (scanner : Scanner) : Except Fault Scanner := do
  let scanner ← scanner.endBlocks
  let (token, after) ← scanDirective scanner.cursor
  return { scanner.push token with cursor := after }

/-- Reads the marker of a document's start or end. -/
def fetchDocumentMarker (scanner : Scanner) (kind : TokenKind) : Except Fault Scanner := do
  let scanner ← scanner.endBlocks
  return scanner.pushIndicator kind 3

/-- Reads the start of a flow collection. -/
def fetchFlowStart (scanner : Scanner) (kind : TokenKind) : Except Fault Scanner := do
  let scanner ← scanner.noteCandidate
  let deeper :=
    { scanner with candidates := none :: scanner.candidates, keyAllowed := true }
  return deeper.pushIndicator kind 1

/-- Reads the end of a flow collection. -/
def fetchFlowEnd (scanner : Scanner) (kind : TokenKind) : Except Fault Scanner := do
  let scanner ← scanner.replaceCandidate none
  let candidates := if scanner.inFlow then scanner.candidates.drop 1 else scanner.candidates
  let shallower := { scanner with candidates := candidates, keyAllowed := false }
  return shallower.pushIndicator kind 1

/-- Reads the comma between the entries of a flow collection. -/
def fetchFlowEntry (scanner : Scanner) : Except Fault Scanner := do
  let scanner ← scanner.replaceCandidate none
  return { scanner with keyAllowed := true }.pushIndicator .flowEntry 1

/-- Reads the indicator of an entry of a block sequence. -/
def fetchBlockEntry (scanner : Scanner) : Except Fault Scanner := do
  if !scanner.inFlow && !scanner.keyAllowed then
    .error (.complaint none .misplacedSequenceEntry scanner.mark)
  else
    let opened := scanner.openBlock .blockSequenceStart scanner.mark none
    let scanner ← opened.replaceCandidate none
    return { scanner with keyAllowed := true }.pushIndicator .blockEntry 1

/-- Reads the indicator of a key. -/
def fetchKey (scanner : Scanner) : Except Fault Scanner := do
  if !scanner.inFlow && !scanner.keyAllowed then
    .error (.complaint none .misplacedKey scanner.mark)
  else
    let opened := scanner.openBlock .blockMappingStart scanner.mark none
    let scanner ← opened.replaceCandidate none
    return { scanner with keyAllowed := !scanner.inFlow }.pushIndicator .key 1

/-- Reads the indicator of a value, which makes a key of the candidate if there is one. -/
def fetchValue (scanner : Scanner) : Except Fault Scanner :=
  match scanner.candidates with
  | some candidate :: rest =>
    let token : Token := ⟨.key, candidate.mark, candidate.mark⟩
    let keyed := { scanner.insertAt candidate.number token with candidates := none :: rest }
    let opened := keyed.openBlock .blockMappingStart candidate.mark (some candidate.number)
    .ok ({ opened with keyAllowed := false }.pushIndicator .value 1)
  | _ =>
    if !scanner.inFlow && !scanner.keyAllowed then
      .error (.complaint none .misplacedValue scanner.mark)
    else
      let opened := scanner.openBlock .blockMappingStart scanner.mark none
      .ok ({ opened with keyAllowed := !scanner.inFlow }.pushIndicator .value 1)

/-- Reads a token that may begin a simple key with the given reader. -/
def fetchKeyLike (scanner : Scanner) (read : Cursor → Except Fault (Token × Cursor)) :
    Except Fault Scanner := do
  let scanner ← scanner.noteCandidate
  let (token, after) ← read scanner.cursor
  return { scanner.push token with cursor := after, keyAllowed := false }

/-- Reads a block scalar. -/
def fetchBlockScalar (scanner : Scanner) (literal : Bool) : Except Fault Scanner := do
  let scanner ← scanner.replaceCandidate none
  let (token, after) ← scanBlock literal scanner.indent scanner.cursor
  return { scanner.push token with cursor := after, keyAllowed := true }

/-- Reads a plain scalar. -/
def fetchPlain (scanner : Scanner) : Except Fault Scanner := do
  let scanner ← scanner.noteCandidate
  let (token, after, broken) ← scanPlain scanner.inFlow scanner.indent scanner.cursor
  return { scanner.push token with cursor := after, keyAllowed := broken }

/-- Whether a plain scalar may begin with the given characters. -/
def startsPlain (inFlow : Bool) : List Char → Bool
  | [] => false
  | c :: rest =>
    if c == '-' then !(match rest with | d :: _ => isBlank d | [] => false)
    else if c == '?' || c == ':' then !inFlow && !atBlankOrEnd rest
    else !(isBlank c || isBreak c || ",[]\x7b\x7d#&*!|>'\"%@\x60".toList.contains c)

/-- Reads the token at the reading position, which stands at one. -/
def fetchAt (scanner : Scanner) : Except Fault Scanner :=
  let cursor := scanner.cursor
  match cursor.rest with
  | [] => scanner.fetchEnd
  | c :: rest =>
    if cursor.mark.column == 0 && c == '%' then scanner.fetchDirective
    else if cursor.mark.column == 0 && atMarker '-' cursor.rest then
      scanner.fetchDocumentMarker .documentStart
    else if cursor.mark.column == 0 && atMarker '.' cursor.rest then
      scanner.fetchDocumentMarker .documentEnd
    else if c == '[' then scanner.fetchFlowStart .flowSequenceStart
    else if c == '\x7b' then scanner.fetchFlowStart .flowMappingStart
    else if c == ']' then scanner.fetchFlowEnd .flowSequenceEnd
    else if c == '\x7d' then scanner.fetchFlowEnd .flowMappingEnd
    else if c == ',' then scanner.fetchFlowEntry
    else if c == '-' && atBlankOrEnd rest then scanner.fetchBlockEntry
    else if c == '?' && (scanner.inFlow || atBlankOrEnd rest) then scanner.fetchKey
    else if c == ':' && (scanner.inFlow || atBlankOrEnd rest) then scanner.fetchValue
    else if c == '*' then scanner.fetchKeyLike (scanAnchor true)
    else if c == '&' then scanner.fetchKeyLike (scanAnchor false)
    else if c == '!' then scanner.fetchKeyLike (scanTag scanner.inFlow)
    else if c == '|' && !scanner.inFlow then scanner.fetchBlockScalar true
    else if c == '>' && !scanner.inFlow then scanner.fetchBlockScalar false
    else if c == '\'' then scanner.fetchKeyLike (scanQuoted true)
    else if c == '"' then scanner.fetchKeyLike (scanQuoted false)
    else if startsPlain scanner.inFlow cursor.rest then scanner.fetchPlain
    else .error (.during .scanningToken cursor.mark .unexpectedStart cursor.mark)

/-- Reads the next token into the queue. -/
def fetch (scanner : Scanner) : Except Fault Scanner := do
  let scanner ← (skipToToken scanner.cursor.bound scanner).refreshCandidates
  (scanner.closeBlocks scanner.mark.column).fetchAt

/-! ## Handing out tokens -/

/-- Whether the first token of the queue may still turn out to begin a key. -/
def holdsBack (scanner : Scanner) : Bool :=
  scanner.candidates.any fun candidate =>
    match candidate with
    | some candidate => candidate.number == scanner.taken
    | none => false

/-- Hands out tokens until the text ends or a fault is found. -/
def handOut : Nat → List Token → Scanner → TokenStream
  | 0, reversed, _ => ⟨reversed.reverse, none⟩
  | budget + 1, reversed, scanner =>
    match scanner.queue with
    | [] =>
      match scanner.fetch with
      | .error fault => ⟨reversed.reverse, some fault⟩
      | .ok scanner => handOut budget reversed scanner
    | token :: rest =>
      match scanner.refreshCandidates with
      | .error fault => ⟨reversed.reverse, some fault⟩
      | .ok scanner =>
        if scanner.holdsBack then
          match scanner.fetch with
          | .error fault => ⟨reversed.reverse, some fault⟩
          | .ok scanner => handOut budget reversed scanner
        else if token.kind == .streamEnd then ⟨(token :: reversed).reverse, none⟩
        else
          handOut budget (token :: reversed)
            { scanner with queue := rest, taken := scanner.taken + 1 }

end Scanner

/-- Whether a document may hold a character. -/
def isAllowed (c : Char) : Bool :=
  let code := c.toNat
  code == 0x09 || code == 0x0A || code == 0x0D || (0x20 ≤ code && code ≤ 0x7E) || code == 0x85 ||
    (0xA0 ≤ code && code ≤ 0xD7FF) || (0xE000 ≤ code && code ≤ 0xFFFD) || 0x10000 ≤ code

/-- The first character that no document may hold, with the number of bytes before it. -/
def findForbidden (offset : Nat) : List Char → Option (Char × Nat)
  | [] => none
  | c :: rest => if isAllowed c then findForbidden (offset + c.utf8Size) rest else some (c, offset)

/-- The characters of a text, and how many bytes stand before them: a byte order mark at the very
start belongs to the encoding. -/
def contentOf (text : String) : List Char × Nat :=
  match text.toList with
  | '\uFEFF' :: rest => (rest, '\uFEFF'.utf8Size)
  | characters => (characters, 0)

/-- The tokens of a text.  Each character yields at most a few tokens, and each turn reads or hands
out one, which bounds the number of turns. -/
def scan (text : String) : TokenStream :=
  let (characters, offset) := contentOf text
  match findForbidden offset characters with
  | some (c, offset) => ⟨[], some (.forbiddenCharacter c.toNat offset)⟩
  | none => Scanner.handOut (16 * characters.length + 32) [] (Scanner.start characters)

end ApiAdmission.Yaml
