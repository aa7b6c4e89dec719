import ApiAdmission.World.Utf8
import ApiAdmission.Yaml.Token

/-!
# Directives, anchors and tags

A directive gives the version of the notation or an abbreviation for tags.  An anchor names a node,
an alias refers to it, and a tag says of what kind a node is; a tag is written in full between
angle brackets, or as a handle with a suffix.
-/

namespace ApiAdmission.Yaml

set_option autoImplicit false

/-! ## Anchors -/

/-- Whether an anchor may end before the given characters. -/
def endsAnchor : List Char → Bool
  | [] => true
  | c :: _ =>
    isBlank c || isBreak c || c == '?' || c == ':' || c == ',' || c == ']' || c == '\x7d' ||
      c == '%' || c == '@' || c == '\x60'

/-- Reads an anchor or an alias. -/
def scanAnchor (isAlias : Bool) (cursor : Cursor) : Except Fault (Token × Cursor) :=
  let (name, after) := (cursor.skip 1).take isNameCharacter
  if name.isEmpty || !endsAnchor after.rest then
    let activity := if isAlias then Activity.scanningAlias else .scanningAnchor
    .error (.during activity cursor.mark .missingAnchorName after.mark)
  else
    let kind :=
      if isAlias then TokenKind.alias (String.ofList name) else .anchor (String.ofList name)
    .ok (⟨kind, cursor.mark, after.mark⟩, after)

/-! ## Tags -/

/-- Whether a character may stand in a tag; the flag allows the indicators of sequences too. -/
def isTagCharacter (verbatim : Bool) (c : Char) : Bool :=
  isNameCharacter c || ";/?:@&=+$.%!~*'()".toList.contains c ||
    (verbatim && (c == ',' || c == '[' || c == ']'))

/-- The value of an octet written as a percent sign and two hexadecimal digits. -/
def escapedOctet? (characters : List Char) : Option Nat :=
  match characters with
  | '%' :: high :: low :: _ => ([high, low].mapM Text.hexValue?).map (Text.ofDigits 16)
  | _ => none

/-- Reads the octets after the first one of an escaped character. -/
def scanOctets (activity : Activity) (start : Mark) : Nat → List UInt8 → Cursor →
    Except Fault (List UInt8 × Cursor)
  | 0, octets, cursor => .ok (octets, cursor)
  | count + 1, octets, cursor =>
    match escapedOctet? cursor.rest with
    | none => .error (.during activity start .missingEscapedOctet cursor.mark)
    | some octet =>
      if octet / 64 != 2 then .error (.during activity start .badTrailingOctet cursor.mark)
      else scanOctets activity start count (octets ++ [octet.toUInt8]) (cursor.skip 3)

/-- Reads a character written as escaped octets. -/
def scanEscapedCharacter (activity : Activity) (start : Mark) (cursor : Cursor) :
    Except Fault (List Char × Cursor) :=
  match escapedOctet? cursor.rest with
  | none => .error (.during activity start .missingEscapedOctet cursor.mark)
  | some octet =>
    let following : Option Nat :=
      if octet < 0x80 then some 0
      else if octet / 32 == 6 then some 1
      else if octet / 16 == 14 then some 2
      else if octet / 8 == 30 then some 3
      else none
    match following with
    | none => .error (.during activity start .badLeadingOctet cursor.mark)
    | some count => do
      let (octets, after) ← scanOctets activity start count [octet.toUInt8] (cursor.skip 3)
      return (Utf8.decodeLeniently octets, after)

/-- Reads the characters of a tag. -/
def scanTagCharacters (verbatim : Bool) (activity : Activity) (start : Mark) :
    Nat → List Char → Cursor → Except Fault (List Char × Cursor)
  | 0, text, cursor => .ok (text, cursor)
  | budget + 1, text, cursor =>
    match cursor.rest with
    | [] => .ok (text, cursor)
    | c :: _ =>
      if !isTagCharacter verbatim c then .ok (text, cursor)
      else if c == '%' then do
        let (characters, after) ← scanEscapedCharacter activity start cursor
        scanTagCharacters verbatim activity start budget (text ++ characters) after
      else scanTagCharacters verbatim activity start budget (text ++ [c]) (cursor.skip 1)

/-- Reads the rest of a tag whose first characters are given; the mark in front of them is
dropped. -/
def scanTagUri (verbatim : Bool) (activity : Activity) (start : Mark) (head : List Char)
    (cursor : Cursor) : Except Fault (String × Cursor) := do
  let (text, after) ←
    scanTagCharacters verbatim activity start cursor.bound (head.drop 1) cursor
  if head.isEmpty && after.mark.index == cursor.mark.index then
    .error (.during activity start .missingTagUri after.mark)
  else return (String.ofList text, after)

/-- Reads a tag handle: an exclamation mark, a name and perhaps another exclamation mark. -/
def scanTagHandle (cursor : Cursor) : List Char × Cursor :=
  let (name, after) := (cursor.skip 1).take isNameCharacter
  if after.isAt '!' then ('!' :: (name ++ ['!']), after.skip 1) else ('!' :: name, after)

/-- Reads the handle and the suffix of a tag. -/
def scanTagParts (cursor : Cursor) : Except Fault (String × String × Cursor) := do
  let start := cursor.mark
  if (cursor.skip 1).isAt '<' then
    let (suffix, after) ← scanTagUri true .parsingTag start [] (cursor.skip 2)
    if after.isAt '>' then return ("", suffix, after.skip 1)
    else .error (.during .scanningTag start .missingClosingAngle after.mark)
  else
    let (handle, after) := scanTagHandle cursor
    if 1 < handle.length && handle.getLast? == some '!' then
      let (suffix, finish) ← scanTagUri false .parsingTag start [] after
      return (String.ofList handle, suffix, finish)
    else
      let (suffix, finish) ← scanTagUri false .parsingTag start handle after
      return if suffix.isEmpty then ("", "!", finish) else ("!", suffix, finish)

/-- Reads a tag. -/
def scanTag (inFlow : Bool) (cursor : Cursor) : Except Fault (Token × Cursor) := do
  let (handle, suffix, after) ← scanTagParts cursor
  if (inFlow && after.isAt ',') || atBlankOrEnd after.rest then
    return (⟨.tag handle suffix, cursor.mark, after.mark⟩, after)
  else .error (.during .scanningTag cursor.mark .missingWhitespaceOrBreak after.mark)

/-! ## Directives -/

/-- Reads a number of the version directive. -/
def scanVersionNumber (start : Mark) (cursor : Cursor) : Except Fault (Nat × Cursor) :=
  let (digits, after) := cursor.take Text.isAsciiDigit
  if 9 < digits.length then
    .error (.during .scanningVersionDirective start .longVersionNumber (cursor.skip 9).mark)
  else if digits.isEmpty then
    .error (.during .scanningVersionDirective start .missingVersionNumber cursor.mark)
  else .ok (Text.ofDigits 10 (digits.filterMap Text.digitValue?), after)

/-- Reads the version that a directive gives. -/
def scanVersion (start : Mark) (cursor : Cursor) : Except Fault (TokenKind × Cursor) := do
  let (major, point) ← scanVersionNumber start (cursor.skipWhile isBlank)
  if !point.isAt '.' then
    .error (.during .scanningVersionDirective start .missingVersionDigit point.mark)
  else
    let (minor, after) ← scanVersionNumber start (point.skip 1)
    return (.versionDirective major minor, after)

/-- Reads the abbreviation that a directive gives. -/
def scanAbbreviation (start : Mark) (cursor : Cursor) : Except Fault (TokenKind × Cursor) := do
  let begun := cursor.skipWhile isBlank
  if !begun.isAt '!' then
    .error (.during .scanningTagDirectiveHandle start .missingExclamationMark begun.mark)
  else
    let (handle, after) := scanTagHandle begun
    if handle.length != 1 && handle.getLast? != some '!' then
      .error (.during .parsingTagDirectiveHandle start .missingExclamationMark after.mark)
    else if !(match after.rest with | c :: _ => isBlank c | [] => false) then
      .error (.during .scanningTagDirective start .missingWhitespace after.mark)
    else
      let (written, finish) ←
        scanTagUri true .parsingTagDirective start [] (after.skipWhile isBlank)
      if !atBlankOrEnd finish.rest then
        .error (.during .scanningTagDirective start .missingWhitespaceOrBreak finish.mark)
      else return (.tagDirective (String.ofList handle) written, finish)

/-- Reads a directive with the rest of its line. -/
def scanDirective (cursor : Cursor) : Except Fault (Token × Cursor) := do
  let start := cursor.mark
  let (name, after) := (cursor.skip 1).take isNameCharacter
  if name.isEmpty then .error (.during .scanningDirective start .missingDirectiveName after.mark)
  else if !atBlankOrEnd after.rest then
    .error (.during .scanningDirective start .oddDirectiveName after.mark)
  else
    let (kind, finish) ←
      if name == "YAML".toList then scanVersion start after
      else if name == "TAG".toList then scanAbbreviation start after
      else .error (.during .scanningDirective start .unknownDirective after.mark)
    let blank := finish.skipWhile isBlank
    let lineEnd := if blank.isAt '#' then blank.skipWhile (fun c => !isBreak c) else blank
    if !atBreakOrEnd lineEnd.rest then
      .error (.during .scanningDirective start .trailingText lineEnd.mark)
    else return (⟨kind, start, finish.mark⟩, lineEnd.skipBreak)

end ApiAdmission.Yaml
