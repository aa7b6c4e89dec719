import ApiAdmission.Json.Fault
import ApiAdmission.Number.Reader
import ApiAdmission.Tree.Basic

/-!
# Reading JSON

The reader accepts the JSON grammar and the three names `NaN`, `Infinity` and `-Infinity`.  Blanks
are space, tab, line feed and carriage return only.  A key that is written twice keeps its first
position and its last value.

The reading position is the rest of the text with its offset.  Of two steps in a row at least one
consumes a character, so a budget of twice the length of the text always stays above the number of
characters that are left, and is never exhausted; it is set in `read` and nowhere else.
-/

namespace ApiAdmission.Json

set_option autoImplicit false

/-- What is left to read, and how many characters stand before it. -/
structure Position where
  /-- The characters that are left. -/
  rest : List Char
  /-- The number of characters before them. -/
  offset : Nat

/-- The position after `count` more characters. -/
def Position.advance (position : Position) (count : Nat) : Position :=
  ⟨position.rest.drop count, position.offset + count⟩

/-- Whether a character is a blank between tokens. -/
def isSpace (c : Char) : Bool :=
  c == ' ' || c == '\t' || c == '\n' || c == '\r'

/-- The position after the blanks. -/
def Position.skipSpaces (position : Position) : Position :=
  position.advance (position.rest.takeWhile isSpace).length

/-- The character that a one-letter escape stands for. -/
def shortEscape? (c : Char) : Option Char :=
  match c with
  | '"' => some '"'
  | '\\' => some '\\'
  | '/' => some '/'
  | 'b' => some '\x08'
  | 'f' => some '\x0c'
  | 'n' => some '\n'
  | 'r' => some '\r'
  | 't' => some '\t'
  | _ => none

/-- The code that the first four characters write in hexadecimal; something must follow them. -/
def code? (characters : List Char) : Option Nat :=
  match characters with
  | a :: b :: c :: d :: _ :: _ =>
    ([a, b, c, d].mapM Text.hexValue?).map (Text.ofDigits 16)
  | _ => none

/-- The second half of a surrogate pair that follows at once, written as an escape.  The outer
option says whether an escape is there that has to be well formed. -/
def pairedCode? (characters : List Char) : Option (Option Nat) :=
  match characters with
  | '\\' :: 'u' :: a :: b :: c :: d :: _ :: _ =>
    some (([a, b, c, d].mapM Text.hexValue?).map (Text.ofDigits 16))
  | _ => none

/-- The character of a code; half a surrogate pair on its own has none of its own. -/
def characterOf (code : Nat) : Char :=
  if 0xD800 ≤ code && code < 0xE000 then '\uFFFD' else Char.ofNat code

/-- Reads the inside of a string up to its closing quote; `opening` is the offset of the opening
quote, and the characters read so far stand in reverse. -/
def readString (opening : Nat) : Nat → List Char → Position →
    Except Fault (String × Position)
  | 0, _, position => .error (.grammar .unterminatedString position.offset)
  | budget + 1, reversed, position =>
    match position.rest with
    | [] => .error (.grammar .unterminatedString opening)
    | '"' :: _ => .ok (String.ofList reversed.reverse, position.advance 1)
    | '\\' :: 'u' :: rest =>
      let place := position.offset + 1
      match code? rest with
      | none => .error (.grammar .malformedCode place)
      | some code =>
        if 0xD800 ≤ code && code < 0xDC00 then
          match pairedCode? (rest.drop 4) with
          | some none => .error (.grammar .malformedCode (place + 6))
          | some (some second) =>
            if 0xDC00 ≤ second && second < 0xE000 then
              let joined := 0x10000 + (code - 0xD800) * 0x400 + (second - 0xDC00)
              readString opening budget (Char.ofNat joined :: reversed) (position.advance 12)
            else readString opening budget (characterOf code :: reversed) (position.advance 6)
          | none => readString opening budget (characterOf code :: reversed) (position.advance 6)
        else readString opening budget (characterOf code :: reversed) (position.advance 6)
    | '\\' :: c :: _ =>
      match shortEscape? c with
      | some meant => readString opening budget (meant :: reversed) (position.advance 2)
      | none => .error (.grammar .unknownEscape position.offset)
    | ['\\'] => .error (.grammar .unterminatedString opening)
    | c :: _ =>
      if c.toNat ≤ 0x1F then .error (.grammar .controlCharacter position.offset)
      else readString opening budget (c :: reversed) (position.advance 1)

/-- Reads a number: an integer, and after it a fraction and an exponent where they are complete. -/
def readNumber (position : Position) : Except Fault (Tree × Position) :=
  let negative := position.rest.head? == some '-'
  let body := position.advance (if negative then 1 else 0)
  let digits := body.rest.takeWhile Text.isAsciiDigit
  let whole := if digits.head? == some '0' then ['0'] else digits
  if whole.isEmpty then .error (.grammar .expectedValue position.offset)
  else
    let afterWhole := body.advance whole.length
    let fraction := match afterWhole.rest with
      | '.' :: rest => rest.takeWhile Text.isAsciiDigit
      | _ => []
    let afterFraction :=
      if fraction.isEmpty then afterWhole else afterWhole.advance (fraction.length + 1)
    let (signed, power) := match afterFraction.rest with
      | e :: '-' :: rest =>
        if e == 'e' || e == 'E' then (2, rest.takeWhile Text.isAsciiDigit) else (0, [])
      | e :: '+' :: rest =>
        if e == 'e' || e == 'E' then (2, rest.takeWhile Text.isAsciiDigit) else (0, [])
      | e :: rest =>
        if e == 'e' || e == 'E' then (1, rest.takeWhile Text.isAsciiDigit) else (0, [])
      | [] => (0, [])
    let afterPower :=
      if power.isEmpty then afterFraction else afterFraction.advance (signed + power.length)
    if fraction.isEmpty && power.isEmpty then
      if Number.digitLimit < whole.length then .error (.longInteger whole.length)
      else
        let magnitude : Int := Text.ofDigits 10 (whole.filterMap Text.digitValue?)
        .ok (.integer (if negative then -magnitude else magnitude), afterPower)
    else
      let negativePower := signed == 2 && (afterFraction.rest.drop 1).head? == some '-'
      let exponent : Int := Text.ofDigits 10 (power.filterMap Text.digitValue?)
      let value := Number.ofParts negative (whole.filterMap Text.digitValue?)
        (fraction.filterMap Text.digitValue?) (if negativePower then -exponent else exponent)
      .ok (.number value, afterPower)

/-- The names that stand for values. -/
def names : List (String × Tree) :=
  [("null", .null), ("true", .boolean true), ("false", .boolean false),
    ("NaN", .number .notANumber), ("Infinity", .number .infinity),
    ("-Infinity", .number .negativeInfinity)]

mutual
/-- Reads one value. -/
def readValue : Nat → Position → Except Fault (Tree × Position)
  | 0, position => .error (.grammar .expectedValue position.offset)
  | budget + 1, position =>
    match position.rest with
    | '"' :: _ => do
      let (text, after) ←
        readString position.offset (budget + 1) [] (position.advance 1)
      return (.text text, after)
    | '\x7b' :: _ =>
      let inside := (position.advance 1).skipSpaces
      if inside.rest.head? == some '\x7d' then .ok (.mapping [], inside.advance 1)
      else readMembers budget [] inside
    | '[' :: _ =>
      let inside := (position.advance 1).skipSpaces
      if inside.rest.head? == some ']' then .ok (.list [], inside.advance 1)
      else readItems budget [] inside
    | _ =>
      match names.find? fun entry => entry.1.toList.isPrefixOf position.rest with
      | some (name, value) => .ok (value, position.advance name.length)
      | none => readNumber position

/-- Reads the members of an object up to its closing brace; those already read stand in reverse. -/
def readMembers : Nat → List (String × Tree) → Position → Except Fault (Tree × Position)
  | 0, _, position => .error (.grammar .expectedKey position.offset)
  | budget + 1, reversed, position =>
    if position.rest.head? != some '"' then .error (.grammar .expectedKey position.offset)
    else do
      let (key, afterKey) ←
        readString position.offset (budget + 1) [] (position.advance 1)
      let colon := afterKey.skipSpaces
      if colon.rest.head? != some ':' then .error (.grammar .expectedColon colon.offset)
      else
        let (value, afterValue) ← readValue budget (colon.advance 1).skipSpaces
        let next := afterValue.skipSpaces
        match next.rest with
        | '\x7d' :: _ =>
          return (.mapping (Tree.collectEntries ((key, value) :: reversed).reverse), next.advance 1)
        | ',' :: _ => readMembers budget ((key, value) :: reversed) (next.advance 1).skipSpaces
        | _ => .error (.grammar .expectedComma next.offset)

/-- Reads the items of an array up to its closing bracket; those already read stand in reverse. -/
def readItems : Nat → List Tree → Position → Except Fault (Tree × Position)
  | 0, _, position => .error (.grammar .expectedValue position.offset)
  | budget + 1, reversed, position => do
    let (item, afterItem) ← readValue budget position
    let next := afterItem.skipSpaces
    match next.rest with
    | ']' :: _ => return (.list (item :: reversed).reverse, next.advance 1)
    | ',' :: _ => readItems budget (item :: reversed) (next.advance 1).skipSpaces
    | _ => .error (.grammar .expectedComma next.offset)
end

/-- Reads a whole text as one JSON value. -/
def read (text : String) : Except Fault Tree :=
  let characters := text.toList
  if characters.head? == some '\uFEFF' then .error (.grammar .byteOrderMark 0)
  else do
    let start : Position := ⟨characters, 0⟩
    let (tree, after) ← readValue (2 * characters.length + 2) start.skipSpaces
    let finish := after.skipSpaces
    if finish.rest.isEmpty then return tree
    else .error (.grammar .extraData finish.offset)

end ApiAdmission.Json
