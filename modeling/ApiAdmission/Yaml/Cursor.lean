import ApiAdmission.Yaml.Fault

/-!
# Reading position

A cursor is the rest of the text with the place it stands at.  A line ends with a line feed, a
carriage return, the two together, the next-line character, or the line or paragraph separator;
the last two keep their identity when a scalar is folded, the others become line feeds.

A cursor also knows how long the whole text is, since that bounds every loop that reads on from it.
-/

namespace ApiAdmission.Yaml

set_option autoImplicit false

/-- The rest of the text, the place where it begins and the length of the whole text. -/
structure Cursor where
  /-- The characters that are left. -/
  rest : List Char
  /-- The place of the first of them. -/
  mark : Mark
  /-- The number of characters of the whole text. -/
  size : Nat
deriving Inhabited

/-- Whether a character is a blank inside a line. -/
def isBlank (c : Char) : Bool := c == ' ' || c == '\t'

/-- Whether a character ends a line. -/
def isBreak (c : Char) : Bool :=
  c == '\n' || c == '\r' || c == '\u0085' || c == '\u2028' || c == '\u2029'

/-- Whether a character may stand in an anchor or the name of a directive. -/
def isNameCharacter (c : Char) : Bool :=
  ('0' ≤ c && c ≤ '9') || ('A' ≤ c && c ≤ 'Z') || ('a' ≤ c && c ≤ 'z') || c == '_' || c == '-'

/-- Whether the characters begin with a blank or a line end, or there are none. -/
def atBlankOrEnd : List Char → Bool
  | [] => true
  | c :: _ => isBlank c || isBreak c

/-- Whether the characters begin with a line end, or there are none. -/
def atBreakOrEnd : List Char → Bool
  | [] => true
  | c :: _ => isBreak c

/-- Whether the characters begin with a marker of three equal characters that stands alone. -/
def atMarker (c : Char) : List Char → Bool
  | a :: b :: d :: rest => a == c && b == c && d == c && atBlankOrEnd rest
  | _ => false

namespace Cursor

/-- A number of turns that a loop which consumes a character per turn does not exhaust. -/
def bound (cursor : Cursor) : Nat := cursor.size + 1

/-- The next character. -/
def peek? (cursor : Cursor) : Option Char := cursor.rest.head?

/-- Whether the next character is the given one. -/
def isAt (cursor : Cursor) (c : Char) : Bool := cursor.rest.head? == some c

/-- The place after `count` more characters of the same line. -/
def skip (cursor : Cursor) (count : Nat) : Cursor :=
  { cursor with
    rest := cursor.rest.drop count
    mark := { cursor.mark with
      index := cursor.mark.index + count, column := cursor.mark.column + count } }

/-- The place after the characters of the same line that satisfy a condition. -/
def skipWhile (cursor : Cursor) (condition : Char → Bool) : Cursor :=
  cursor.skip (cursor.rest.takeWhile condition).length

/-- The characters up to the first one that fails a condition, and the place after them. -/
def take (cursor : Cursor) (condition : Char → Bool) : List Char × Cursor :=
  let taken := cursor.rest.takeWhile condition
  (taken, cursor.skip taken.length)

/-- The place after a line end. -/
def skipBreak (cursor : Cursor) : Cursor :=
  let width := match cursor.rest with
    | '\r' :: '\n' :: _ => 2
    | c :: _ => if isBreak c then 1 else 0
    | [] => 0
  if width == 0 then cursor
  else
    { cursor with
      rest := cursor.rest.drop width
      mark := ⟨cursor.mark.index + width, cursor.mark.line + 1, 0⟩ }

/-- What a line end contributes to a scalar, and the place after it. -/
def takeBreak (cursor : Cursor) : List Char × Cursor :=
  let kept := match cursor.rest with
    | '\u2028' :: _ => ['\u2028']
    | '\u2029' :: _ => ['\u2029']
    | c :: _ => if isBreak c then ['\n'] else []
    | [] => []
  (kept, cursor.skipBreak)

/-- Whether the cursor stands at the start of a line with a marker of a document's start or end. -/
def atDocumentMarker (cursor : Cursor) : Bool :=
  cursor.mark.column == 0 && (atMarker '-' cursor.rest || atMarker '.' cursor.rest)

end Cursor

end ApiAdmission.Yaml
