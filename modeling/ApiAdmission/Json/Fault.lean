/-!
# Why a text is no JSON document

Every fault of the grammar has a place, counted in characters from the start of the text; a message
names it by line, column and offset.
-/

namespace ApiAdmission.Json

set_option autoImplicit false

/-- What is wrong at a place of the text. -/
inductive Defect where
  /-- A value was expected. -/
  | expectedValue
  /-- A quoted key was expected. -/
  | expectedKey
  /-- A colon was expected. -/
  | expectedColon
  /-- A comma was expected. -/
  | expectedComma
  /-- The document ends before the text does. -/
  | extraData
  /-- A string does not end. -/
  | unterminatedString
  /-- A string holds a bare control character. -/
  | controlCharacter
  /-- A backslash is followed by a letter that means nothing. -/
  | unknownEscape
  /-- A character code is not four hexadecimal digits. -/
  | malformedCode
  /-- The text starts with a byte order mark. -/
  | byteOrderMark
deriving DecidableEq, Repr

/-- The words for a defect. -/
def Defect.words : Defect → String
  | .expectedValue => "Expecting value"
  | .expectedKey => "Expecting property name enclosed in double quotes"
  | .expectedColon => "Expecting ':' delimiter"
  | .expectedComma => "Expecting ',' delimiter"
  | .extraData => "Extra data"
  | .unterminatedString => "Unterminated string starting at"
  | .controlCharacter => "Invalid control character at"
  | .unknownEscape => "Invalid \\escape"
  | .malformedCode => "Invalid \\uXXXX escape"
  | .byteOrderMark => "Unexpected UTF-8 BOM (decode using utf-8-sig)"

/-- Why a text is no JSON document. -/
inductive Fault where
  /-- The text breaks the grammar at a place. -/
  | grammar (defect : Defect) (offset : Nat)
  /-- An integer has more digits than are read. -/
  | longInteger (digits : Nat)
deriving DecidableEq, Repr

/-- The line and column, both from one, of an offset in a list of characters. -/
def lineAndColumn (characters : List Char) (offset : Nat) : Nat × Nat :=
  (characters.take offset).foldl
    (fun place c => if c == '\n' then (place.1 + 1, 1) else (place.1, place.2 + 1)) (1, 1)

/-- The message for a grammar fault in the given text. -/
def grammarMessage (text : String) (defect : Defect) (offset : Nat) : String :=
  let (line, column) := lineAndColumn text.toList offset
  defect.words ++ ": line " ++ toString line ++ " column " ++ toString column ++
    " (char " ++ toString offset ++ ")"

end ApiAdmission.Json
