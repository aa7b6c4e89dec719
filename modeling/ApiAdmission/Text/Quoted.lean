import ApiAdmission.Text.Digit
import ApiAdmission.Text.Printable

/-!
# Quoted literals

Messages quote a text so that the reader can see every character of it.  The quote is the single
quotation mark, or the double one when the text holds a single mark and no double one.  A
backslash and the chosen quote are written after a backslash, line feed, carriage return and tab
by their letters, every other character without a visible form by its code point, and the rest as
they are.
-/

namespace ApiAdmission.Text

set_option autoImplicit false

/-- The escape that names a code point, in the shortest of the three forms. -/
def escapeCode (code : Nat) : String :=
  if code ≤ 0xFF then "\\x" ++ toHex 2 code
  else if code ≤ 0xFFFF then "\\u" ++ toHex 4 code
  else "\\U" ++ toHex 8 code

/-- The quotation mark of a literal that holds the given characters. -/
def quoteMark (characters : List Char) : Char :=
  if characters.contains '\'' && !characters.contains '"' then '"' else '\''

/-- How a quoted literal writes one character. -/
def quoteCharacter (mark c : Char) : String :=
  if c == mark || c == '\\' then String.ofList ['\\', c]
  else if c == '\n' then "\\n"
  else if c == '\r' then "\\r"
  else if c == '\t' then "\\t"
  else if isPrintable c then String.singleton c
  else escapeCode c.toNat

/-- The quoted literal of a text. -/
def quote (text : String) : String :=
  let mark := quoteMark text.toList
  String.singleton mark ++ String.join (text.toList.map (quoteCharacter mark)) ++
    String.singleton mark

/-- The quoted literal of a string of bytes: bytes outside printable ASCII by their numbers. -/
def quoteBytes (bytes : List UInt8) : String :=
  let characters := bytes.map fun byte => Char.ofNat byte.toNat
  let mark := quoteMark characters
  let shown := characters.map fun c =>
    if c.toNat < 0x7F then quoteCharacter mark c else escapeCode c.toNat
  "b" ++ String.singleton mark ++ String.join shown ++ String.singleton mark

end ApiAdmission.Text
