/-!
# Blank characters

The blanks are the characters that Unicode counts as white space together with the four
information separators U+001C to U+001F.  The byte order mark is not one of them.
-/

namespace ApiAdmission.Text

set_option autoImplicit false

/-- Whether a character is a blank. -/
def isBlank (c : Char) : Bool :=
  let code := c.toNat
  (0x09 ≤ code && code ≤ 0x0D) || (0x1C ≤ code && code ≤ 0x20) || code == 0x85 || code == 0xA0 ||
    code == 0x1680 || (0x2000 ≤ code && code ≤ 0x200A) || code == 0x2028 || code == 0x2029 ||
    code == 0x202F || code == 0x205F || code == 0x3000

/-- Whether a character is a blank and no information separator. -/
def isSpace (c : Char) : Bool :=
  isBlank c && !(0x1C ≤ c.toNat && c.toNat ≤ 0x1F)

/-- Drops the characters that satisfy `drops` from the front of a list of characters. -/
def trimStart (drops : Char → Bool) (characters : List Char) : List Char :=
  characters.dropWhile drops

/-- Drops the characters that satisfy `drops` from the back of a list of characters. -/
def trimEnd (drops : Char → Bool) (characters : List Char) : List Char :=
  (characters.reverse.dropWhile drops).reverse

/-- Drops the blanks at both ends. -/
def stripBlanks (characters : List Char) : List Char :=
  trimEnd isBlank (trimStart isBlank characters)

/-- Drops the blanks at both ends that are no information separators. -/
def trimSpaces (characters : List Char) : List Char :=
  trimEnd isSpace (trimStart isSpace characters)

/-- A text without the blanks at its ends. -/
def strip (text : String) : String :=
  String.ofList (stripBlanks text.toList)

/-- The runs of characters between blanks; `word` has been read of the first one, backwards. -/
def wordsFrom (word : List Char) : List Char → List (List Char)
  | [] => if word.isEmpty then [] else [word.reverse]
  | c :: rest =>
    if isBlank c then
      if word.isEmpty then wordsFrom [] rest else word.reverse :: wordsFrom [] rest
    else wordsFrom (c :: word) rest

/-- The words of a text, which blanks separate. -/
def words (text : String) : List String :=
  (wordsFrom [] text.toList).map String.ofList

end ApiAdmission.Text
