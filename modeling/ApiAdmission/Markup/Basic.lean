import ApiAdmission.Text.Search

/-!
# Markup

Markup is text with tags in brackets, which say how the text is to look.  A tag begins with a
bracket and a small letter, a number sign, a slash or an at sign, and ends at the next closing
bracket; there is no opening bracket inside.  Backslashes directly before a tag stand for half as
many, and one that is left over makes the tag plain text.  `pieces` takes markup apart, and
`escape` turns a text into markup for it.
-/

namespace ApiAdmission.Markup

set_option autoImplicit false

/-- Whether the content of a tag may begin with a character. -/
def startsTag (c : Char) : Bool :=
  ('a' ≤ c && c ≤ 'z') || c == '#' || c == '/' || c == '@'

/-- The characters before the first closing bracket, if no opening one stands among them. -/
def untilClosing? : List Char → Option (List Char)
  | [] => none
  | c :: rest =>
    if c == ']' then some []
    else if c == '[' then none
    else (untilClosing? rest).map (c :: ·)

/-- The content of the tag whose opening bracket stands before the characters, if it is a tag. -/
def tagContent? : List Char → Option (List Char)
  | [] => none
  | c :: rest => if startsTag c then (untilClosing? rest).map (c :: ·) else none

/-- A number of backslashes. -/
def backslashes (count : Nat) : List Char := List.replicate count '\\'

/-! ## Taking apart -/

/-- A part of markup. -/
inductive Piece where
  /-- Text to be shown. -/
  | shown (text : List Char)
  /-- A tag with its content. -/
  | tag (content : List Char)
deriving DecidableEq, Repr

/-- The pieces of markup before which stand so many backslashes, after `skip` characters have been
passed over.  A bracket that begins no tag takes one backslash before it away. -/
def piecesFrom (pending : Nat) : Nat → List Char → List Piece
  | _, [] => [.shown (backslashes pending)]
  | skip + 1, _ :: rest => piecesFrom 0 skip rest
  | 0, c :: rest =>
    if c == '\\' then piecesFrom (pending + 1) 0 rest
    else if c == '[' then
      match tagContent? rest with
      | some content =>
        if pending % 2 == 0 then
          .shown (backslashes (pending / 2)) :: .tag content ::
            piecesFrom 0 (content.length + 1) rest
        else .shown (backslashes (pending / 2) ++ ['[']) :: piecesFrom 0 0 rest
      | none => .shown (backslashes (pending - 1) ++ ['[']) :: piecesFrom 0 0 rest
    else .shown (backslashes pending ++ [c]) :: piecesFrom 0 0 rest

/-- The pieces of markup, in order. -/
def pieces (markup : String) : List Piece := piecesFrom 0 0 markup.toList

/-! ## Escaping -/

/-- Doubles the backslashes before everything that would be a tag and adds one more; so many
backslashes stand before the characters. -/
def escapeFrom (pending : Nat) : List Char → List Char
  | [] => backslashes pending
  | c :: rest =>
    if c == '\\' then escapeFrom (pending + 1) rest
    else if c == '[' && (tagContent? rest).isSome then
      backslashes (2 * pending + 1) ++ '[' :: escapeFrom 0 rest
    else backslashes pending ++ c :: escapeFrom 0 rest

/-- Whether a text ends with exactly one backslash. -/
def endsWithOneBackslash (characters : List Char) : Bool :=
  match characters.reverse with
  | '\\' :: '\\' :: _ => false
  | '\\' :: _ => true
  | _ => false

/-- A text as markup; a single backslash at its end is doubled, so that a tag may follow. -/
def escape (text : String) : String :=
  let escaped := escapeFrom 0 text.toList
  String.ofList (if endsWithOneBackslash escaped then escaped ++ ['\\'] else escaped)

end ApiAdmission.Markup
