import ApiAdmission.Breakdown
import ApiAdmission.Markup.Basic
import ApiAdmission.Markup.Style

/-!
# What markup shows

On a terminal without colours markup shows its text without the tags.  The tags have to fit all the
same: a closing tag closes the last tag of its style that is open, or the last one of all when it
names none, and one that closes nothing breaks down.  Tags that stay open do no harm.  Characters
that move the cursor are left out, and a tabulator leads to the next column that is a multiple of
eight.
-/

namespace ApiAdmission.Markup

set_option autoImplicit false

/-- The name in the content of a tag: what stands before the first equals sign. -/
def tagName (content : List Char) : List Char := (Text.cutAt '=' content).1

/-- The open tags without the last one of a style, if one is open; the last one stands first. -/
def closeStyle? (style : String) : List String → Option (List String)
  | [] => none
  | name :: rest => if name == style then some rest else (closeStyle? style rest).map (name :: ·)

/-- The open tags after a tag. -/
def follow (opened : List String) (content : List Char) : Except Breakdown (List String) :=
  match tagName content with
  | '/' :: name =>
    let name := Text.strip (String.ofList name)
    let left := if name == "" then opened.tail? else closeStyle? (Style.canonical name) opened
    match left with
    | some left => .ok left
    | none => .error .strayTag
  | name => .ok (Style.canonical (String.ofList name) :: opened)

/-- The text of pieces, while tags are open. -/
def showPieces : List String → List Piece → Except Breakdown (List Char)
  | _, [] => .ok []
  | opened, .shown text :: rest => do return text ++ (← showPieces opened rest)
  | opened, .tag content :: rest => do showPieces (← follow opened content) rest

/-- Whether a character moves the cursor of a terminal. -/
def movesCursor (c : Char) : Bool :=
  [0x07, 0x08, 0x0B, 0x0C, 0x0D].contains c.toNat

/-- How far apart the stops of tabulators are. -/
def tabWidth : Nat := 8

/-- Replaces tabulators by blanks; the characters begin in a column. -/
def expandTabs (column : Nat) : List Char → List Char
  | [] => []
  | c :: rest =>
    if c == '\n' then c :: expandTabs 0 rest
    else if c == '\t' then
      let width := tabWidth - column % tabWidth
      List.replicate width ' ' ++ expandTabs (column + width) rest
    else c :: expandTabs (column + 1) rest

/-- What markup shows. -/
def render (markup : String) : Except Breakdown String := do
  let text ← showPieces [] (pieces markup)
  return String.ofList (expandTabs 0 (text.filter fun c => !movesCursor c))

end ApiAdmission.Markup
