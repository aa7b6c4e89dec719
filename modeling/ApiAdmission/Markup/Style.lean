import ApiAdmission.Markup.Colour
import ApiAdmission.Text.Blank

/-!
# Styles in markup

The name of a tag is a style: emphases, of which most can be abbreviated, a colour, a colour of
the background, and a link.  Two names are the same style when they say the same in different
words, so a name has a canonical form; a name that says nothing known is only stripped and written
small.
-/

namespace ApiAdmission.Markup

set_option autoImplicit false

/-- What a text can be besides coloured. -/
inductive Emphasis where
  | bold
  | dim
  | italic
  | underline
  | blink
  | fastBlink
  | reverse
  | conceal
  | strike
  | doubleUnderline
  | frame
  | encircle
  | overline
deriving DecidableEq, Repr

namespace Emphasis

/-- All emphases, in the order in which a style lists them. -/
def all : List Emphasis :=
  [.bold, .dim, .italic, .underline, .blink, .fastBlink, .reverse, .conceal, .strike,
    .doubleUnderline, .frame, .encircle, .overline]

/-- The name of an emphasis. -/
def name : Emphasis → String
  | .bold => "bold"
  | .dim => "dim"
  | .italic => "italic"
  | .underline => "underline"
  | .blink => "blink"
  | .fastBlink => "blink2"
  | .reverse => "reverse"
  | .conceal => "conceal"
  | .strike => "strike"
  | .doubleUnderline => "underline2"
  | .frame => "frame"
  | .encircle => "encircle"
  | .overline => "overline"

/-- The abbreviations of emphases. -/
def abbreviations : List (String × Emphasis) :=
  [("d", .dim), ("b", .bold), ("i", .italic), ("u", .underline), ("r", .reverse), ("c", .conceal),
    ("s", .strike), ("uu", .doubleUnderline), ("o", .overline)]

/-- The emphasis that a word names or abbreviates. -/
def ofWord? (word : String) : Option Emphasis :=
  (all.find? fun emphasis => emphasis.name == word).or
    ((abbreviations.find? fun entry => entry.1 == word).map Prod.snd)

end Emphasis

/-- How a text is to look. -/
structure Style where
  /-- The emphases that are asked for or refused, the latest first. -/
  emphases : List (Emphasis × Bool)
  /-- The colour. -/
  colour : Option String
  /-- The colour of the background. -/
  background : Option String
  /-- The address of a link. -/
  link : Option String
deriving DecidableEq, Repr

namespace Style

/-- The style that says nothing. -/
def plain : Style := ⟨[], none, none, none⟩

/-- A style with an emphasis asked for or refused. -/
def withEmphasis (style : Style) (word : String) (wanted : Bool) : Option Style :=
  (Emphasis.ofWord? word).map fun emphasis =>
    { style with emphases := (emphasis, wanted) :: style.emphases }

/-- A style with what one word says in it: an emphasis or a colour. -/
def withWord (style : Style) (word : String) : Option Style :=
  (style.withEmphasis word true).or
    (if isColour word then some { style with colour := some word } else none)

/-- A style with what words say in it, if they all mean something. -/
def withWords : Style → List String → Option Style
  | style, [] => some style
  | style, [word] => style.withWord (Text.asciiLower word)
  | style, word :: next :: rest =>
    match Text.asciiLower word with
    | "on" =>
      let colour := Text.asciiLower next
      if isColour colour then withWords { style with background := some colour } rest else none
    | "not" => (style.withEmphasis next false).bind fun style => withWords style rest
    | "link" => withWords { style with link := some next } rest
    | word => (style.withWord word).bind fun style => withWords style (next :: rest)

/-- What a style says about an emphasis. -/
def emphasisText (style : Style) (emphasis : Emphasis) : Option String :=
  (style.emphases.find? fun entry => entry.1 == emphasis).map fun entry =>
    if entry.2 then emphasis.name else "not " ++ emphasis.name

/-- A style in words. -/
def text (style : Style) : String :=
  let said := Emphasis.all.filterMap style.emphasisText ++ style.colour.toList ++
    style.background.toList.map ("on " ++ ·) ++ style.link.toList.map ("link " ++ ·)
  if said.isEmpty then "none" else Text.join " " said

/-- The canonical form of the name of a style. -/
def canonical (name : String) : String :=
  let stripped := Text.strip name
  if stripped == "" || stripped == "none" then plain.text
  else
    match plain.withWords (Text.words name) with
    | some style => style.text
    | none => Text.asciiLower stripped

end Style

end ApiAdmission.Markup
