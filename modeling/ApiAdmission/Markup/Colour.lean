import ApiAdmission.Text.Digit
import ApiAdmission.Text.Search

/-!
# Colours in markup

A colour has a name, or it is written as six hexadecimal digits behind a number sign, as a number of
the palette, or as three shares of red, green and blue.  Nothing here depends on how a colour looks:
what matters is which words name one.
-/

namespace ApiAdmission.Markup

set_option autoImplicit false

/-- The names of colours. -/
def colourNames : List String := [
  "black", "red", "green", "yellow", "blue", "magenta", "cyan", "white", "bright_black",
  "bright_red", "bright_green", "bright_yellow", "bright_blue", "bright_magenta", "bright_cyan",
  "bright_white", "navy_blue", "dark_blue", "blue3", "blue1", "dark_green", "deep_sky_blue4",
  "dodger_blue3", "dodger_blue2", "green4", "spring_green4", "turquoise4", "deep_sky_blue3",
  "dodger_blue1", "green3", "spring_green3", "dark_cyan", "light_sea_green", "deep_sky_blue2",
  "deep_sky_blue1", "spring_green2", "cyan3", "dark_turquoise", "turquoise2", "green1",
  "spring_green1", "medium_spring_green", "cyan2", "cyan1", "dark_red", "deep_pink4", "purple4",
  "purple3", "blue_violet", "orange4", "medium_purple4", "slate_blue3", "royal_blue1",
  "chartreuse4", "dark_sea_green4", "pale_turquoise4", "steel_blue", "steel_blue3",
  "cornflower_blue", "chartreuse3", "cadet_blue", "sky_blue3", "steel_blue1", "pale_green3",
  "sea_green3", "aquamarine3", "medium_turquoise", "chartreuse2", "sea_green2", "sea_green1",
  "aquamarine1", "dark_slate_gray2", "dark_magenta", "dark_violet", "purple", "light_pink4",
  "plum4", "medium_purple3", "slate_blue1", "yellow4", "wheat4", "light_slate_grey",
  "light_slate_gray", "medium_purple", "light_slate_blue", "dark_olive_green3", "dark_sea_green",
  "light_sky_blue3", "sky_blue2", "dark_sea_green3", "dark_slate_gray3", "sky_blue1", "chartreuse1",
  "light_green", "pale_green1", "dark_slate_gray1", "red3", "medium_violet_red", "magenta3",
  "dark_orange3", "indian_red", "hot_pink3", "medium_orchid3", "medium_orchid", "medium_purple2",
  "dark_goldenrod", "light_salmon3", "rosy_brown", "medium_purple1", "gold3", "dark_khaki",
  "navajo_white3", "light_steel_blue3", "light_steel_blue", "yellow3", "dark_sea_green2",
  "light_cyan3", "light_sky_blue1", "green_yellow", "dark_olive_green2", "dark_sea_green1",
  "pale_turquoise1", "deep_pink3", "magenta2", "hot_pink2", "orchid", "medium_orchid1", "orange3",
  "light_pink3", "pink3", "plum3", "violet", "light_goldenrod3", "tan", "misty_rose3", "thistle3",
  "plum2", "khaki3", "light_goldenrod2", "light_yellow3", "light_steel_blue1", "yellow2",
  "dark_olive_green1", "honeydew2", "light_cyan1", "red1", "deep_pink2", "deep_pink1", "magenta1",
  "orange_red1", "indian_red1", "hot_pink", "dark_orange", "salmon1", "light_coral",
  "pale_violet_red1", "orchid2", "orchid1", "orange1", "sandy_brown", "light_salmon1",
  "light_pink1", "pink1", "plum1", "gold1", "navajo_white1", "misty_rose1", "thistle1", "yellow1",
  "light_goldenrod1", "khaki1", "wheat1", "cornsilk1"]

/-- The shades of grey, in per cent, that have a name. -/
def greyShades : List Nat := [
  0, 3, 7, 11, 15, 19, 23, 27, 30, 35, 37, 39, 42, 46, 50, 53, 54, 58, 62, 63, 66, 69, 70, 74, 78,
  82, 84, 85, 89, 93, 100]

/-- Whether a text of up to so many ASCII digits is a number up to 255. -/
def isShare (longest : Nat) (digits : List Char) : Bool :=
  !digits.isEmpty && digits.length ≤ longest && digits.all Text.isAsciiDigit &&
    Text.ofDigits 10 (digits.filterMap Text.digitValue?) ≤ 255

/-- What stands in parentheses behind a word, if all of the text is that. -/
def insideParentheses? (word text : List Char) : Option (List Char) := do
  let rest ← Text.dropPrefix? (word ++ ['(']) text
  match rest.reverse with
  | ')' :: inner => some inner.reverse
  | _ => none

/-- Whether a text is a grey with a shade that has a name. -/
def isNamedGrey (text : String) : Bool :=
  greyShades.any fun shade =>
    text == "grey" ++ toString shade || text == "gray" ++ toString shade

/-- Whether a text is six hexadecimal digits behind a number sign. -/
def isHexColour (text : List Char) : Bool :=
  match text with
  | '#' :: digits => digits.length == 6 && digits.all fun c => (Text.hexValue? c).isSome
  | _ => false

/-- Whether a text is a number of the palette. -/
def isPaletteColour (text : List Char) : Bool :=
  ((insideParentheses? "color".toList text).map (isShare 3)).getD false

/-- Whether a text is three shares of red, green and blue. -/
def isMixedColour (text : List Char) : Bool :=
  match insideParentheses? "rgb".toList text with
  | none => false
  | some inner =>
    let shares := Text.splitAt ',' inner
    shares.length == 3 && shares.all (isShare inner.length)

/-- Whether a text in small letters is a colour. -/
def isColour (text : String) : Bool :=
  text == "default" || colourNames.contains text || isNamedGrey text ||
    isHexColour text.toList || isPaletteColour text.toList || isMixedColour text.toList

end ApiAdmission.Markup
