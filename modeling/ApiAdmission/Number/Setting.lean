import ApiAdmission.Number.Reader

/-!
# Numbers in settings

Settings may give a number as a text of ASCII digits.  Around an integer spaces do not matter, and
neither do a plus sign and zeros in front of it, a fraction of zeros behind it, and single
underscores inside it.  A number with a fraction or an exponent may have spaces around it, or else
single underscores between its characters.
-/

namespace ApiAdmission.Number

set_option autoImplicit false

/-- Reads an integer as it is written without any liberty: an optional minus sign and digits, the
first of which is a zero only when it is the only one. -/
def plainInteger? (characters : List Char) : Option Int :=
  let (negative, digits) := match characters with
    | '-' :: rest => (true, rest)
    | rest => (false, rest)
  if digits.isEmpty || !digits.all Text.isAsciiDigit ||
      (1 < digits.length && digits.head? == some '0')
  then none
  else
    let magnitude : Int := Text.ofDigits 10 (digits.map fun c => c.toNat - '0'.toNat)
    some (if negative then -magnitude else magnitude)

/-- Skips zeros and underscores behind a character: what is left begins with another digit, or with
that character where a point or the end follows. -/
def skipZeros : Char → List Char → Option (List Char)
  | before, [] => some [before]
  | before, c :: rest =>
    if c == '0' || c == '_' then skipZeros c rest
    else if Text.isAsciiDigit c then some (c :: rest)
    else if c == '.' then some (before :: c :: rest)
    else none

/-- Drops the zeros in front of an integer. -/
def dropZeros : List Char → Option (List Char)
  | '0' :: rest => skipZeros '0' rest
  | c :: rest => if Text.isAsciiDigit c || c == '-' then some (c :: rest) else none
  | [] => none

/-- Drops a plus sign that no minus sign follows. -/
def dropPlus : List Char → Option (List Char)
  | '+' :: '-' :: _ => none
  | '+' :: rest => some rest
  | rest => some rest

/-- Drops a fraction of zeros. -/
def dropFraction (characters : List Char) : List Char :=
  match Text.cutAt '.' characters with
  | (whole, some fraction) => if fraction.all (· == '0') then whole else characters
  | (_, none) => characters

/-- Whether some character is followed by the same one. -/
def hasPair (wanted : Char) : List Char → Bool
  | a :: b :: rest => (a == wanted && b == wanted) || hasPair wanted (b :: rest)
  | _ => false

/-- The characters without single underscores inside; there are none where an underscore is at an
end or next to another one. -/
def dropUnderscores? (characters : List Char) : Option (List Char) :=
  if characters.contains '_' && characters.head? != some '_' && characters.getLast? != some '_' &&
      !hasPair '_' characters then
    some (characters.filter (· != '_'))
  else none

/-- The integer in a text of a setting. -/
def settingInteger? (text : String) : Option Int :=
  let trimmed := Text.trimSpaces text.toList
  (plainInteger? trimmed).or do
    let rest ← dropZeros (← dropPlus trimmed)
    let whole := dropFraction rest
    plainInteger? ((dropUnderscores? whole).getD whole)

/-- Reads a number with a fraction or an exponent as it is written without any liberty. -/
def plainDouble? (characters : List Char) : Option Double :=
  if characters.all fun c => c.toNat < 0x80 && c != '_' && !Text.isBlank c then
    double? (String.ofList characters)
  else none

/-- The number in a text of a setting. -/
def settingDouble? (text : String) : Option Double :=
  (plainDouble? (Text.trimSpaces text.toList)).or
    ((dropUnderscores? text.toList).bind plainDouble?)

end ApiAdmission.Number
