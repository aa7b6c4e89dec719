import ApiAdmission.Number.Double
import ApiAdmission.Text.Blank
import ApiAdmission.Text.Digit
import ApiAdmission.Text.Search

/-!
# Reading numbers

The liberal grammar of numbers written by people: blanks but no information separators around the
number, a sign, digits of any script, and single underscores between digits.  A number with a
fraction or an exponent is rounded to the nearest double; an integer is exact, but a decimal one has
at most 4300 digits.
-/

namespace ApiAdmission.Number

set_option autoImplicit false

/-- The longest decimal integer that is read. -/
def digitLimit : Nat := 4300

/-- The values of digits with single underscores allowed between them; `none` where something else
stands, or an underscore is not between two digits. -/
def groupedDigits? (value? : Char → Option Nat) : List Char → Option (List Nat)
  | [] => none
  | [c] => (value? c).map ([·])
  | c :: '_' :: rest => do
    let digit ← value? c
    let digits ← groupedDigits? value? rest
    return digit :: digits
  | c :: rest => do
    let digit ← value? c
    let digits ← groupedDigits? value? rest
    return digit :: digits

/-- Takes a sign off the front: whether it was a minus, and the rest. -/
def takeSign : List Char → Bool × List Char
  | '-' :: rest => (true, rest)
  | '+' :: rest => (false, rest)
  | rest => (false, rest)

/-- Why a text is no integer. -/
inductive IntegerFault where
  /-- The text does not follow the grammar. -/
  | invalid
  /-- The text has more digits than are read. -/
  | tooLong (digits : Nat)
deriving DecidableEq, Repr

/-- Reads a decimal integer. -/
def readInteger (characters : List Char) : Except IntegerFault Int :=
  let (negative, body) := takeSign (Text.trimSpaces characters)
  match groupedDigits? Text.digitValue? body with
  | none => .error .invalid
  | some digits =>
    if digitLimit < digits.length then .error (.tooLong digits.length)
    else
      let magnitude : Int := Text.ofDigits 10 digits
      .ok (if negative then -magnitude else magnitude)

/-- The decimal integer in a text, if it is one. -/
def integer? (text : String) : Option Int :=
  (readInteger text.toList).toOption

/-- Reads an unsigned or signed integer in a base other than ten, without a limit on its length. -/
def readInBase? (base : Nat) (characters : List Char) : Option Int :=
  let value? (c : Char) : Option Nat :=
    let digit? := match Text.hexValue? c with
      | some digit => some digit
      | none => Text.digitValue? c
    digit?.filter (· < base)
  let (negative, body) := takeSign (Text.trimSpaces characters)
  let body := match base, body with
    | 16, '0' :: 'x' :: rest => rest
    | 16, '0' :: 'X' :: rest => rest
    | 8, '0' :: 'o' :: rest => rest
    | 8, '0' :: 'O' :: rest => rest
    | 2, '0' :: 'b' :: rest => rest
    | 2, '0' :: 'B' :: rest => rest
    | _, rest => rest
  (groupedDigits? value? body).map fun digits =>
    let magnitude : Int := Text.ofDigits base digits
    if negative then -magnitude else magnitude

/-- The double nearest to `significand · 10 ^ exponent`. -/
def ofDecimal (significand : Nat) (exponent : Int) : Double :=
  let digits := (Nat.toDigits 10 significand).length
  let magnitude := exponent + digits
  if significand == 0 || magnitude < -400 then .ofFloat 0.0
  else if 400 < magnitude then .infinity
  else
    match exponent with
    | .ofNat e => .ofFloat (Float.ofScientific (significand * Nat.pow 10 e) false 0)
    | .negSucc e => .ofFloat (Float.ofScientific significand true (e + 1))

/-- The double that a decimal with digits before and after the point and an exponent is. -/
def ofParts (negative : Bool) (whole fraction : List Nat) (exponent : Int) : Double :=
  let value := ofDecimal (Text.ofDigits 10 (whole ++ fraction)) (exponent - fraction.length)
  if negative then value.negate else value

/-- Reads grouped digits that may be absent altogether. -/
def optionalDigits? (characters : List Char) : Option (List Nat) :=
  if characters.isEmpty then some [] else groupedDigits? Text.digitValue? characters

/-- Reads the exponent of a number. -/
def exponent? (characters : List Char) : Option Int :=
  let (negative, body) := takeSign characters
  (groupedDigits? Text.digitValue? body).map fun digits =>
    let magnitude : Int := Text.ofDigits 10 digits
    if negative then -magnitude else magnitude

/-- Splits at the first letter `e` of either case. -/
def cutExponent : List Char → List Char × Option (List Char)
  | [] => ([], none)
  | c :: rest =>
    if c == 'e' || c == 'E' then ([], some rest)
    else
      let (before, after) := cutExponent rest
      (c :: before, after)

/-- The double in a text: a decimal with optional fraction and exponent, or the name of an infinity
or of the value that is no number. -/
def double? (text : String) : Option Double :=
  let (negative, body) := takeSign (Text.trimSpaces text.toList)
  let signed (value : Double) : Double := if negative then value.negate else value
  let name := String.ofList (body.map Char.toLower)
  if name == "inf" || name == "infinity" then some (signed .infinity)
  else if name == "nan" then some .notANumber
  else do
    let (mantissa, power) := cutExponent body
    let (wholePart, fractionPart) := Text.cutAt '.' mantissa
    let whole ← optionalDigits? wholePart
    let fraction ← optionalDigits? (fractionPart.getD [])
    if whole.isEmpty && fraction.isEmpty then none
    else
      let exponent ← match power with
        | none => some 0
        | some characters => exponent? characters
      return ofParts negative whole fraction exponent

end ApiAdmission.Number
