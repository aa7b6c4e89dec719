import ApiAdmission.Number.Reader
import ApiAdmission.Pattern.Reader
import ApiAdmission.Schema.Kind
import ApiAdmission.Tree.Moment
import ApiAdmission.Url.Basic
import ApiAdmission.Yaml.Scalar

/-!
# Named formats

A format narrows down the texts, or the numbers, that a value may be.  A value of a kind that a
format says nothing about has every format, and so has any value for a name that means nothing.
-/

namespace ApiAdmission.Schema

set_option autoImplicit false

/-- Whether an integer fits into so many bits with a sign, its least value left out. -/
def fitsBits (bits : Nat) (value : Int) : Bool :=
  value.natAbs < Nat.pow 2 (bits - 1)

/-- Whether a list of digits is a number between two bounds. -/
def isNumberBetween (low high : Nat) (digits : List Char) : Bool :=
  let value := Text.ofDigits 10 (digits.filterMap Text.digitValue?)
  !digits.isEmpty && digits.all Text.isAsciiDigit && low ≤ value && value ≤ high

/-- Whether a text is a day of the calendar, written with its year, month and day. -/
def isDay (text : String) : Bool :=
  match text.toList with
  | [a, b, c, d, '-', e, f, '-', g, h] =>
    let number (digits : List Char) : Nat := Text.ofDigits 10 (digits.filterMap Text.digitValue?)
    let year := number [a, b, c, d]
    let month := number [e, f]
    let leap := year % 4 == 0 && (year % 100 != 0 || year % 400 == 0)
    let length :=
      if month == 2 then (if leap then 29 else 28)
      else if [4, 6, 9, 11].contains month then 30 else 31
    isNumberBetween 1 9999 [a, b, c, d] && isNumberBetween 1 12 [e, f] &&
      isNumberBetween 1 length [g, h]
  | _ => false

/-- Whether a text is a time of day with seconds: hours, minutes and seconds of one or two digits.
-/
def isClockTime (text : String) : Bool :=
  match Text.splitAt ':' text.toList with
  | [hours, minutes, seconds] =>
    hours.length ≤ 2 && minutes.length ≤ 2 && seconds.length ≤ 2 &&
      isNumberBetween 0 23 hours && isNumberBetween 0 59 minutes && isNumberBetween 0 61 seconds
  | _ => false

/-- Whether a text is a moment: a day, the letter `T`, a time of day and an offset or `Z`. -/
def isMoment (text : String) : Bool :=
  let characters := text.toList.map Char.toUpper
  let day := String.ofList (characters.take 10)
  let rest := String.ofList (characters.drop 10)
  isDay day && Pattern.search
    ("^T([01][0-9]|2[0-3]):[0-5][0-9]:([0-5][0-9]|60)([.][0-9]+)?(Z|[+-]([01][0-9]|2[0-3]):" ++
      "[0-5][0-9])\\Z") rest

/-- Whether a text is a unique identifier of 32 hexadecimal digits in five groups. -/
def isUniqueIdentifier (text : String) : Bool :=
  let characters := text.toList
  let digits := characters.filter fun c => c != '-'
  digits.length == 32 && digits.all (fun c => (Text.hexValue? c).isSome) &&
    [8, 13, 18, 23].all fun position => characters[position]? == some '-'

/-- Whether a text is bytes in base 64, written as an encoder writes them. -/
def isEncodedBytes (text : String) : Bool :=
  let isSign (c : Char) : Bool := c.isAlphanum || c == '+' || c == '/'
  let characters := text.toList
  let body := characters.takeWhile isSign
  let padding := characters.drop body.length
  characters.length % 4 == 0 && padding.all (· == '=') && padding.length ≤ 2 &&
    (Yaml.base64Bytes characters).toOption.isSome

/-- Whether a value has a named format. -/
def hasFormat (dialect : Dialect) (format : String) (value : Tree) : Bool :=
  match value with
  | .integer number =>
    match format with
    | "int32" => fitsBits 32 number
    | "int64" => fitsBits 64 number
    | _ => true
  | .text text =>
    match format with
    | "email" | "idn-email" => Text.contains text "@"
    | "ipv4" | "ip-address" => Url.isShortAddress text.toList
    | "ipv6" => Url.isLongAddress text.toList && !Text.contains text "%"
    | "date" => isDay text
    | "time" => isClockTime text
    | "date-time" => isMoment text
    | "regex" => (Pattern.ofText? text).isSome
    | "uuid" => isUniqueIdentifier text
    | "binary" => dialect != .definition3
    | "byte" => dialect != .definition3 || isEncodedBytes text
    | _ => true
  | _ => true

end ApiAdmission.Schema
