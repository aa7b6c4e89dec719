import ApiAdmission.Number.Reader
import ApiAdmission.Text.Quoted
import ApiAdmission.Tree.Basic
import ApiAdmission.Yaml.Fault

/-!
# The kinds of plain scalars and their values

A plain scalar without a tag is an integer, a number, a truth value, the absent value, the mark of a
merged mapping, the mark of a value, or else a text, by its spelling alone.  A tag asks for a kind
outright, and then the spelling must have a value of that kind.

Integers may be binary, octal, decimal, hexadecimal or in base sixty; numbers need a point; and
underscores may stand among the digits of both.
-/

namespace ApiAdmission.Yaml

set_option autoImplicit false

/-- The common beginning of the tags of the notation itself. -/
def standardTag (name : String) : String := "tag:yaml.org,2002:" ++ name

/-! ## Spellings -/

/-- Whether all characters of a list satisfy a condition, and there is at least one. -/
def allAndSome (condition : Char → Bool) (characters : List Char) : Bool :=
  !characters.isEmpty && characters.all condition

/-- Whether a character is an ASCII digit or an underscore. -/
def isDigitOrGroup (c : Char) : Bool := Text.isAsciiDigit c || c == '_'

/-- Whether a list of characters is a digit followed by digits and underscores. -/
def isGroupedNumber : List Char → Bool
  | [] => false
  | c :: rest => Text.isAsciiDigit c && rest.all isDigitOrGroup

/-- Whether a list of characters is a group of base sixty: one digit, or two of which the first is
below six. -/
def isSexagesimalGroup : List Char → Bool
  | [c] => Text.isAsciiDigit c
  | [c, d] => '0' ≤ c && c ≤ '5' && Text.isAsciiDigit d
  | _ => false

/-- Drops a sign. -/
def unsigned : List Char → List Char
  | '-' :: rest => rest
  | '+' :: rest => rest
  | rest => rest

/-- Whether a spelling is that of an integer. -/
def spellsInteger (characters : List Char) : Bool :=
  match unsigned characters with
  | ['0'] => true
  | '0' :: 'b' :: digits => allAndSome (fun c => c == '0' || c == '1' || c == '_') digits
  | '0' :: 'x' :: digits => allAndSome (fun c => (Text.hexValue? c).isSome || c == '_') digits
  | '0' :: digits => allAndSome (fun c => ('0' ≤ c && c ≤ '7') || c == '_') digits
  | body =>
    match Text.splitAt ':' body with
    | [] => false
    | first :: groups => isGroupedNumber first && groups.all isSexagesimalGroup

/-- Whether what follows the digits of a number is a complete exponent or nothing. -/
def isExponent : List Char → Bool
  | [] => true
  | e :: sign :: digits =>
    (e == 'e' || e == 'E') && (sign == '-' || sign == '+') && allAndSome Text.isAsciiDigit digits
  | _ => false

/-- Whether a spelling is that of a number with a point. -/
def spellsNumber (characters : List Char) : Bool :=
  let body := unsigned characters
  let (whole, fraction) := Text.cutAt '.' body
  let tail := (fraction.getD []).dropWhile isDigitOrGroup
  let name := String.ofList body
  if fraction.isNone then false
  else if whole.isEmpty then
    name == ".inf" || name == ".Inf" || name == ".INF" ||
      (body.length == characters.length &&
        (name == ".nan" || name == ".NaN" || name == ".NAN" ||
          (((fraction.getD []).head?.map Text.isAsciiDigit).getD false && isExponent tail)))
  else if whole.contains ':' then
    match Text.splitAt ':' whole with
    | [] => false
    | first :: groups => isGroupedNumber first && groups.all isSexagesimalGroup && tail.isEmpty
  else isGroupedNumber whole && isExponent tail

/-- The spellings of the truth values. -/
def truthWords : List (String × Bool) :=
  [("yes", true), ("no", false), ("true", true), ("false", false), ("on", true), ("off", false)]

/-- A word with its first letter made a capital. -/
def capitalized (word : String) : String :=
  match word.toList with
  | [] => ""
  | c :: rest => String.ofList (c.toUpper :: rest)

/-- Whether a spelling is that of a truth value. -/
def spellsTruth (spelling : String) : Bool :=
  truthWords.any fun entry =>
    spelling == entry.1 || spelling == capitalized entry.1 || spelling == entry.1.toUpper

/-- Whether a spelling is that of the absent value. -/
def spellsNull (spelling : String) : Bool :=
  ["", "~", "null", "Null", "NULL"].contains spelling

/-- The tag of a plain scalar without one. -/
def plainTag (spelling : String) : String :=
  let characters := spelling.toList
  if spellsNull spelling then standardTag "null"
  else if spellsTruth spelling then standardTag "bool"
  else if spellsNumber characters then standardTag "float"
  else if spellsInteger characters then standardTag "int"
  else if spelling == "<<" then standardTag "merge"
  else if spelling == "=" then standardTag "value"
  else standardTag "str"

/-! ## Values -/

/-- Reads a decimal integer, with the faults of a value. -/
def decimalValue (characters : List Char) : Except ValueFault Int :=
  match Number.readInteger characters with
  | .ok value => .ok value
  | .error .invalid => .error (.integer 10 (String.ofList characters))
  | .error (.tooLong digits) => .error (.longInteger digits)

/-- Reads an integer in a base other than ten, with the faults of a value. -/
def valueInBase (base : Nat) (characters : List Char) : Except ValueFault Int :=
  match Number.readInBase? base characters with
  | some value => .ok value
  | none => .error (.integer base (String.ofList characters))

/-- The sign of a spelling and the spelling without it; an empty spelling has none. -/
def takeSign (characters : List Char) : Except ValueFault (Bool × List Char) :=
  match characters with
  | [] => .error .emptyNumber
  | '-' :: rest => .ok (true, rest)
  | '+' :: rest => .ok (false, rest)
  | rest => .ok (false, rest)

/-- The integer that a spelling stands for. -/
def integerValue (spelling : String) : Except ValueFault Int := do
  let (negative, body) ← takeSign (spelling.toList.filter (· != '_'))
  let signed (value : Int) : Int := if negative then -value else value
  match body with
  | ['0'] => return 0
  | '0' :: 'b' :: digits => return signed (← valueInBase 2 digits)
  | '0' :: 'x' :: digits => return signed (← valueInBase 16 digits)
  | '0' :: digits => return signed (← valueInBase 8 ('0' :: digits))
  | [] => .error .emptyNumber
  | _ =>
    if body.contains ':' then
      let groups ← (Text.splitAt ':' body).mapM decimalValue
      return signed (groups.foldl (fun value group => value * 60 + group) 0)
    else return signed (← decimalValue body)

/-- Reads a number, with the faults of a value. -/
def numberOf (characters : List Char) : Except ValueFault Double :=
  match Number.double? (String.ofList characters) with
  | some value => .ok value
  | none => .error (.number (String.ofList characters))

/-- The number that a spelling stands for. -/
def numberValue (spelling : String) : Except ValueFault Double := do
  let (negative, body) ←
    takeSign ((spelling.toList.filter (· != '_')).map Char.toLower)
  let signed (value : Double) : Double := if negative then value.negate else value
  let name := String.ofList body
  if name == ".inf" then return signed .infinity
  else if name == ".nan" then return .notANumber
  else if body.contains ':' then
    let groups ← (Text.splitAt ':' body).mapM numberOf
    let (total, _) := groups.reverse.foldl
      (fun (state : Float × Float) group => (state.1 + group.toFloat * state.2, state.2 * 60.0))
      (0.0, 1.0)
    return signed (.ofFloat total)
  else return signed (← numberOf body)

/-- The truth value that a word stands for. -/
def truthValue (word : String) : Except ValueFault Bool :=
  match truthWords.find? fun entry => entry.1 == Text.asciiLower word with
  | some (_, value) => .ok value
  | none => .error (.truthValue (Text.asciiLower word))

/-! ## Strings of bytes -/

/-- The value of a letter of base 64. -/
def base64Value? (c : Char) : Option Nat :=
  if 'A' ≤ c && c ≤ 'Z' then some (c.toNat - 'A'.toNat)
  else if 'a' ≤ c && c ≤ 'z' then some (c.toNat - 'a'.toNat + 26)
  else if Text.isAsciiDigit c then some (c.toNat - '0'.toNat + 52)
  else if c == '+' then some 62
  else if c == '/' then some 63
  else none

/-- What has been read of base 64 data. -/
structure Base64Progress where
  /-- The bytes so far. -/
  bytes : List UInt8
  /-- How many letters of the current group of four have been read. -/
  position : Nat
  /-- The bits of the current group that make no byte yet. -/
  carry : Nat
  /-- How many padding signs stand at the end so far. -/
  padding : Nat
  /-- How many letters have been read. -/
  letters : Nat
  /-- Whether the padding has completed the data. -/
  complete : Bool

/-- Reads one character of base 64 data; characters outside the alphabet are passed over. -/
def base64Step (progress : Base64Progress) (c : Char) : Base64Progress :=
  if progress.complete then progress
  else if c == '=' then
    let padding := progress.padding + 1
    if 2 ≤ progress.position && 4 ≤ progress.position + padding then
      { progress with complete := true }
    else { progress with padding := padding }
  else
    match base64Value? c with
    | none => progress
    | some bits =>
      let value := progress.carry * 64 + bits
      let next :=
        { progress with padding := 0, letters := progress.letters + 1,
                        position := (progress.position + 1) % 4 }
      match progress.position with
      | 0 => { next with carry := bits }
      | 1 => { next with bytes := next.bytes ++ [(value / 16).toUInt8], carry := value % 16 }
      | 2 => { next with bytes := next.bytes ++ [(value / 4).toUInt8], carry := value % 4 }
      | _ => { next with bytes := next.bytes ++ [value.toUInt8], carry := 0 }

/-- The bytes that base 64 data stands for, or the message that says why there are none. -/
def base64Bytes (characters : List Char) : Except String (List UInt8) :=
  let read := characters.foldl base64Step ⟨[], 0, 0, 0, 0, false⟩
  if read.complete || read.position == 0 then .ok read.bytes
  else if read.position == 1 then
    .error ("Invalid base64-encoded string: number of data characters (" ++
      toString read.letters ++ ") cannot be 1 more than a multiple of 4")
  else .error "Incorrect padding"

/-! ## Moments -/

/-- Takes at least `least` and at most `most` digits off the front. -/
def takeDigits? (least most : Nat) (characters : List Char) : Option (Nat × List Char) :=
  let digits := (characters.take most).takeWhile Text.isAsciiDigit
  if digits.length < least then none
  else some (Text.ofDigits 10 (digits.filterMap Text.digitValue?), characters.drop digits.length)

/-- Takes one given character off the front. -/
def takeCharacter? (c : Char) : List Char → Option (List Char)
  | d :: rest => if c == d then some rest else none
  | [] => none

/-- The parts of a moment as written. -/
structure WrittenMoment where
  /-- The calendar day. -/
  date : Nat × Nat × Nat
  /-- Hour, minute, second and microsecond. -/
  time : Option (Nat × Nat × Nat × Nat)
  /-- The offset from universal time in minutes. -/
  offset : Option Int

/-- Reads the offset from universal time, which must end the text. -/
def writtenOffset? (characters : List Char) : Option (Option Int) :=
  match characters.dropWhile (fun c => c == ' ' || c == '\t') with
  | [] => if characters.isEmpty then some none else none
  | ['Z'] => some (some 0)
  | sign :: rest =>
    if sign == '+' || sign == '-' then do
      let (hours, rest) ← takeDigits? 1 2 rest
      let minutes ← match rest with
        | [] => some 0
        | ':' :: digits => (takeDigits? 2 2 digits).bind fun (minutes, rest) =>
            if rest.isEmpty then some minutes else none
        | _ => none
      let magnitude : Int := hours * 60 + minutes
      return some (if sign == '-' then -magnitude else magnitude)
    else none

/-- Reads the fraction of a second to microseconds. -/
def writtenFraction (characters : List Char) : Nat × List Char :=
  match characters with
  | '.' :: rest =>
    let digits := rest.takeWhile Text.isAsciiDigit
    let six := (digits ++ List.replicate 6 '0').take 6
    (Text.ofDigits 10 (six.filterMap Text.digitValue?), rest.drop digits.length)
  | rest => (0, rest)

/-- Reads the time of a moment, which must end the text. -/
def writtenTime? (characters : List Char) :
    Option ((Nat × Nat × Nat × Nat) × Option Int) := do
  let (hour, rest) ← takeDigits? 1 2 characters
  let rest ← takeCharacter? ':' rest
  let (minute, rest) ← takeDigits? 2 2 rest
  let rest ← takeCharacter? ':' rest
  let (second, rest) ← takeDigits? 2 2 rest
  let (fraction, rest) := writtenFraction rest
  let offset ← writtenOffset? rest
  return ((hour, minute, second, fraction), offset)

/-- Reads a moment. -/
def writtenMoment? (characters : List Char) : Option WrittenMoment := do
  let (year, rest) ← takeDigits? 4 4 characters
  let rest ← takeCharacter? '-' rest
  let (month, rest) ← takeDigits? 1 2 rest
  let rest ← takeCharacter? '-' rest
  let (date, rest) ← takeDigits? 1 2 rest
  match rest with
  | [] => return ⟨(year, month, date), none, none⟩
  | c :: after =>
    let body ←
      if c == 'T' || c == 't' then some after
      else if c == ' ' || c == '\t' then
        some (after.dropWhile fun d => d == ' ' || d == '\t')
      else none
    let (time, offset) ← writtenTime? body
    return ⟨(year, month, date), some time, offset⟩

/-- The number of days in a month of a year. -/
def daysInMonth (year month : Nat) : Nat :=
  let leap := year % 4 == 0 && (year % 100 != 0 || year % 400 == 0)
  if month == 2 then (if leap then 29 else 28)
  else if month == 4 || month == 6 || month == 9 || month == 11 then 30
  else 31

/-- Checks that a calendar day exists. -/
def checkDate (year month date : Nat) : Except ValueFault Unit :=
  if year == 0 then .error (.momentRange "year 0 is out of range")
  else if month == 0 || 12 < month then .error (.momentRange "month must be in 1..12")
  else if date == 0 || daysInMonth year month < date then
    .error (.momentRange "day is out of range for month")
  else .ok ()

/-- Checks the offset from universal time, which must be less than a day. -/
def checkOffset (offset : Option Int) : Except ValueFault Unit :=
  match offset with
  | none => .ok ()
  | some offset =>
    if offset.natAbs < 1440 then .ok ()
    else
      .error (.momentRange ("offset must be a timedelta strictly between " ++
        "-timedelta(hours=24) and timedelta(hours=24), not " ++ Moment.spanLiteral offset ++ "."))

/-- Checks that a time exists. -/
def checkTime (hour minute second : Nat) : Except ValueFault Unit :=
  if 23 < hour then .error (.momentRange "hour must be in 0..23")
  else if 59 < minute then .error (.momentRange "minute must be in 0..59")
  else if 59 < second then .error (.momentRange "second must be in 0..59")
  else .ok ()

/-- The moment that a spelling stands for. -/
def momentValue (spelling : String) : Except ValueFault Moment :=
  match writtenMoment? spelling.toList with
  | none => .error .moment
  | some ⟨(year, month, date), time, offset⟩ =>
    match time with
    | none => do
      checkDate year month date
      return .day year month date
    | some (hour, minute, second, microsecond) => do
      checkOffset offset
      checkDate year month date
      checkTime hour minute second
      return .instant year month date hour minute second microsecond offset

end ApiAdmission.Yaml
