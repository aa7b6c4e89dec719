import ApiAdmission.Number.Double

/-!
# The shortest decimal that reads back

A double is written with the fewest significant digits that read back as the same double, and
among the decimals of that length with the one nearest to its exact value.  The reals that read
back as a double form an interval around it, whose ends belong to it when the significand is even.
For each length the two decimals of that length next to the value are tried in exact arithmetic;
the first length at which one of them lies in the interval wins.

The layout is a separate decision: positional from `1e-4` up to `1e16`, with `.0` after a whole
number, and otherwise one digit before the point and an exponent of at least two digits.
-/

namespace ApiAdmission.Double

set_option autoImplicit false

/-- The reals that read back as one double, with the double itself, over a common denominator. -/
structure ReadingInterval where
  /-- The numerator of the lower end. -/
  lower : Nat
  /-- The numerator of the value. -/
  value : Nat
  /-- The numerator of the upper end. -/
  upper : Nat
  /-- The common denominator. -/
  denominator : Nat
  /-- Whether the ends read back as the double too. -/
  closed : Bool

/-- The interval of a positive finite double. -/
def readingInterval (number : Double) : ReadingInterval :=
  let significand := number.significand
  let below := if number.fractionField == 0 && 1 < number.exponentField then 1 else 2
  let scale : Nat × Nat :=
    match number.binaryExponent - 2 with
    | .ofNat e => (Nat.pow 2 e, 1)
    | .negSucc e => (1, Nat.pow 2 (e + 1))
  { lower := (4 * significand - below) * scale.1
    value := 4 * significand * scale.1
    upper := (4 * significand + 2) * scale.1
    denominator := scale.2
    closed := significand % 2 == 0 }

/-- The least power of ten above a positive fraction, found upward from a given exponent. -/
def decimalMagnitudeFrom (numerator denominator : Nat) : Nat → Int → Int
  | 0, exponent => exponent
  | fuel + 1, exponent =>
    let isBelow : Bool :=
      match exponent with
      | .ofNat e => numerator < Nat.pow 10 e * denominator
      | .negSucc e => numerator * Nat.pow 10 (e + 1) < denominator
    if isBelow then exponent
    else decimalMagnitudeFrom numerator denominator fuel (exponent + 1)

/-- The least exponent whose power of ten is above a positive double. -/
def decimalMagnitude (interval : ReadingInterval) : Int :=
  let whole := interval.value / interval.denominator
  if whole == 0 then decimalMagnitudeFrom interval.value interval.denominator 400 (-330)
  else decimalMagnitudeFrom interval.value interval.denominator 4
    ((Nat.toDigits 10 whole).length - 1 : Nat)

/-- Scales a decimal `count · 10 ^ unit` and the interval to integers that can be compared. -/
def onGrid (interval : ReadingInterval) (unit : Int) : Nat × Nat :=
  match unit with
  | .ofNat u => (Nat.pow 10 u * interval.denominator, 1)
  | .negSucc u => (interval.denominator, Nat.pow 10 (u + 1))

/-- The decimal of the given number of digits that reads back and is nearest to the value. -/
def nearestOfLength? (interval : ReadingInterval) (magnitude : Int) (digits : Nat) : Option Nat :=
  let (step, scale) := onGrid interval (magnitude - digits)
  let value := interval.value * scale
  let low := value / step
  let accepted := [low, low + 1].filter fun candidate =>
    let position := candidate * step
    if interval.closed then
      interval.lower * scale ≤ position && position ≤ interval.upper * scale
    else interval.lower * scale < position && position < interval.upper * scale
  match accepted with
  | [] => none
  | [candidate] => some candidate
  | first :: second :: _ =>
    let below := value - first * step
    let above := second * step - value
    if below < above then some first
    else if above < below then some second
    else if first % 2 == 0 then some first else some second

/-- The first length, from `digits` on, at which a decimal reads back, with that decimal. -/
def shortestFrom (interval : ReadingInterval) (magnitude : Int) : Nat → Nat → Nat × Nat
  | 0, digits => (0, digits)
  | fuel + 1, digits =>
    match nearestOfLength? interval magnitude digits with
    | some decimal => (decimal, digits)
    | none => shortestFrom interval magnitude fuel (digits + 1)

/-- The significant digits of a positive finite double and the exponent of the power of ten just
above its first digit: `0.d₁d₂… · 10 ^ exponent`. -/
def shortestDigits (number : Double) : List Char × Int :=
  let interval := readingInterval number
  let magnitude := decimalMagnitude interval
  let (decimal, length) := shortestFrom interval magnitude 17 1
  let digits := Nat.toDigits 10 decimal
  let trimmed := (digits.reverse.dropWhile (· == '0')).reverse
  (if trimmed.isEmpty then ['0'] else trimmed, magnitude + (digits.length - length : Nat))

/-- Lays out significant digits without an exponent. -/
def positional (digits : List Char) (exponent : Int) : List Char :=
  match exponent with
  | .ofNat e =>
    if e == 0 then '0' :: '.' :: digits
    else if digits.length ≤ e then
      digits ++ List.replicate (e - digits.length) '0' ++ ['.', '0']
    else digits.take e ++ '.' :: digits.drop e
  | .negSucc e => '0' :: '.' :: (List.replicate (e + 1) '0' ++ digits)

/-- Lays out significant digits with an exponent. -/
def scientific (digits : List Char) (exponent : Int) : List Char :=
  let shown := exponent - 1
  let magnitude := Nat.toDigits 10 shown.natAbs
  let padded := if magnitude.length < 2 then '0' :: magnitude else magnitude
  let tail := 'e' :: (if shown < 0 then '-' else '+') :: padded
  match digits with
  | [] => tail
  | [digit] => digit :: tail
  | digit :: rest => digit :: '.' :: (rest ++ tail)

/-- The shortest text that reads back as the double. -/
def text (number : Double) : String :=
  if number.isNaN then "nan"
  else
    let sign := if number.isNegative then "-" else ""
    if number.isInfinite then sign ++ "inf"
    else if number.significand == 0 then sign ++ "0.0"
    else
      let (digits, exponent) := shortestDigits number
      let shown :=
        if -4 < exponent && exponent ≤ 16 then positional digits exponent
        else scientific digits exponent
      sign ++ String.ofList shown

end ApiAdmission.Double
