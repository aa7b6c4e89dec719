/-!
# Double-precision numbers

A double is kept as its 64 bits, so that two doubles are equal exactly when they are the same
datum; comparison as numbers, where the two zeros are one and a NaN differs from itself, is
`Double.sameNumber`.  Every finite double is an integer times a power of two, and arithmetic with
integers goes through that exact value.
-/

namespace ApiAdmission

set_option autoImplicit false

/-- A double-precision number, as its bits. -/
structure Double where
  /-- Sign, exponent and fraction. -/
  bits : UInt64
deriving DecidableEq, Repr, Inhabited

namespace Double

/-- The double that a float holds. -/
def ofFloat (value : Float) : Double := ⟨value.toBits⟩

/-- The float that a double is. -/
def toFloat (value : Double) : Float := Float.ofBits value.bits

/-- Whether the sign bit is set. -/
def isNegative (value : Double) : Bool :=
  value.bits.toNat / Nat.pow 2 63 == 1

/-- The biased exponent. -/
def exponentField (value : Double) : Nat :=
  value.bits.toNat / Nat.pow 2 52 % Nat.pow 2 11

/-- The fraction bits. -/
def fractionField (value : Double) : Nat :=
  value.bits.toNat % Nat.pow 2 52

/-- Whether the value is no number. -/
def isNaN (value : Double) : Bool :=
  value.exponentField == 2047 && value.fractionField != 0

/-- Whether the value is one of the two infinities. -/
def isInfinite (value : Double) : Bool :=
  value.exponentField == 2047 && value.fractionField == 0

/-- The significand of a finite double, an integer below `2 ^ 53`. -/
def significand (value : Double) : Nat :=
  if value.exponentField == 0 then value.fractionField else value.fractionField + Nat.pow 2 52

/-- The power of two that the significand of a finite double is multiplied by. -/
def binaryExponent (value : Double) : Int :=
  if value.exponentField == 0 then -1074 else (value.exponentField : Int) - 1075

/-- Positive infinity. -/
def infinity : Double := ⟨0x7FF0000000000000⟩

/-- Negative infinity. -/
def negativeInfinity : Double := ⟨0xFFF0000000000000⟩

/-- The value that is no number. -/
def notANumber : Double := ⟨0x7FF8000000000000⟩

/-- The value with the other sign. -/
def negate (value : Double) : Double := ofFloat (-value.toFloat)

/-- The exact value of a finite double as a numerator and a positive denominator. -/
def toFraction? (value : Double) : Option (Int × Nat) :=
  if value.exponentField == 2047 then none
  else
    let signed : Int := if value.isNegative then -value.significand else value.significand
    match value.binaryExponent with
    | .ofNat e => some (signed * Nat.pow 2 e, 1)
    | .negSucc e => some (signed, Nat.pow 2 (e + 1))

/-- Whether two doubles are the same number. -/
def sameNumber (first second : Double) : Bool :=
  first.toFloat == second.toFloat

/-- The integer that a finite double with no fractional part is. -/
def toInteger? (value : Double) : Option Int :=
  match value.toFraction? with
  | some (numerator, denominator) =>
    if numerator % denominator == 0 then some (numerator / denominator) else none
  | none => none

/-- The double nearest to an integer. -/
def ofInteger (value : Int) : Double :=
  match value with
  | .ofNat n => ofFloat (Float.ofScientific n false 0)
  | .negSucc n => ofFloat (-(Float.ofScientific (n + 1) false 0))

end Double

end ApiAdmission
