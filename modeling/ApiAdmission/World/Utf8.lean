import ApiAdmission.Text.Digit

/-!
# UTF-8

Text is stored as UTF-8.  Decoding is strict: overlong forms, surrogates and codes beyond the last
character are refused, and a fault names the byte at which the sequence breaks, its position and
the reason.  Positions count bytes from the start.
-/

namespace ApiAdmission.Utf8

set_option autoImplicit false

/-- Why a sequence of bytes is no UTF-8. -/
inductive Reason where
  | invalidStart
  | invalidContinuation
  | unexpectedEnd
deriving DecidableEq, Repr

/-- The words for a reason. -/
def Reason.words : Reason → String
  | .invalidStart => "invalid start byte"
  | .invalidContinuation => "invalid continuation byte"
  | .unexpectedEnd => "unexpected end of data"

/-- A fault: the bytes of the broken sequence begin at a position and are so many. -/
structure Fault where
  /-- The first byte of the broken sequence. -/
  byte : UInt8
  /-- Its position. -/
  position : Nat
  /-- The number of bytes of the broken sequence. -/
  length : Nat
  /-- What is wrong. -/
  reason : Reason
deriving DecidableEq, Repr

/-- The message of a fault. -/
def Fault.message (fault : Fault) : String :=
  let place :=
    if fault.length == 1 then
      "byte 0x" ++ Text.toHex 2 fault.byte.toNat ++ " in position " ++ toString fault.position
    else
      "bytes in position " ++ toString fault.position ++ "-" ++
        toString (fault.position + fault.length - 1)
  "'utf-8' codec can't decode " ++ place ++ ": " ++ fault.reason.words

/-- Whether a byte continues a sequence. -/
def isContinuation (byte : UInt8) : Bool := byte.toNat / 64 == 2

/-- The range that the second byte of a sequence must lie in, and how many bytes follow the
first. -/
def expectation? (first : Nat) : Option (Nat × Nat × Nat) :=
  if 0xC2 ≤ first && first ≤ 0xDF then some (0x80, 0xBF, 1)
  else if first == 0xE0 then some (0xA0, 0xBF, 2)
  else if first == 0xED then some (0x80, 0x9F, 2)
  else if 0xE1 ≤ first && first ≤ 0xEF then some (0x80, 0xBF, 2)
  else if first == 0xF0 then some (0x90, 0xBF, 3)
  else if 0xF1 ≤ first && first ≤ 0xF3 then some (0x80, 0xBF, 3)
  else if first == 0xF4 then some (0x80, 0x8F, 3)
  else none

/-- The payload bits of the first byte of a sequence with so many bytes after it. -/
def leadingBits (first following : Nat) : Nat :=
  if following == 1 then first % 32 else if following == 2 then first % 16 else first % 8

/-- Checks the bytes after the first one: the number of good ones before a bad or missing one. -/
def goodContinuations (low high : Nat) : Nat → List UInt8 → Nat
  | 0, _ => 0
  | _ + 1, [] => 0
  | count + 1, byte :: rest =>
    if low ≤ byte.toNat && byte.toNat ≤ high then 1 + goodContinuations 0x80 0xBF count rest
    else 0

/-- Reads one character: the character and the number of its bytes, or the fault. -/
def readCharacter (position : Nat) (first : UInt8) (rest : List UInt8) :
    Except Fault (Char × Nat) :=
  if first.toNat < 0x80 then .ok (Char.ofNat first.toNat, 1)
  else
    match expectation? first.toNat with
    | none => .error ⟨first, position, 1, .invalidStart⟩
    | some (low, high, following) =>
      let good := goodContinuations low high following rest
      if good == following then
        let code := (rest.take following).foldl (fun code byte => code * 64 + byte.toNat % 64)
          (leadingBits first.toNat following)
        .ok (Char.ofNat code, following + 1)
      else if rest.length == good then .error ⟨first, position, good + 1, .unexpectedEnd⟩
      else .error ⟨first, position, good + 1, .invalidContinuation⟩

/-- Decodes bytes from a position on; the characters read so far stand in reverse. -/
def decodeFrom : Nat → Nat → List Char → List UInt8 → Except Fault (List Char)
  | _, _, reversed, [] => .ok reversed.reverse
  | 0, _, reversed, _ => .ok reversed.reverse
  | budget + 1, position, reversed, first :: rest =>
    match readCharacter position first rest with
    | .error fault => .error fault
    | .ok (c, width) =>
      decodeFrom budget (position + width) (c :: reversed) (rest.drop (width - 1))

/-- Decodes bytes as UTF-8. -/
def decode (bytes : List UInt8) : Except Fault (List Char) :=
  decodeFrom bytes.length 0 [] bytes

/-- Decodes bytes that are known to be well formed but for their range. -/
def decodeLeniently (bytes : List UInt8) : List Char :=
  match decode bytes with
  | .ok characters => characters
  | .error _ => ['\uFFFD']

/-- The bytes of a text. -/
def encode (text : String) : List UInt8 := text.toUTF8.toList

end ApiAdmission.Utf8
