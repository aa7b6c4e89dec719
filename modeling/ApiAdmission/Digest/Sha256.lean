import ApiAdmission.Text.Digit
import ApiAdmission.World.Utf8

/-!
# The digest SHA-256

The digest of a sequence of bytes is a number of 256 bits.  The bytes are padded to whole blocks of
64, each block is expanded to 64 words, and each word takes part in one round that stirs eight words
of state.
-/

namespace ApiAdmission.Sha256

set_option autoImplicit false

/-- The first 32 bits of the fraction parts of the cube roots of the first 64 primes. -/
def roundConstants : List UInt32 := [
  0x428a2f98, 0x71374491, 0xb5c0fbcf, 0xe9b5dba5, 0x3956c25b, 0x59f111f1, 0x923f82a4, 0xab1c5ed5,
  0xd807aa98, 0x12835b01, 0x243185be, 0x550c7dc3, 0x72be5d74, 0x80deb1fe, 0x9bdc06a7, 0xc19bf174,
  0xe49b69c1, 0xefbe4786, 0x0fc19dc6, 0x240ca1cc, 0x2de92c6f, 0x4a7484aa, 0x5cb0a9dc, 0x76f988da,
  0x983e5152, 0xa831c66d, 0xb00327c8, 0xbf597fc7, 0xc6e00bf3, 0xd5a79147, 0x06ca6351, 0x14292967,
  0x27b70a85, 0x2e1b2138, 0x4d2c6dfc, 0x53380d13, 0x650a7354, 0x766a0abb, 0x81c2c92e, 0x92722c85,
  0xa2bfe8a1, 0xa81a664b, 0xc24b8b70, 0xc76c51a3, 0xd192e819, 0xd6990624, 0xf40e3585, 0x106aa070,
  0x19a4c116, 0x1e376c08, 0x2748774c, 0x34b0bcb5, 0x391c0cb3, 0x4ed8aa4a, 0x5b9cca4f, 0x682e6ff3,
  0x748f82ee, 0x78a5636f, 0x84c87814, 0x8cc70208, 0x90befffa, 0xa4506ceb, 0xbef9a3f7, 0xc67178f2]

/-- The eight words of state. -/
structure State where
  a : UInt32
  b : UInt32
  c : UInt32
  d : UInt32
  e : UInt32
  f : UInt32
  g : UInt32
  h : UInt32

/-- The first 32 bits of the fraction parts of the square roots of the first eight primes. -/
def State.start : State :=
  ⟨0x6a09e667, 0xbb67ae85, 0x3c6ef372, 0xa54ff53a, 0x510e527f, 0x9b05688c, 0x1f83d9ab, 0x5be0cd19⟩

/-- Two states added word by word. -/
def State.add (first second : State) : State :=
  ⟨first.a + second.a, first.b + second.b, first.c + second.c, first.d + second.d,
    first.e + second.e, first.f + second.f, first.g + second.g, first.h + second.h⟩

/-- A word rotated to the right. -/
def rotate (word : UInt32) (amount : UInt32) : UInt32 :=
  (word >>> amount) ||| (word <<< (32 - amount))

/-- The bytes with a one bit, zeros, and their number of bits in eight bytes behind them, which
makes whole blocks. -/
def pad (bytes : List UInt8) : List UInt8 :=
  let length := bytes.length
  let zeros := (119 - length % 64) % 64
  let bits := 8 * length
  let size := (List.range 8).map fun position => UInt8.ofNat (bits >>> (8 * (7 - position)))
  bytes ++ [0x80] ++ List.replicate zeros 0 ++ size

/-- The words that bytes make up, four for each. -/
def wordsOf : List UInt8 → List UInt32
  | a :: b :: c :: d :: rest =>
    ((a.toUInt32 <<< 24) ||| (b.toUInt32 <<< 16) ||| (c.toUInt32 <<< 8) ||| d.toUInt32) ::
      wordsOf rest
  | _ => []

/-- So many further words behind sixteen or more, the last of which stands first. -/
def expand : Nat → List UInt32 → List UInt32
  | 0, reversed => reversed
  | count + 1, reversed =>
    let word (back : Nat) : UInt32 := reversed.getD (back - 1) 0
    let first := rotate (word 15) 7 ^^^ rotate (word 15) 18 ^^^ (word 15 >>> 3)
    let second := rotate (word 2) 17 ^^^ rotate (word 2) 19 ^^^ (word 2 >>> 10)
    expand count ((word 16 + first + word 7 + second) :: reversed)

/-- One round with a word and its constant. -/
def round (state : State) (word constant : UInt32) : State :=
  let stirred := rotate state.e 6 ^^^ rotate state.e 11 ^^^ rotate state.e 25
  let choice := (state.e &&& state.f) ^^^ ((~~~state.e) &&& state.g)
  let first := state.h + stirred + choice + constant + word
  let spread := rotate state.a 2 ^^^ rotate state.a 13 ^^^ rotate state.a 22
  let majority := (state.a &&& state.b) ^^^ (state.a &&& state.c) ^^^ (state.b &&& state.c)
  ⟨first + (spread + majority), state.a, state.b, state.c, state.d + first, state.e, state.f,
    state.g⟩

/-- The state after a block of sixteen words. -/
def block (state : State) (words : List UInt32) : State :=
  let schedule := (expand 48 words.reverse).reverse
  let stirred := (schedule.zip roundConstants).foldl
    (fun state (word, constant) => round state word constant) state
  state.add stirred

/-- The state after so many blocks. -/
def blocks : Nat → State → List UInt32 → State
  | 0, state, _ => state
  | count + 1, state, words => blocks count (block state (words.take 16)) (words.drop 16)

/-- The digest of bytes in hexadecimal digits. -/
def digest (bytes : List UInt8) : String :=
  let words := wordsOf (pad bytes)
  let final := blocks (words.length / 16) .start words
  String.join ([final.a, final.b, final.c, final.d, final.e, final.f, final.g, final.h].map
    fun word => Text.toHex 8 word.toNat)

/-- The digest of a text. -/
def digestOfText (text : String) : String := digest (Utf8.encode text)

end ApiAdmission.Sha256
