import ApiAdmission.Text.Lines
import ApiAdmission.World.FileSystem

/-!
# Files as text

A file is read as UTF-8, and every end of line in it becomes a line feed.  A strict reading refuses
bytes that are no UTF-8; a tolerant one puts a replacement character for each broken sequence.
-/

namespace ApiAdmission

set_option autoImplicit false

namespace Utf8

/-- Decodes bytes with a replacement character for each broken sequence; the characters read so far
stand in reverse. -/
def decodeTolerantlyFrom : Nat → List Char → List UInt8 → List Char
  | _, reversed, [] => reversed.reverse
  | 0, reversed, _ => reversed.reverse
  | budget + 1, reversed, first :: rest =>
    match readCharacter 0 first rest with
    | .error fault =>
      decodeTolerantlyFrom budget ('\uFFFD' :: reversed) (rest.drop (fault.length - 1))
    | .ok (c, width) => decodeTolerantlyFrom budget (c :: reversed) (rest.drop (width - 1))

/-- Decodes bytes with a replacement character for each broken sequence. -/
def decodeTolerantly (bytes : List UInt8) : List Char :=
  decodeTolerantlyFrom bytes.length [] bytes

end Utf8

namespace FileSystem

/-- The text of the file at a path. -/
def readText (files : FileSystem) (path : Path) : Except Breakdown String := do
  match Utf8.decode (← files.readBytes path) with
  | .ok characters => return String.ofList (Text.normalizeNewlines characters)
  | .error fault => throw (.undecodable fault)

/-- The text of the file at a path, whatever its bytes. -/
def readTolerantly (files : FileSystem) (path : Path) : Except Breakdown String := do
  let characters := Utf8.decodeTolerantly (← files.readBytes path)
  return String.ofList (Text.normalizeNewlines characters)

end FileSystem

end ApiAdmission
