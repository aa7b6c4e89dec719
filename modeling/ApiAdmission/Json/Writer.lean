import ApiAdmission.Tree.Literal

/-!
# Writing JSON

A value is written over several lines: every item of a list and every entry of a mapping stands on a
line of its own, two blanks deeper than what holds it, and an empty list or mapping stays on one
line.  Entries keep their order, and all characters but quotation marks, backslashes and controls
are written as they are.
-/

namespace ApiAdmission.Json

set_option autoImplicit false

/-- One character inside a written text. -/
def writeCharacter (c : Char) : String :=
  if c == '"' then "\\\""
  else if c == '\\' then "\\\\"
  else if c == '\n' then "\\n"
  else if c == '\r' then "\\r"
  else if c == '\t' then "\\t"
  else if c.toNat == 0x08 then "\\b"
  else if c.toNat == 0x0C then "\\f"
  else if c.toNat < 0x20 then "\\u" ++ Text.toHex 4 c.toNat
  else String.singleton c

/-- A written text. -/
def writeText (text : String) : String :=
  "\"" ++ String.join (text.toList.map writeCharacter) ++ "\""

/-- A written number; the three that are not finite are written by their names. -/
def writeNumber (value : Double) : String :=
  if value.isNaN then "NaN"
  else if value.isInfinite then (if value.isNegative then "-Infinity" else "Infinity")
  else value.text

/-- The beginning of a line at a depth. -/
def lineStart (depth : Nat) : String :=
  "\n" ++ String.ofList (List.replicate (2 * depth) ' ')

/-- Written members between two brackets, which stand at a depth. -/
def writeBlock (depth : Nat) (opening closing : String) : List String → String
  | [] => opening ++ closing
  | members =>
    opening ++ lineStart (depth + 1) ++ Text.join ("," ++ lineStart (depth + 1)) members ++
      lineStart depth ++ closing

mutual
/-- A written value that stands at a depth; a value unknown to JSON is written as its text. -/
def writeAt (depth : Nat) : Tree → String
  | .null => "null"
  | .boolean value => if value then "true" else "false"
  | .integer value => toString value
  | .number value => writeNumber value
  | .text value => writeText value
  | .list items => writeBlock depth "[" "]" (writeItems (depth + 1) items)
  | .pair key value =>
    writeBlock depth "[" "]" [writeAt (depth + 1) key, writeAt (depth + 1) value]
  | .mapping entries => writeBlock depth "\x7b" "\x7d" (writeEntries (depth + 1) entries)
  | .bytes value => writeText (Text.quoteBytes value)
  | .moment value => writeText value.text
  | .set members => writeText (Tree.set members).shown
termination_by structural tree => tree

/-- The written items of a list. -/
def writeItems (depth : Nat) : List Tree → List String
  | [] => []
  | item :: rest => writeAt depth item :: writeItems depth rest
termination_by structural items => items

/-- The written entries of a mapping. -/
def writeEntries (depth : Nat) : List (String × Tree) → List String
  | [] => []
  | (key, value) :: rest =>
    (writeText key ++ ": " ++ writeAt depth value) :: writeEntries depth rest
termination_by structural entries => entries
end

/-- A value as JSON. -/
def write (tree : Tree) : String := writeAt 0 tree

end ApiAdmission.Json
