import ApiAdmission.Breakdown

/-!
# Globs

A glob describes the name of an entry.  A star stands for any characters, a question mark for one
character, and characters between square brackets for one of them; ranges are written with a
hyphen, and an exclamation mark or a caret behind the bracket means every other character.  A
backslash takes the character behind it as it is.  A bracket that nothing closes stands for itself.
-/

namespace ApiAdmission.Ignore

set_option autoImplicit false

/-- A part of a glob. -/
inductive GlobPart where
  /-- One given character. -/
  | exactly (character : Char)
  /-- Any one character. -/
  | anyOne
  /-- Any characters. -/
  | anyMany
  /-- One character inside some ranges, or outside all of them. -/
  | oneOf (negated : Bool) (ranges : List (Char × Char))
deriving DecidableEq, Repr

/-- A glob. -/
abbrev Glob := List GlobPart

/-! ## Reading -/

/-- The ranges that characters between brackets describe.  A range that ends before it starts breaks
the notation. -/
def rangesOf : List Char → Except Breakdown (List (Char × Char))
  | [] => .ok []
  | [single] => .ok [(single, single)]
  | first :: '-' :: last :: rest =>
    if last < first then .error .brokenPattern
    else do return (first, last) :: (← rangesOf rest)
  | first :: rest => do return (first, first) :: (← rangesOf rest)

/-- Splits the characters behind an opening bracket at the bracket that closes it.  One that stands
first is an ordinary character. -/
def closeBracket? : List Char → Option (List Char × List Char)
  | [] => none
  | first :: rest =>
    let inside := rest.takeWhile (· != ']')
    match rest.drop inside.length with
    | [] => none
    | _ :: after => some (first :: inside, after)

/-- Splits the characters behind an opening bracket into a negation, what the brackets hold, and
what follows them. -/
def bracketed? (characters : List Char) : Option (Bool × List Char × List Char) :=
  let negated := characters.head?.any fun c => c == '!' || c == '^'
  (closeBracket? (if negated then characters.drop 1 else characters)).map fun (inside, after) =>
    (negated, inside, after)

/-- Reads a glob that is at most so long; there is none when the last character is a backslash. -/
def readGlob : Nat → List Char → Except Breakdown (Option Glob)
  | _, [] => .ok (some [])
  | 0, _ => .ok none
  | _ + 1, ['\\'] => .ok none
  | length + 1, '\\' :: c :: rest => do return (← readGlob length rest).map (.exactly c :: ·)
  | length + 1, '*' :: rest => do return (← readGlob length rest).map (.anyMany :: ·)
  | length + 1, '?' :: rest => do return (← readGlob length rest).map (.anyOne :: ·)
  | length + 1, '[' :: rest =>
    match bracketed? rest with
    | some (negated, inside, after) => do
      let ranges ← rangesOf inside
      return (← readGlob length after).map (.oneOf negated ranges :: ·)
    | none => do return (← readGlob length rest).map (.exactly '[' :: ·)
  | length + 1, c :: rest => do return (← readGlob length rest).map (.exactly c :: ·)

/-- Reads a glob. -/
def Glob.ofText (characters : List Char) : Except Breakdown (Option Glob) :=
  readGlob characters.length characters

/-! ## Matching -/

/-- Whether a character is in one of some ranges. -/
def inRanges (ranges : List (Char × Char)) (c : Char) : Bool :=
  ranges.any fun (first, last) => first ≤ c && c ≤ last

/-- Whether a part that stands for one character stands for a given one. -/
def GlobPart.accepts (c : Char) : GlobPart → Bool
  | .exactly other => c == other
  | .anyOne => true
  | .oneOf negated ranges => inRanges ranges c != negated
  | .anyMany => false

/-- Whether a test holds of some ending of a list, the whole of it and the empty one included. -/
def someEnding (test : List Char → Bool) : List Char → Bool
  | [] => test []
  | c :: rest => test (c :: rest) || someEnding test rest

/-- Whether a glob describes a name. -/
def Glob.describes : Glob → List Char → Bool
  | [], name => name.isEmpty
  | .anyMany :: rest, name => someEnding (Glob.describes rest) name
  | part :: rest, name =>
    match name with
    | [] => false
    | c :: name => part.accepts c && Glob.describes rest name

end ApiAdmission.Ignore
