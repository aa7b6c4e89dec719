import ApiAdmission.Breakdown

/-!
# The names in a path template

A path template puts names between braces.  A brace that is written twice stands for itself.  Inside
braces the name ends at a colon or an exclamation mark; what follows them, down to the closing
brace, is no part of it.  A template whose braces do not fit has no names at all: reading it breaks
down.
-/

namespace ApiAdmission.Definition

set_option autoImplicit false

/-- Why the braces of a template do not fit. -/
inductive BraceFault where
  /-- An opening brace ends the template. -/
  | loneOpening
  /-- A closing brace closes nothing. -/
  | loneClosing
  /-- A name holds an opening brace. -/
  | openingInName
  /-- The template ends inside a name. -/
  | unclosedName
  /-- The template ends after an exclamation mark. -/
  | missingConversion
  /-- Something else than a colon follows a conversion. -/
  | badConversion
  /-- The template ends inside a specification. -/
  | unclosedSpecification
deriving DecidableEq, Repr

/-- The message of a brace fault. -/
def BraceFault.message : BraceFault → String
  | .loneOpening => "Single '\x7b' encountered in format string"
  | .loneClosing => "Single '\x7d' encountered in format string"
  | .openingInName => "unexpected '\x7b' in field name"
  | .unclosedName => "expected '\x7d' before end of string"
  | .missingConversion => "end of string while looking for conversion specifier"
  | .badConversion => "expected ':' after conversion specifier"
  | .unclosedSpecification => "unmatched '\x7b' in format spec"

/-- Skips a specification up to the brace that closes it; so many braces are open. -/
def skipSpecification : Nat → List Char → Except BraceFault (List Char)
  | _, [] => .error .unclosedSpecification
  | depth, '{' :: rest => skipSpecification (depth + 1) rest
  | depth, '}' :: rest => if depth ≤ 1 then .ok rest else skipSpecification (depth - 1) rest
  | depth, _ :: rest => skipSpecification depth rest

/-- Skips what follows the exclamation mark after a name. -/
def skipConversion : List Char → Except BraceFault (List Char)
  | [] => .error .missingConversion
  | [_] => .error .unclosedSpecification
  | _ :: '}' :: rest => .ok rest
  | _ :: ':' :: rest => skipSpecification 1 rest
  | _ :: _ :: _ => .error .badConversion

/-- Reads a name up to the brace that closes it; between square brackets no character is special. -/
def readName : Bool → List Char → List Char →
    Except BraceFault (List Char × List Char)
  | _, _, [] => .error .unclosedName
  | true, name, c :: rest => readName (c != ']') (c :: name) rest
  | false, _, '{' :: _ => .error .openingInName
  | false, name, '[' :: rest => readName true ('[' :: name) rest
  | false, name, '}' :: rest => .ok (name.reverse, rest)
  | false, name, ':' :: rest => (skipSpecification 1 rest).map fun rest => (name.reverse, rest)
  | false, name, '!' :: rest => (skipConversion rest).map fun rest => (name.reverse, rest)
  | false, name, c :: rest => readName false (c :: name) rest

/-- The names of a template that is at most so long. -/
def readNames : Nat → List Char → Except BraceFault (List String)
  | 0, _ => .ok []
  | _ + 1, [] => .ok []
  | length + 1, '{' :: '{' :: rest => readNames length rest
  | length + 1, '}' :: '}' :: rest => readNames length rest
  | _ + 1, ['{'] => .error .loneOpening
  | _ + 1, '}' :: _ => .error .loneClosing
  | length + 1, '{' :: rest => do
    let (name, rest) ← readName false [] rest
    return String.ofList name :: (← readNames length rest)
  | length + 1, _ :: rest => readNames length rest

/-- The names between the braces of a template, without the empty ones. -/
def templateNames (template : String) : Except Breakdown (List String) :=
  match readNames template.length template.toList with
  | .ok names => .ok (names.filter (· != ""))
  | .error fault => .error (.illegalValue fault.message)

end ApiAdmission.Definition
