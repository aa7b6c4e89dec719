import ApiAdmission.Breakdown
import ApiAdmission.Document.Encoding
import ApiAdmission.Json.Reader
import ApiAdmission.Yaml.Value

/-!
# Reading a document

A text is read as JSON or as YAML, as its encoding says.  A text that breaks the notation, or whose
root is no mapping where one is needed, is not readable, and the fault says why.  A few faults of
single values are no faults of the document: they break the run down.
-/

namespace ApiAdmission

set_option autoImplicit false

/-- Why a text is no document. -/
inductive ParseFault where
  /-- The text breaks the JSON grammar at an offset. -/
  | brokenJson (text : String) (defect : Json.Defect) (offset : Nat)
  /-- The text breaks the YAML grammar. -/
  | brokenYaml (activity : Option (Yaml.Activity × Yaml.Mark)) (problem : Yaml.Problem)
      (place : Yaml.Mark)
  /-- The text holds a character that no YAML document may hold. -/
  | forbiddenCharacter (code offset : Nat)
  /-- The root is no mapping; a document without a value has an empty root. -/
  | noMapping (root : Tree)
  /-- Reading breaks down. -/
  | breakdown (breakdown : Breakdown)

namespace ParseFault

/-- The message of a fault of the document. -/
def message : ParseFault → String
  | .brokenJson text defect offset => "Invalid JSON: " ++ Json.grammarMessage text defect offset
  | .brokenYaml activity problem place =>
    "Invalid YAML: " ++ Yaml.complaintMessage activity problem place
  | .forbiddenCharacter code offset => "Invalid YAML: " ++ Yaml.forbiddenMessage code offset
  | .noMapping root =>
    "Document must be a JSON/YAML object (got " ++
      (if root == .null then "empty document" else root.kindName) ++ ")"
  | .breakdown _ => ""

end ParseFault

/-- The message about an integer with too many digits. -/
def longIntegerMessage (digits : Nat) : String :=
  "Exceeds the limit (" ++ toString Number.digitLimit ++
    " digits) for integer string conversion: value has " ++ toString digits ++
    " digits; use sys.set_int_max_str_digits() to increase the limit"

/-- What a fault of a YAML scalar is to the run. -/
def Yaml.ValueFault.breakdown : Yaml.ValueFault → Breakdown
  | .integer base text =>
    .illegalValue ("invalid literal for int() with base " ++ toString base ++ ": " ++
      Text.quote text)
  | .longInteger digits => .illegalValue (longIntegerMessage digits)
  | .number text => .illegalValue ("could not convert string to float: " ++ Text.quote text)
  | .emptyNumber => .shortText
  | .truthValue word => .missingKey (Text.quote word)
  | .moment => .noSuchMember
  | .momentRange message => .illegalValue message

/-- Reads a text in a given encoding. -/
def parseAs (encoding : Encoding) (text : String) : Except ParseFault Tree :=
  match encoding with
  | .json => (Json.read text).mapError fun fault =>
    match fault with
    | .grammar defect offset => .brokenJson text defect offset
    | .longInteger digits => .breakdown (.illegalValue (longIntegerMessage digits))
  | .yaml => (Yaml.read text).mapError fun fault =>
    match fault with
    | .forbiddenCharacter code offset => .forbiddenCharacter code offset
    | .complaint activity problem place => .brokenYaml activity problem place
    | .value fault => .breakdown fault.breakdown
    | .endless => .breakdown .endless

/-- Reads a text in the encoding that it shows. -/
def parse (text : String) : Except ParseFault Tree :=
  parseAs (Encoding.detect text) text

/-- Accepts only a mapping. -/
def requireMapping (tree : Tree) : Except ParseFault Tree :=
  if tree.isMapping then .ok tree else .error (.noMapping tree)

/-- Reads a text whose root must be a mapping. -/
def parseMapping (text : String) : Except ParseFault Tree := do
  requireMapping (← parse text)

end ApiAdmission
