import ApiAdmission.Text.Blank

/-!
# The encoding of a document

A document is JSON when its first character that is not a blank is an opening brace, and YAML
otherwise.  The rule looks at nothing else, so an input and a referenced file are treated alike.
-/

namespace ApiAdmission

set_option autoImplicit false

/-- How a document is written. -/
inductive Encoding where
  | json
  | yaml
deriving DecidableEq, Repr

namespace Encoding

/-- The name of an encoding. -/
def name : Encoding → String
  | .json => "json"
  | .yaml => "yaml"

/-- The encoding with a given name. -/
def ofName? (name : String) : Option Encoding :=
  [Encoding.json, Encoding.yaml].find? fun encoding => encoding.name == name

/-- The encoding of a text. -/
def detect (text : String) : Encoding :=
  match Text.trimStart Text.isBlank text.toList with
  | '\x7b' :: _ => .json
  | _ => .yaml

end Encoding

end ApiAdmission
