import ApiAdmission.Reference.Scan
import ApiAdmission.Schema.Relevance
import ApiAdmission.Text.Search
import ApiAdmission.Tree.Literal
import ApiAdmission.Tree.Members

/-!
# Violations in the words of a resolver

A violation becomes one or more messages.  Missing and unexpected attributes are named one by one, a
value of the wrong kind is told by the kind that is expected, and everything else by its own words.
A violation of alternatives is first narrowed down to the one that says best what is wrong.
-/

namespace ApiAdmission.Schema

set_option autoImplicit false

/-- The texts between single quotation marks, where there is something between two of them. -/
def quotedTexts : Nat → List Char → List String
  | 0, _ => []
  | _ + 1, [] => []
  | budget + 1, '\'' :: rest =>
    let inside := rest.takeWhile (· != '\'')
    match inside, rest.drop inside.length with
    | _ :: _, _ :: after => String.ofList inside :: quotedTexts budget after
    | _, _ => quotedTexts budget rest
  | budget + 1, _ :: rest => quotedTexts budget rest

/-- The names that a message about unexpected attributes quotes. -/
def unexpectedNames (message : String) : List String :=
  match quotedTexts message.length message.toList with
  | [] => ["<unknown>"]
  | names => names

/-- The place of a value, as messages name it. -/
def placeText (path : List Step) : String :=
  Text.join "." (path.map Step.text)

/-- The names that a violation says are required: the members of the value of the keyword. -/
def requiredNames (expected : Tree) : List Tree :=
  expected.elements.toOption.getD []

/-- Whether an object has a named attribute. -/
def hasAttribute (subject name : Tree) : Bool :=
  name.text?.any fun key => (subject.get? key).isSome

/-- The messages of a violation that needs no narrowing. -/
def wordsFor (violation : Violation) : List String :=
  let place := placeText violation.path
  let start := if place == "" then "" else place ++ "."
  match violation.keyword with
  | some "required" =>
    ((requiredNames violation.expected).filter fun name =>
      !hasAttribute violation.subject name).map fun name =>
        "attribute " ++ start ++ name.shown ++ " is missing"
  | some "additionalProperties" | some "unevaluatedProperties" =>
    (unexpectedNames violation.message).map fun name =>
      "attribute " ++ start ++ name ++ " is unexpected"
  | some "type" =>
    let target := if place == "" then "document" else place
    if violation.expected == .text "object" then
      ["attribute " ++ target ++ " is malformed, expected type \x60object\x60"]
    else
      ["attribute " ++ target ++ " is not of type \x60" ++ violation.expected.shown ++ "\x60"]
  | _ =>
    [if place == "" then violation.message else place ++ ": " ++ violation.message]

/-- The messages of a violation. -/
def describe (dialect : Dialect) (violation : Violation) : List String :=
  wordsFor (violation.best dialect)

/-- The messages of violations, each once, in the order of first appearance. -/
def describeAll (dialect : Dialect) (violations : List Violation) : List String :=
  (violations.flatMap (describe dialect)).foldl Reference.addNew []

end ApiAdmission.Schema
