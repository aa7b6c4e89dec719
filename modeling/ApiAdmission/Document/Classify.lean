import ApiAdmission.Diagnostic.Basic
import ApiAdmission.Document.Parse
import ApiAdmission.Family
import ApiAdmission.Tree.Literal

/-!
# Classifying a document

Before anything else a text is classified: its encoding, its family and its title, whatever the
level of validation.  A text that cannot be read, belongs to no family or has no title is blocked
by exactly one finding, and no validation of a family follows.
-/

namespace ApiAdmission

set_option autoImplicit false

/-- A document after classification.  The tree keeps the references as they are written; it is
absent when the text cannot be read. -/
structure Document where
  /-- The text. -/
  text : String
  /-- How the text is written. -/
  encoding : Encoding
  /-- The family that the text declares. -/
  family : Family
  /-- The title. -/
  title : Option String
  /-- Where the text comes from. -/
  location : Option String
  /-- The value of the text. -/
  tree : Option Tree

/-- Whether a version is one of the third generation. -/
def isThirdGeneration (version : String) : Bool := Text.startsWith version "3."

/-- The family that a tree declares: the newer one if its version says so, and the older one if its
field is present at all. -/
def detectFamily (tree : Tree) : Family :=
  if (tree.get? "openapi").any fun version => isThirdGeneration version.shown then .openapi3
  else if (tree.get? "swagger").isSome then .swagger2
  else .unknown

/-- The title of a tree: the text of its `info.title`, unless that is blank or `null`. -/
def readTitle (tree : Tree) : Option String :=
  match (tree.get? "info").bind fun info => info.get? "title" with
  | none | some .null => none
  | some value =>
    let title := value.shown
    if Text.strip title == "" || title == "null" then none else some title

/-- Classifies a text: the document and what blocks it, or a breakdown. -/
def classify (text : String) (location : Option String) :
    Except Breakdown (Document × List Diagnostic) :=
  let encoding := Encoding.detect text
  match parseMapping text with
  | .error (.breakdown breakdown) => .error breakdown
  | .error fault =>
    .ok (⟨text, encoding, .unknown, none, location, none⟩,
      [.blocking .documentUnparsable ("unparsable document: " ++ fault.message)])
  | .ok tree =>
    let family := detectFamily tree
    let title := readTitle tree
    let blocks :=
      if family == .unknown then
        [.blocking .familyUnrecognized "neither swagger nor openapi discriminator field present"]
      else if title.isNone then
        [.blocking .titleMissing
          (family.label ++ " definition must declare a non-empty info.title")]
      else []
    .ok (⟨text, encoding, family, title, location, some tree⟩, blocks)

end ApiAdmission
