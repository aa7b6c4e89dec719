import ApiAdmission.Definition.Walk
import ApiAdmission.Resolver.Basic
import ApiAdmission.Standard.FourthDraft
import ApiAdmission.Standard.OpenApi30
import ApiAdmission.Standard.OpenApi31
import ApiAdmission.Standard.Swagger2

/-!
# The structure of a definition

A definition is validated against the schema of its standard, and then the walk through it looks for
what no schema can say.  Each message is given once.  A reference that names nothing ends the walk
with a message of its own; any other breakdown ends the run, and the messages are lost.
-/

namespace ApiAdmission.Definition

set_option autoImplicit false

/-- A standard that a definition follows. -/
inductive Standard where
  | swagger2
  | openApi30
  | openApi31
deriving DecidableEq, Repr

namespace Standard

/-- The standard of a definition of a family with a declared version. -/
def of (family : Family) (version : String) : Standard :=
  if family == .swagger2 then .swagger2
  else if Text.startsWith version "3.0" then .openApi30
  else .openApi31

/-- The family of a standard. -/
def family : Standard → Family
  | .swagger2 => .swagger2
  | .openApi30 | .openApi31 => .openapi3

/-- The schema of a standard. -/
def document : Standard → Tree
  | .swagger2 => Standard.Swagger2.document
  | .openApi30 => Standard.OpenApi30.document
  | .openApi31 => Standard.OpenApi31.document

/-- How the schema of a standard is read. -/
def frame : Standard → Schema.Frame
  | .swagger2 => ⟨.fourth, [(Standard.FourthDraft.address, Standard.FourthDraft.document)]⟩
  | .openApi30 => ⟨.fourth, []⟩
  | .openApi31 => ⟨.december2020, []⟩

/-- The dialect of the schemas inside a definition of a standard. -/
def inner : Standard → Schema.Dialect
  | .swagger2 | .openApi30 => .definition3
  | .openApi31 => .definition31

end Standard

/-- The message about a reference that names nothing. -/
def lostMessage (text : String) : String :=
  "Unable to validate the definition: " ++ text

/-- The messages about the structure of a definition. -/
def structureMessages (standard : Standard) (tree : Tree) : Except Breakdown (List String) := do
  let violations ← Schema.validate standard.frame ⟨standard.document, standard.document⟩ tree
  let (findings, breakdown) := inspect ⟨tree, standard.family, standard.inner⟩
  let words := (violations.flatMap (Schema.describe standard.frame.dialect)) ++
    findings.flatMap Finding.messages
  let messages := words.foldl Reference.addNew []
  match breakdown with
  | none => return messages
  | some (.lostTarget text) => return messages ++ [lostMessage text]
  | some breakdown => throw breakdown

end ApiAdmission.Definition
