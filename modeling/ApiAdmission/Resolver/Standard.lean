import ApiAdmission.Definition.Structure
import ApiAdmission.Reference.Surroundings

/-!
# The resolver of the standards

A definition is rendered in a family when it declares a version of it: its references are replaced,
and its structure is checked.  What goes wrong on the way becomes messages.  A text that declares no
version of the family is not rendered.
-/

namespace ApiAdmission

set_option autoImplicit false

/-- The field that declares the version of a family. -/
def Family.versionField : Family → String
  | .swagger2 => "swagger"
  | _ => "openapi"

/-- Whether a version belongs to a family. -/
def Family.hasVersion (family : Family) (version : String) : Bool :=
  match family with
  | .swagger2 => version == "2.0"
  | _ => Text.startsWith version "3."

/-- How the versions of a family are shown. -/
def Family.versionText : Family → String
  | .swagger2 => "2.0"
  | _ => "3.x"

/-- What a fault of reading is to the run. -/
def ParseFault.failure : ParseFault → Failure
  | .breakdown cause => .breakdown cause
  | fault => .unreadable fault.message

namespace Resolver

/-- A document that is not rendered, for a reason. -/
def unrendered (message : String) : Resolution := ⟨none, [message]⟩

/-- Replaces the references of a definition and checks its structure. -/
def renderTree (surroundings : Reference.Surroundings) (family : Family) (version : String)
    (location : Option String) (tree : Tree) : Except Failure Resolution := do
  let (outcome, messages) := Reference.resolveCollecting surroundings location tree
  let resolved ← outcome
  let more ← (Definition.structureMessages (.of family version) resolved).mapError .breakdown
  return ⟨some ⟨family, version, resolved⟩, messages ++ more⟩

/-- Renders a text in a family. -/
def renderText (surroundings : Reference.Surroundings) (family : Family) (text : String)
    (location : Option String) : Except Failure Resolution :=
  let field := family.versionField
  match parseMapping text with
  | .error (.breakdown breakdown) => .error (.breakdown breakdown)
  | .error fault => .ok (unrendered ("Unable to parse document content: " ++ fault.message))
  | .ok tree =>
    match tree.get? field with
    | none => .ok (unrendered ("attribute " ++ field ++ " is missing"))
    | some declared =>
      let version := declared.shown
      if family.hasVersion version then renderTree surroundings family version location tree
      else
        .ok (unrendered ("attribute " ++ field ++ " is not of value \x60" ++ family.versionText ++
          "\x60 (found \x60" ++ version ++ "\x60)"))

/-- Reads a text and replaces its references strictly. -/
def readStrictly (surroundings : Reference.Surroundings) (text : String)
    (location : Option String) : Except Failure Tree := do
  Reference.resolveStrictly surroundings location
    (← (parseMapping text).mapError ParseFault.failure)

/-- The resolver that checks definitions against their standards. -/
def standard (surroundings : Reference.Surroundings) : Resolver where
  resolveSwagger2 := renderText surroundings .swagger2
  resolveOpenapi3 := renderText surroundings .openapi3
  parseLenient := readStrictly surroundings

end Resolver

end ApiAdmission
