import ApiAdmission.Diagnostic.Basic
import ApiAdmission.Reference.Scan
import ApiAdmission.Resolver.Basic
import ApiAdmission.Text.Quoted

/-!
# From messages to findings

Resolvers only emit prose, so a message is classified by the phrases that it contains.  An ordered
table of rules is searched, and the first rule all of whose markers occur in the message decides the
code.  A rule may also reword the message into something that the reader can act on.

One rewording reads the document again to find the cause.  If that reading fails at a remote
reference, the message is handled by the rule for remote references instead.
-/

namespace ApiAdmission

set_option autoImplicit false

/-- The message about a missing version field of the older family. -/
def swaggerMissingMessage : String := "attribute swagger is missing"

/-- The message about a missing version field of the newer family. -/
def openapiMissingMessage : String := "attribute openapi is missing"

/-- The beginning of a message about a remote reference that cannot be loaded. -/
def remoteReferenceFailure : String := "Unable to load remote reference"

/-- Where the newer family keeps its schemas. -/
def componentsPointer : String := "#/components/schemas/"

/-- Where the older family keeps its schemas. -/
def definitionsPointer : String := "#/definitions/"

/-- What a rewording may need besides the message. -/
structure MessageContext where
  /-- The family of the validator that received the message. -/
  family : Family
  /-- The text of the document. -/
  text : String
  /-- Its value, with the references as they are written. -/
  tree : Option Tree
  /-- Where the text comes from. -/
  location : Option String
  /-- The resolver to read the text again with. -/
  resolver : Resolver
  /-- How grave a message is. -/
  severity : Severity

/-- How a rule rewords a message. -/
inductive Rewording where
  /-- Says that the definition is not one of the given kind. -/
  | wrongFamily (label : String)
  /-- Appends the cause that a lenient reading finds. -/
  | explainMalformed
  /-- Appends the remote references of the document. -/
  | listRemoteReferences
  /-- Points at the definitions instead of the components. -/
  | toDefinitions
  /-- Appends a hint on how references are written. -/
  | referenceHint
deriving DecidableEq, Repr

/-- A message that points at the definitions instead of the components. -/
def pointAtDefinitions (message : String) : String :=
  Text.replaceAll componentsPointer definitionsPointer message

/-- A message with the remote references of a tree. -/
def appendRemoteReferences (tree : Option Tree) (message : String) : String :=
  match (tree.map Reference.remoteReferences).getD [] with
  | [] => message
  | references =>
    message ++
      ". Validate the following remote references and make sure that they are valid and " ++
      "accessible: " ++ Text.join ", " references

/-- A message with a hint on how references are written in a family. -/
def appendReferenceHint (family : Family) (message : String) : String :=
  let pointer := if family == .swagger2 then definitionsPointer else componentsPointer
  message ++ ". Please verify whether the schema object is adhering to the OpenAPI " ++
    "Specification. Make sure that the reference object is of format $ref: '" ++ pointer ++
    "\x7bschemaName\x7d'"

/-- A message with the cause that a lenient reading finds, if it finds one in the document.  A
remote reference that cannot be loaded is no such cause. -/
def withCause (message : String) : Except Failure Tree → Except Failure String
  | .ok _ => .ok message
  | .error (.unreadable cause) | .error (.badReference cause) =>
    .ok (message ++ ". Caused by: " ++ cause)
  | .error failure => .error failure

/-- Rewords a message. -/
def Rewording.apply (rewording : Rewording) (context : MessageContext) (message : String) :
    Consultation String :=
  match rewording with
  | .wrongFamily label => return "Invalid " ++ label ++ " definition found, " ++ message
  | .explainMalformed => do
    let read ← context.resolver.readLeniently context.text context.location
    Consultation.ofFailure (withCause message read)
  | .listRemoteReferences => return appendRemoteReferences context.tree message
  | .toDefinitions => return pointAtDefinitions message
  | .referenceHint => return appendReferenceHint context.family message

/-- One row of the table. -/
structure Rule where
  /-- The code of the findings. -/
  code : Code
  /-- The phrases that a message must contain. -/
  markers : List String
  /-- How the message is reworded. -/
  rewording : Option Rewording
  /-- The families that the rule is for; all of them if absent. -/
  families : Option (List Family)
  /-- What the findings come from. -/
  source : Origin
deriving Repr

namespace Rule

/-- Whether a rule fits a message. -/
def fits (rule : Rule) (message : String) (family : Family) : Bool :=
  rule.families.all (·.contains family) && rule.markers.all (Text.contains message)

/-- The finding that a rule makes of a message. -/
def apply (rule : Rule) (message : String) (context : MessageContext) :
    Consultation Diagnostic := do
  let text ← match rule.rewording with
    | some rewording => rewording.apply context message
    | none => pure message
  return ⟨rule.code, context.severity, text, rule.source⟩

end Rule

/-- The standard table. -/
def standardRules : List Rule := [
  ⟨.swaggerMissing, [swaggerMissingMessage], some (.wrongFamily "Swagger 2.0"), none, .parser⟩,
  ⟨.openapiMissing, [openapiMissingMessage], some (.wrongFamily "OpenAPI 3.x"), none, .parser⟩,
  ⟨.malformed, ["is malformed"], some .explainMalformed, none, .parser⟩,
  ⟨.remoteReference, [remoteReferenceFailure], some .listRemoteReferences, none, .referenceScan⟩,
  ⟨.schemaReference, [componentsPointer], some .toDefinitions, some [.swagger2], .parser⟩,
  ⟨.schemaUnexpected, ["schema is unexpected"], some .referenceHint, none, .parser⟩,
  ⟨.generic, [], none, none, .parser⟩]

/-- The code that says that a document is not of a family at all. -/
def Family.wrongFamilyCode? : Family → Option Code
  | .swagger2 => some .swaggerMissing
  | .openapi3 => some .openapiMissing
  | .unknown => none

/-- The first rule that fits a message. -/
def matchRule (rules : List Rule) (message : String) (family : Family) : Except Breakdown Rule :=
  match rules.find? fun rule => rule.fits message family with
  | some rule => .ok rule
  | none => .error (.noEntry ("no diagnostic rule matches " ++ Text.quote message))

/-- The first rule with a code. -/
def ruleFor (rules : List Rule) (code : Code) : Except Breakdown Rule :=
  match rules.find? fun rule => rule.code == code with
  | some rule => .ok rule
  | none => .error (.noEntry ("no diagnostic rule for " ++ code.name))

/-- The code of a message. -/
def codeOf (rules : List Rule) (message : String) (family : Family) : Except Breakdown Code :=
  (matchRule rules message family).map Rule.code

/-- Whether a message says that the document is not of a family at all. -/
def saysWrongFamily (rules : List Rule) (message : String) (family : Family) :
    Except Breakdown Bool :=
  (codeOf rules message family).map fun code => some code == family.wrongFamilyCode?

/-- Runs one consultation, and another one when the first fails at a remote reference. -/
def orOnRemoteFailure {α : Type} (first second : Consultation α) : Consultation α := fun calls =>
  match first calls with
  | (.error (.badRemoteReference _), calls) => second calls
  | outcome => outcome

/-- The finding that a message becomes. -/
def diagnose (rules : List Rule) (message : String) (context : MessageContext) :
    Consultation Diagnostic := do
  let rule ← Consultation.ofBreakdown (matchRule rules message context.family)
  orOnRemoteFailure (rule.apply message context) do
    let remote ← Consultation.ofBreakdown (ruleFor rules .remoteReference)
    remote.apply message context

end ApiAdmission
