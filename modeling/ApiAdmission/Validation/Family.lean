import ApiAdmission.Diagnostic.Rule
import ApiAdmission.Document.Classify
import ApiAdmission.Paths.Check
import ApiAdmission.Report.Basic

/-!
# Validating a document as one of a family

The resolver renders the document, and its messages become findings as the level says.  At the
lowest level only the rendered document counts; above it messages make a document valid with
warnings, or malformed when none could be rendered; at the highest level a violation on the resource
paths makes it malformed too.

A message that says the document is not of the family at all ends the validation before any report.
-/

namespace ApiAdmission

set_option autoImplicit false

/-- The outcome of validating a document as one of a family. -/
inductive FamilyOutcome where
  /-- The document is of the family, and this is known about it. -/
  | report (report : Report)
  /-- The document is not of the family, and this says so. -/
  | wrongFamily (signal : Diagnostic)

/-- The first text that is present and not empty. -/
def firstPresent (first : Option String) (otherwise : String) : String :=
  match first with
  | none | some "" => otherwise
  | some text => text

/-- The signal among messages that the document is not of the family, if there is one. -/
def wrongFamilySignal (rules : List Rule) (context : MessageContext) :
    List String → Consultation (Option Diagnostic)
  | [] => return none
  | message :: rest => do
    if ← Consultation.ofBreakdown (saysWrongFamily rules message context.family) then
      return some (← diagnose rules message context)
    else wrongFamilySignal rules context rest

/-- The finding about a document that could not be rendered, without any message why. -/
def notRendered (level : Level) : Diagnostic :=
  ⟨.generic, level.messageSeverity, "unable to render the definition", .parser⟩

/-- The verdict that the resolver alone gives, and a finding that goes with it. -/
def resolverVerdict (level : Level) (resolution : Resolution) : Verdict × List Diagnostic :=
  let rendered := resolution.document.isSome
  if !level.reportsMessages then (if rendered then .valid else .malformed, [])
  else if !resolution.messages.isEmpty then
    (if rendered then .validWithWarnings else .malformed, [])
  else if !rendered then (.malformed, [notRendered level])
  else (.valid, [])

/-- What the resource paths of a rendered document violate at a level. -/
def pathViolations (level : Level) (family : Family) (resolution : Resolution) :
    List Diagnostic :=
  match resolution.document with
  | some document =>
    if level.checksPaths then
      checkPaths (pathEntries family ((pathsOf? document.tree).getD []))
    else []
  | none => []

/-- What a message of the resolver is classified with at a level. -/
def contextOf (resolver : Resolver) (family : Family) (document : Document) (level : Level) :
    MessageContext :=
  ⟨family, document.text, document.tree, document.location, resolver, level.messageSeverity⟩

/-- What the messages of the resolver become at a level. -/
def messageFindings (rules : List Rule) (context : MessageContext) (level : Level)
    (messages : List String) : Consultation (List Diagnostic) :=
  if level.reportsMessages then messages.mapM fun message => diagnose rules message context
  else pure []

/-- The report about a document of a family, from what the resolver gave for it and from the
findings that the messages became. -/
def familyReport (family : Family) (document : Document) (level : Level)
    (resolution : Resolution) (findings : List Diagnostic) : Report :=
  let (verdict, extra) := resolverVerdict level resolution
  let violations := pathViolations level family resolution
  { source := firstPresent document.location inlineName
    title := document.title
    family := family
    level := level.number
    diagnostics := findings ++ extra ++ violations
    verdict := if violations.isEmpty then verdict else .malformed }

/-- Validates a document as one of a family. -/
def validateFamily (resolver : Resolver) (rules : List Rule) (family : Family)
    (document : Document) (level : Level) : Consultation FamilyOutcome := do
  let resolution ← resolver.render family document.text document.location
  let context := contextOf resolver family document level
  match ← wrongFamilySignal rules context resolution.messages with
  | some signal => return .wrongFamily signal
  | none =>
    let findings ← messageFindings rules context level resolution.messages
    return .report (familyReport family document level resolution findings)

end ApiAdmission
