import ApiAdmission.Validation.Family

/-!
# Validating a text

A text is classified and then validated as one of the family that it declares.  If the resolver says
that it is not of that family at all, the other family is tried once: its report then begins with a
note about the first attempt.  If neither family accepts the text as one of its own, the report
holds just the two signals.
-/

namespace ApiAdmission

set_option autoImplicit false

/-- A report that begins with a note on the first attempt. -/
def Report.withNote (report : Report) (first : Diagnostic) : Report :=
  { report with diagnostics := first.withSeverity .info :: report.diagnostics }

/-- The report about a document that neither family accepts as one of its own. -/
def neitherReport (document : Document) (level : Level) (first second : Diagnostic) : Report where
  source := inlineName
  title := document.title
  family := document.family
  level := level.number
  diagnostics := [first.withSeverity .error, second.withSeverity .error]
  verdict := .invalid

/-- The report about a document that its classification blocks. -/
def blockedReport (document : Document) (level : Level) (blocks : List Diagnostic) : Report where
  source := inlineName
  title := document.title
  family := document.family
  level := level.number
  diagnostics := blocks
  verdict := .invalid

/-- Validates a classified document as one of its family or of the other one. -/
def validateDocument (resolver : Resolver) (rules : List Rule) (document : Document)
    (level : Level) : Consultation Report := do
  match ← validateFamily resolver rules document.family document level with
  | .report report => return report
  | .wrongFamily first =>
    match ← validateFamily resolver rules document.family.other document level with
    | .report report => return report.withNote first
    | .wrongFamily second => return neitherReport document level first second

/-- Validates a text; the report calls it by its name, or else by its location. -/
def validateText (resolver : Resolver) (rules : List Rule) (level : Level) (text : String)
    (location name : Option String) : Consultation Report := do
  let (document, blocks) ← Consultation.ofBreakdown (classify text location)
  let report ←
    if blocks.isEmpty then validateDocument resolver rules document level
    else pure (blockedReport document level blocks)
  return { report with source := firstPresent name (firstPresent location inlineName) }

end ApiAdmission
