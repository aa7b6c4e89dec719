import ApiAdmission.World.Refusal
import ApiAdmission.World.Utf8

/-!
# Breakdowns

Most faults of a document become findings about it.  A breakdown is a fault that no layer expects:
it passes through every one of them and ends the run.  The constructors name the causes; those of
them that carry a message of their own show it.
-/

namespace ApiAdmission

set_option autoImplicit false

/-- A fault that ends the run. -/
inductive Breakdown where
  /-- A value is of the right kind but cannot be used; the message says why. -/
  | illegalValue (message : String)
  /-- Bytes that have to be text are no UTF-8. -/
  | undecodable (fault : Utf8.Fault)
  /-- A key has to be present and is not; it is shown as a literal. -/
  | missingKey (shown : String)
  /-- A table has no entry that fits. -/
  | noEntry (message : String)
  /-- A text is too short for the character asked for. -/
  | shortText
  /-- The file system refuses an operation. -/
  | refused (refusal : Refusal)
  /-- An ignore pattern means nothing. -/
  | meaninglessPattern (pattern : String)
  /-- An operation meets a value of a kind that does not support it. -/
  | wrongKind
  /-- A value lacks a member that all values at its place should have. -/
  | noSuchMember
  /-- A value or a reference contains itself. -/
  | endless
  /-- A path cannot be made absolute. -/
  | lostPath
  /-- A closing tag closes nothing. -/
  | strayTag
  /-- A schema names a kind of value that does not exist. -/
  | unknownKind
  /-- A text pattern breaks its notation. -/
  | brokenPattern
  /-- A reference in a definition or a schema names nothing; the message says what is missing. -/
  | lostTarget (message : String)
deriving DecidableEq, Repr

namespace Breakdown

/-- The message of a breakdown, where it shows one. -/
def message? : Breakdown → Option String
  | .illegalValue message => some message
  | .undecodable fault => some fault.message
  | .missingKey shown => some shown
  | .noEntry message => some message
  | .shortText => some "string index out of range"
  | .refused refusal => some refusal.message
  | .meaninglessPattern pattern => some ("Invalid git pattern: " ++ Text.quote pattern)
  | .wrongKind | .noSuchMember | .endless | .lostPath | .strayTag | .unknownKind |
    .brokenPattern | .lostTarget _ => none

end Breakdown

end ApiAdmission
