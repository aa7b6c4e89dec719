/-!
# Foreseen faults

A fault that the program foresees ends a run with a message and an exit code of its own.  The kinds
of faults are ordered from the particular to the general.
-/

namespace ApiAdmission

set_option autoImplicit false

/-- A kind of fault. -/
inductive FaultKind where
  /-- Any foreseen fault. -/
  | foreseen
  /-- Settings cannot be used. -/
  | settings
  /-- A text is no document. -/
  | document
  /-- A reference has no target. -/
  | reference
  /-- A remote reference cannot be loaded. -/
  | remoteReference
  /-- A document belongs to another family. -/
  | wrongFamily
deriving DecidableEq, Repr

/-- A kind with the more general ones behind it. -/
def FaultKind.withGeneral : FaultKind → List FaultKind
  | .foreseen => [.foreseen]
  | .remoteReference => [.remoteReference, .reference, .foreseen]
  | kind => [kind, .foreseen]

/-- The exit code of a run that fails. -/
def failureExit : Nat := 1

/-- A foreseen fault. -/
structure Fault where
  /-- Its kind. -/
  kind : FaultKind
  /-- Its message. -/
  message : String
  /-- The exit code of a run that it ends. -/
  exitCode : Int
deriving DecidableEq, Repr

/-- A fault with the exit code that is asked for, or else that of a run that fails. -/
def Fault.of (kind : FaultKind) (message : String) (exitCode : Option Int) : Fault :=
  ⟨kind, message, exitCode.getD failureExit⟩

end ApiAdmission
