/-!
# What is printed

A program prints to two channels: the standard output takes what it is asked for, and the standard
error takes what it has to say about itself.
-/

namespace ApiAdmission

set_option autoImplicit false

/-- What is printed to the two channels. -/
structure Printed where
  /-- What the standard output takes. -/
  output : String
  /-- What the standard error takes. -/
  errors : String
deriving DecidableEq, Repr

namespace Printed

/-- Nothing. -/
def nothing : Printed := ⟨"", ""⟩

/-- A text to the standard output, as a line. -/
def toOutput (text : String) : Printed := ⟨text ++ "\n", ""⟩

/-- A text to the standard error, as a line. -/
def toErrors (text : String) : Printed := ⟨"", text ++ "\n"⟩

/-- What is printed one after the other. -/
def followedBy (first second : Printed) : Printed :=
  ⟨first.output ++ second.output, first.errors ++ second.errors⟩

/-- Texts to the standard output, each as a line. -/
def linesToOutput (texts : List String) : Printed :=
  ⟨String.join (texts.map (· ++ "\n")), ""⟩

end Printed

end ApiAdmission
