import ApiAdmission.Text.Quoted

/-!
# Refusals of the file system

An operation on a file that cannot be carried out is refused for one of a few causes.  A refusal
keeps the path as it was given, and its message shows the number of the cause, its words and the
path as a quoted literal.
-/

namespace ApiAdmission

set_option autoImplicit false

/-- Why the file system refuses an operation. -/
inductive RefusalCause where
  /-- Nothing is stored under the path. -/
  | notFound
  /-- Something is stored under the path already. -/
  | alreadyExists
  /-- Something on the way is no directory. -/
  | notDirectory
  /-- A directory stands where a file is needed. -/
  | isDirectory
  /-- A name or the whole path is too long. -/
  | nameTooLong
  /-- Too many symbolic links have to be followed. -/
  | tooManyLinks
deriving DecidableEq, Repr

namespace RefusalCause

/-- The number of a cause. -/
def number : RefusalCause → Nat
  | .notFound => 2
  | .alreadyExists => 17
  | .notDirectory => 20
  | .isDirectory => 21
  | .nameTooLong => 36
  | .tooManyLinks => 40

/-- The words for a cause. -/
def words : RefusalCause → String
  | .notFound => "No such file or directory"
  | .alreadyExists => "File exists"
  | .notDirectory => "Not a directory"
  | .isDirectory => "Is a directory"
  | .nameTooLong => "File name too long"
  | .tooManyLinks => "Too many levels of symbolic links"

end RefusalCause

/-- A refused operation. -/
structure Refusal where
  /-- Why it is refused. -/
  cause : RefusalCause
  /-- The path as it was given. -/
  path : String
deriving DecidableEq, Repr

/-- The message of a refusal. -/
def Refusal.message (refusal : Refusal) : String :=
  "[Errno " ++ toString refusal.cause.number ++ "] " ++ refusal.cause.words ++ ": " ++
    Text.quote refusal.path

end ApiAdmission
