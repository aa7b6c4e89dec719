import ApiAdmission.Diagnostic.Basic
import ApiAdmission.Paths.Basic

/-!
# Checks of resource paths

Three rules that hold for both families: there is at least one resource path; every one declares a
method, and none of its methods is empty; and no two paths that differ only by a slash at the end
declare a common method, because the gateway deploys both as one resource.
-/

namespace ApiAdmission

set_option autoImplicit false

/-- A violation of a rule on resource paths. -/
def violation (code : Code) (message : String) : Diagnostic :=
  ⟨code, .error, message, .semanticCheck⟩

/-- Whether there is a resource path. -/
def checkEmptyPaths (entries : List PathEntry) : List Diagnostic :=
  if entries.isEmpty then [violation .emptyPaths "resource paths cannot be empty"] else []

/-- The violation of a path without methods. -/
def emptyOperations (path : String) : Diagnostic :=
  violation .emptyOperations ("operations cannot be empty for resource path \x60" ++ path ++ "\x60")

/-- The violation of a path with an empty method. -/
def nullOperation (path : String) (method : Method) : Diagnostic :=
  violation .nullOperation ("operation object cannot be empty for method \x60" ++ method.name ++
    "\x60 in path \x60" ++ path ++ "\x60")

/-- What the methods of one path violate. -/
def checkEntry (entry : PathEntry) : List Diagnostic :=
  (if entry.operations.isEmpty then [emptyOperations entry.path] else []) ++
    entry.emptyOperations.map (nullOperation entry.path)

/-- What the methods of all paths violate. -/
def checkOperations (entries : List PathEntry) : List Diagnostic :=
  entries.flatMap checkEntry

/-- A path without the slash at its end, if it ends with one. -/
def withoutSlash? (path : String) : Option String :=
  match path.toList.reverse with
  | '/' :: rest => some (String.ofList rest.reverse)
  | _ => none

/-- The dispatched methods that two paths have in common. -/
def commonMethods (first second : PathEntry) : List Method :=
  Method.dispatched.filter fun method => first.declares method && second.declares method

/-- The violation of two paths with common methods. -/
def duplicatePath (sibling path : String) (methods : List Method) : Diagnostic :=
  violation .duplicatePath ("resource paths \x60" ++ sibling ++ "\x60 and \x60" ++ path ++
    "\x60 both declare " ++ Text.join ", " (methods.map Method.capitalName) ++
    "; paths differing only by a trailing slash are deployed as the same resource")

/-- The conflict of one path with its sibling without the slash, if there is one. -/
def conflict? (entries : List PathEntry) (entry : PathEntry) : Option Diagnostic := do
  let stripped ← withoutSlash? entry.path
  let sibling ← entries.find? fun other => other.path == stripped
  let common := commonMethods entry sibling
  if common.isEmpty then none else some (duplicatePath sibling.path entry.path common)

/-- The first conflict of two paths that differ only by a slash at the end. -/
def findDuplicatePath (entries : List PathEntry) : Option Diagnostic :=
  entries.findSome? (conflict? entries)

/-- All violations of the rules on resource paths. -/
def checkPaths (entries : List PathEntry) : List Diagnostic :=
  checkEmptyPaths entries ++ checkOperations entries ++ (findDuplicatePath entries).toList

end ApiAdmission
