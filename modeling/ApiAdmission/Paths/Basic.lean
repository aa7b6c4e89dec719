import ApiAdmission.Family
import ApiAdmission.Text.Search
import ApiAdmission.Tree.Basic

/-!
# Resource paths

The entries of a `paths` mapping whose keys are no extensions are resource paths.  A path declares
a method when the method's key holds a value, and declares it empty when the key holds none.
-/

namespace ApiAdmission

set_option autoImplicit false

/-- A method of a resource path. -/
inductive Method where
  | get
  | put
  | post
  | delete
  | options
  | head
  | patch
  | trace
deriving DecidableEq, Repr

namespace Method

/-- All methods. -/
def all : List Method := [.get, .put, .post, .delete, .options, .head, .patch, .trace]

/-- The key of a method in a path item. -/
def name : Method → String
  | .get => "get"
  | .put => "put"
  | .post => "post"
  | .delete => "delete"
  | .options => "options"
  | .head => "head"
  | .patch => "patch"
  | .trace => "trace"

/-- The name of a method in sentences. -/
def capitalName : Method → String
  | .get => "GET"
  | .put => "PUT"
  | .post => "POST"
  | .delete => "DELETE"
  | .options => "OPTIONS"
  | .head => "HEAD"
  | .patch => "PATCH"
  | .trace => "TRACE"

/-- The method with a given key. -/
def ofName? (name : String) : Option Method :=
  all.find? fun method => method.name == name

/-- The methods by which the gateway tells resources apart, in the order it names them. -/
def dispatched : List Method := [.get, .post, .put, .patch, .delete, .head, .options]

end Method

/-- The methods that path items of a family may declare. -/
def Family.methods : Family → List Method
  | .swagger2 => [.get, .put, .post, .delete, .options, .head, .patch]
  | .openapi3 => Method.all
  | .unknown => []

/-- A resource path with the methods that it declares. -/
structure PathEntry where
  /-- The path. -/
  path : String
  /-- The methods that hold a value. -/
  operations : List Method
  /-- The methods whose key is there but holds nothing. -/
  emptyOperations : List Method
deriving DecidableEq, Repr

namespace PathEntry

/-- The entry of one path item. -/
def ofItem (methods : List Method) (path : String) (item : Tree) : PathEntry where
  path := path
  operations := methods.filter fun method => (item.get? method.name).any (· != .null)
  emptyOperations := methods.filter fun method => item.get? method.name == some .null

/-- Whether an entry declares a method. -/
def declares (entry : PathEntry) (method : Method) : Bool := entry.operations.contains method

end PathEntry

/-- Whether a key is an extension and no resource path. -/
def isExtension (key : String) : Bool := Text.startsWith key "x-"

/-- The resource paths of a `paths` mapping, in its order. -/
def pathEntries (family : Family) (paths : List (String × Tree)) : List PathEntry :=
  (paths.filter fun entry => !isExtension entry.1).map fun entry =>
    PathEntry.ofItem family.methods entry.1 entry.2

/-- The resource paths of a document that may have no `paths` mapping; where there is something to
read, the family must be known. -/
def readPathEntries (family : Family) (paths : Option (List (String × Tree))) :
    Except Breakdown (List PathEntry) :=
  match paths with
  | none | some [] => .ok []
  | some entries =>
    if family == .unknown then .error Family.noRules else .ok (pathEntries family entries)

/-- The `paths` mapping of a tree, if it has one. -/
def pathsOf? (tree : Tree) : Option (List (String × Tree)) :=
  match tree.get? "paths" with
  | some (.mapping entries) => some entries
  | _ => none

end ApiAdmission
