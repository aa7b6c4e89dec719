import ApiAdmission.Breakdown

/-!
# Families of definitions

A definition belongs to one of two families, told apart by the field that declares its version, or
to none of them.
-/

namespace ApiAdmission

set_option autoImplicit false

/-- A family of definitions. -/
inductive Family where
  | swagger2
  | openapi3
  | unknown
deriving DecidableEq, Repr

namespace Family

/-- All families. -/
def all : List Family := [.swagger2, .openapi3, .unknown]

/-- The name of a family in data. -/
def name : Family → String
  | .swagger2 => "swagger2"
  | .openapi3 => "openapi3"
  | .unknown => "unknown"

/-- The family with a given name. -/
def ofName? (name : String) : Option Family :=
  all.find? fun family => family.name == name

/-- The name of a family in sentences. -/
def label : Family → String
  | .swagger2 => "Swagger"
  | .openapi3 => "OpenAPI"
  | .unknown => "OAS"

/-- The family tried next when a document turns out not to be of this one. -/
def other : Family → Family
  | .swagger2 => .openapi3
  | .openapi3 => .swagger2
  | .unknown => .unknown

/-- What happens when something is asked of a document of no family. -/
def noRules : Breakdown := .missingKey "<Family.UNKNOWN: 'unknown'>"

end Family

end ApiAdmission
