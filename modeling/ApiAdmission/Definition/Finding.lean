import ApiAdmission.Schema.Describe

/-!
# What the checks of a definition find
-/

namespace ApiAdmission.Definition

set_option autoImplicit false

/-- Something that is wrong with a definition whose parts have the right form. -/
inductive Finding where
  /-- Two operations share an identifier. -/
  | repeatedOperation (identifier : Tree) (method template : String)
  /-- Two parameters share name and place. -/
  | repeatedParameter (name : Tree)
  /-- No parameter fills in a name of a path template. -/
  | unfilledName (name method template : String)
  /-- A combined schema requires properties that no part of it defines. -/
  | undefinedProperties (names : List Tree)
  /-- A default value violates its own schema. -/
  | badDefault (dialect : Schema.Dialect) (violation : Schema.Violation)

namespace Finding

/-- The messages of a finding. -/
def messages : Finding → List String
  | .repeatedOperation identifier method template =>
    ["Operation ID '" ++ identifier.shown ++ "' for '" ++ method ++ "' in '" ++ template ++
      "' is not unique"]
  | .repeatedParameter name => ["Duplicate parameter \x60" ++ name.shown ++ "\x60"]
  | .unfilledName name method template =>
    ["Path parameter '" ++ name ++ "' for '" ++ method ++ "' operation in '" ++ template ++
      "' was not resolved"]
  | .undefinedProperties names =>
    ["Required list has not defined properties: " ++ (Tree.list names).literal]
  | .badDefault dialect violation => Schema.describe dialect violation

end Finding

end ApiAdmission.Definition
