import ApiAdmission.Standard.Vocabulary

/-!
# The schema of schemas

The fourth draft of the schema language describes its own schemas by this schema.
-/

namespace ApiAdmission.Standard.FourthDraft

set_option autoImplicit false

/-- The address of the schema. -/
def address : String := "http://json-schema.org/draft-04/schema"

/-- A definition of this schema. -/
def definition (name : String) : Tree := reference ("#/definitions/" ++ name)

/-- Any schema. -/
def self : Tree := reference "#"

/-- Named schemas. -/
def schemas : Tree :=
  schema [kind "object", others self, ("default", .mapping [])]

/-- The definitions. -/
def definitions : List (String × Tree) := [
  ("schemaArray", schema [kind "array", ("minItems", .integer 1), items self]),
  ("positiveInteger", schema [kind "integer", ("minimum", .integer 0)]),
  ("positiveIntegerDefault0",
    schema [allOf [definition "positiveInteger", schema [("default", .integer 0)]]]),
  ("simpleTypes",
    schema [oneOfTexts ["array", "boolean", "integer", "null", "number", "object", "string"]]),
  ("stringArray", schema [kind "array", items text, ("minItems", .integer 1), distinct])]

/-- The attributes. -/
def attributes : List (String × Tree) := [
  ("id", text),
  ("$schema", text),
  ("title", text),
  ("description", text),
  ("default", anything),
  ("multipleOf",
    schema [kind "number", ("minimum", .integer 0), ("exclusiveMinimum", .boolean true)]),
  ("maximum", schema [kind "number"]),
  ("exclusiveMaximum", truth),
  ("minimum", schema [kind "number"]),
  ("exclusiveMinimum", truth),
  ("maxLength", definition "positiveInteger"),
  ("minLength", definition "positiveIntegerDefault0"),
  ("pattern", textAs "regex"),
  ("additionalItems", schema [anyOf [truth, self], ("default", .mapping [])]),
  ("items", schema [anyOf [self, definition "schemaArray"], ("default", .mapping [])]),
  ("maxItems", definition "positiveInteger"),
  ("minItems", definition "positiveIntegerDefault0"),
  ("uniqueItems", flag),
  ("maxProperties", definition "positiveInteger"),
  ("minProperties", definition "positiveIntegerDefault0"),
  ("required", definition "stringArray"),
  ("additionalProperties", schema [anyOf [truth, self], ("default", .mapping [])]),
  ("definitions", schemas),
  ("properties", schemas),
  ("patternProperties", schemas),
  ("dependencies",
    schema [kind "object", others (schema [anyOf [self, definition "stringArray"]])]),
  ("enum", schema [kind "array", ("minItems", .integer 1), distinct]),
  ("type", schema [anyOf [definition "simpleTypes",
    schema [kind "array", items (definition "simpleTypes"), ("minItems", .integer 1), distinct]]]),
  ("format", text),
  ("allOf", definition "schemaArray"),
  ("anyOf", definition "schemaArray"),
  ("oneOf", definition "schemaArray"),
  ("not", self)]

/-- The schema. -/
def document : Tree := schema [
  ("id", .text (address ++ "#")),
  ("$schema", .text (address ++ "#")),
  ("description", .text "Core schema meta-schema"),
  ("definitions", .mapping definitions),
  kind "object",
  properties attributes,
  ("dependencies", .mapping [
    ("exclusiveMaximum", texts ["maximum"]), ("exclusiveMinimum", texts ["minimum"])]),
  ("default", .mapping [])]

end ApiAdmission.Standard.FourthDraft
