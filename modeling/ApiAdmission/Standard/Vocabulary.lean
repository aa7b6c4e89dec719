import ApiAdmission.Tree.Basic

/-!
# Writing schemas as data

Schemas are ordinary values.  The functions here name their recurring shapes, so that a schema reads
as a list of keywords in the order in which they are checked.
-/

namespace ApiAdmission.Standard

set_option autoImplicit false

/-- A list of texts. -/
def texts (values : List String) : Tree := .list (values.map .text)

/-- A schema with keywords. -/
def schema (keywords : List (String × Tree)) : Tree := .mapping keywords

/-- A keyword that names the kind of a value. -/
def kind (name : String) : String × Tree := ("type", .text name)

/-- A keyword that lists the required attributes. -/
def required (names : List String) : String × Tree := ("required", texts names)

/-- A keyword that gives the schemas of attributes. -/
def properties (entries : List (String × Tree)) : String × Tree := ("properties", .mapping entries)

/-- A keyword that gives the schemas of attributes whose names fit patterns. -/
def patterned (entries : List (String × Tree)) : String × Tree :=
  ("patternProperties", .mapping entries)

/-- A keyword that allows no other attributes. -/
def closed : String × Tree := ("additionalProperties", .boolean false)

/-- A keyword that gives the schema of all other attributes. -/
def others (inner : Tree) : String × Tree := ("additionalProperties", inner)

/-- A keyword that gives the schema of items. -/
def items (inner : Tree) : String × Tree := ("items", inner)

/-- A keyword that lists the allowed texts. -/
def oneOfTexts (values : List String) : String × Tree := ("enum", texts values)

/-- A keyword of which a value must satisfy exactly one schema. -/
def oneOf (alternatives : List Tree) : String × Tree := ("oneOf", .list alternatives)

/-- A keyword of which a value must satisfy some schema. -/
def anyOf (alternatives : List Tree) : String × Tree := ("anyOf", .list alternatives)

/-- A keyword of which a value must satisfy all schemas. -/
def allOf (schemas : List Tree) : String × Tree := ("allOf", .list schemas)

/-- A keyword that demands different items. -/
def distinct : String × Tree := ("uniqueItems", .boolean true)

/-- A reference to a schema. -/
def reference (target : String) : Tree := .mapping [("$ref", .text target)]

/-- A schema for texts. -/
def text : Tree := schema [kind "string"]

/-- A schema for texts that name a format. -/
def textAs (format : String) : Tree := schema [kind "string", ("format", .text format)]

/-- A schema for truth values. -/
def truth : Tree := schema [kind "boolean"]

/-- A schema for truth values that are false unless given. -/
def flag : Tree := schema [kind "boolean", ("default", .boolean false)]

/-- A schema for one of some texts. -/
def word (values : List String) : Tree := schema [kind "string", oneOfTexts values]

/-- A schema for lists. -/
def listOf (inner : Tree) : Tree := schema [kind "array", items inner]

/-- A schema for lists of different items. -/
def setOf (inner : Tree) : Tree := schema [kind "array", items inner, distinct]

/-- A schema for mappings from any names. -/
def mapOf (inner : Tree) : Tree := schema [kind "object", others inner]

/-- A schema for anything. -/
def anything : Tree := .mapping []

end ApiAdmission.Standard
