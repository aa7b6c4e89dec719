import ApiAdmission.Standard.FourthDraft

/-!
# Definitions of the older family

The published schema for definitions of version 2.0.
-/

namespace ApiAdmission.Standard.Swagger2

set_option autoImplicit false

/-- A definition of this schema. -/
def definition (name : String) : Tree := reference ("#/definitions/" ++ name)

/-- Extensions are allowed. -/
def extensions : String × Tree := patterned [("^x-", definition "vendorExtension")]

/-- A part of the schema of schemas. -/
def fromDraft (pointer : String) : Tree := reference (FourthDraft.address ++ "#" ++ pointer)

/-- A part of the schema of schemas for an attribute of the same name. -/
def drafted (name : String) : String × Tree := (name, fromDraft ("/properties/" ++ name))

/-- An attribute with a definition of the same name. -/
def same (name : String) : String × Tree := (name, definition name)

/-- The attributes that bound a simple value. -/
def bounds : List (String × Tree) :=
  ["default", "maximum", "exclusiveMaximum", "minimum", "exclusiveMinimum", "maxLength",
    "minLength", "pattern", "maxItems", "minItems", "uniqueItems", "enum", "multipleOf"].map same

/-! ## Documents -/

/-- General information. -/
def info : Tree := schema [
  kind "object",
  required ["version", "title"],
  closed,
  extensions,
  properties [
    ("title", text),
    ("version", text),
    ("description", text),
    ("termsOfService", text),
    same "contact",
    same "license"]]

/-- The owners. -/
def contact : Tree := schema [
  kind "object",
  closed,
  properties [("name", text), ("url", textAs "uri"), ("email", textAs "email")],
  extensions]

/-- The license. -/
def license : Tree := schema [
  kind "object",
  required ["name"],
  closed,
  properties [("name", text), ("url", textAs "uri")],
  extensions]

/-- The resource paths. -/
def paths : Tree := schema [
  kind "object",
  patterned [("^x-", definition "vendorExtension"), ("^/", definition "pathItem")],
  closed]

/-- A pointer to documentation elsewhere. -/
def externalDocs : Tree := schema [
  kind "object",
  closed,
  required ["url"],
  properties [("description", text), ("url", textAs "uri")],
  extensions]

/-! ## Operations -/

/-- An operation. -/
def operation : Tree := schema [
  kind "object",
  required ["responses"],
  closed,
  extensions,
  properties [
    ("tags", setOf text),
    ("summary", text),
    ("description", text),
    same "externalDocs",
    ("operationId", text),
    ("produces", schema [allOf [definition "mediaTypeList"]]),
    ("consumes", schema [allOf [definition "mediaTypeList"]]),
    ("parameters", definition "parametersList"),
    same "responses",
    ("schemes", definition "schemesList"),
    ("deprecated", flag),
    same "security"]]

/-- A path item. -/
def pathItem : Tree := schema [
  kind "object",
  closed,
  extensions,
  properties ([("$ref", text)] ++
    (["get", "put", "post", "delete", "options", "head", "patch"].map fun method =>
      (method, definition "operation")) ++
    [("parameters", definition "parametersList")])]

/-- The schema for nothing but extensions. -/
def onlyExtensions : Tree := schema [kind "object", closed, extensions]

/-- The responses of an operation. -/
def responses : Tree := schema [
  kind "object",
  ("minProperties", .integer 1),
  closed,
  patterned [
    ("^([0-9]{3})$|^(default)$", definition "responseValue"),
    ("^x-", definition "vendorExtension")],
  ("not", onlyExtensions)]

/-- A response. -/
def response : Tree := schema [
  kind "object",
  required ["description"],
  properties [
    ("description", text),
    ("schema", schema [oneOf [definition "schema", definition "fileSchema"]]),
    same "headers",
    same "examples"],
  closed,
  extensions]

/-- A header. -/
def header : Tree := schema [
  kind "object",
  closed,
  required ["type"],
  properties ([
    ("type", word ["string", "number", "integer", "boolean", "array"]),
    ("format", text),
    ("items", definition "primitivesItems"),
    same "collectionFormat"] ++ bounds ++ [("description", text)]),
  extensions]

/-! ## Parameters -/

/-- A parameter in the body. -/
def bodyParameter : Tree := schema [
  kind "object",
  required ["name", "in", "schema"],
  extensions,
  properties [
    ("description", text),
    ("name", text),
    ("in", word ["body"]),
    ("required", flag),
    same "schema"],
  closed]

/-- The attributes of a parameter that is not in the body. -/
def simpleParameter (needed : Tree) (place : String) (allowsEmpty : Bool) (kinds : List String)
    (collection : String) : String × Tree :=
  properties ([
    ("required", needed),
    ("in", word [place]),
    ("description", text),
    ("name", text)] ++
    (if allowsEmpty then [("allowEmptyValue", flag)] else []) ++ [
    ("type", word kinds),
    ("format", text),
    ("items", definition "primitivesItems"),
    ("collectionFormat", definition collection)] ++ bounds)

/-- The kinds of a parameter that is not in the body. -/
def simpleKinds : List String := ["string", "number", "boolean", "integer", "array"]

/-- A parameter in a header. -/
def headerParameter : Tree := schema [
  closed, extensions, simpleParameter flag "header" false simpleKinds "collectionFormat"]

/-- A parameter in the query. -/
def queryParameter : Tree := schema [
  closed, extensions, simpleParameter flag "query" true simpleKinds "collectionFormatWithMulti"]

/-- A parameter in a form. -/
def formParameter : Tree := schema [
  closed, extensions,
  simpleParameter flag "formData" true (simpleKinds ++ ["file"]) "collectionFormatWithMulti"]

/-- A parameter in the path. -/
def pathParameter : Tree := schema [
  closed, extensions, required ["required"],
  simpleParameter (schema [kind "boolean", ("enum", .list [.boolean true])]) "path" false
    simpleKinds "collectionFormat"]

/-- A parameter that is not in the body. -/
def nonBodyParameter : Tree := schema [
  kind "object",
  required ["name", "in", "type"],
  oneOf (["headerParameterSubSchema", "formDataParameterSubSchema", "queryParameterSubSchema",
    "pathParameterSubSchema"].map definition)]

/-! ## Schema objects -/

/-- A schema or several. -/
def schemaOrList : Tree := schema [
  anyOf [definition "schema",
    schema [kind "array", ("minItems", .integer 1), items (definition "schema")]],
  ("default", .mapping [])]

/-- A schema object. -/
def schemaObject : Tree := schema [
  kind "object",
  extensions,
  properties [
    ("$ref", text),
    ("format", text),
    drafted "title",
    drafted "description",
    drafted "default",
    drafted "multipleOf",
    drafted "maximum",
    drafted "exclusiveMaximum",
    drafted "minimum",
    drafted "exclusiveMinimum",
    ("maxLength", fromDraft "/definitions/positiveInteger"),
    ("minLength", fromDraft "/definitions/positiveIntegerDefault0"),
    drafted "pattern",
    ("maxItems", fromDraft "/definitions/positiveInteger"),
    ("minItems", fromDraft "/definitions/positiveIntegerDefault0"),
    drafted "uniqueItems",
    ("maxProperties", fromDraft "/definitions/positiveInteger"),
    ("minProperties", fromDraft "/definitions/positiveIntegerDefault0"),
    ("required", fromDraft "/definitions/stringArray"),
    drafted "enum",
    ("additionalProperties",
      schema [anyOf [definition "schema", truth], ("default", .mapping [])]),
    drafted "type",
    ("items", schemaOrList),
    ("allOf", schema [kind "array", ("minItems", .integer 1), items (definition "schema")]),
    ("properties",
      schema [kind "object", others (definition "schema"), ("default", .mapping [])]),
    ("discriminator", text),
    ("readOnly", flag),
    same "xml",
    same "externalDocs",
    ("example", anything)],
  closed]

/-- A schema object for a file. -/
def fileSchema : Tree := schema [
  kind "object",
  extensions,
  required ["type"],
  properties [
    ("format", text),
    drafted "title",
    drafted "description",
    drafted "default",
    ("required", fromDraft "/definitions/stringArray"),
    ("type", word ["file"]),
    ("readOnly", flag),
    same "externalDocs",
    ("example", anything)],
  closed]

/-- The items of a simple list. -/
def primitivesItems : Tree := schema [
  kind "object",
  closed,
  properties ([
    ("type", word ["string", "number", "integer", "boolean", "array"]),
    ("format", text),
    ("items", definition "primitivesItems"),
    same "collectionFormat"] ++ bounds),
  extensions]

/-- How a schema object is written in other notations. -/
def xml : Tree := schema [
  kind "object",
  closed,
  properties [
    ("name", text), ("namespace", text), ("prefix", text), ("attribute", flag), ("wrapped", flag)],
  extensions]

/-- A tag. -/
def tag : Tree := schema [
  kind "object",
  closed,
  required ["name"],
  properties [("name", text), ("description", text), same "externalDocs"],
  extensions]

/-! ## Security -/

/-- A way to sign in with the given attributes, all of them required but for a description. -/
def signIn (needed : List String) (attributes : List (String × Tree)) : Tree := schema [
  kind "object",
  closed,
  required needed,
  properties (attributes ++ [("description", text)]),
  extensions]

/-- A way to sign in through a flow. -/
def flowSignIn (flow : String) (addresses : List String) : Tree :=
  signIn (["type", "flow"] ++ addresses) ([
    ("type", word ["oauth2"]),
    ("flow", word [flow]),
    ("scopes", definition "oauth2Scopes")] ++
    addresses.map fun address => (address, textAs "uri"))

/-- The ways to sign in. -/
def securityDefinitions : Tree := schema [
  kind "object",
  others (schema [oneOf (["basicAuthenticationSecurity", "apiKeySecurity",
    "oauth2ImplicitSecurity", "oauth2PasswordSecurity", "oauth2ApplicationSecurity",
    "oauth2AccessCodeSecurity"].map definition)])]

/-! ## The schema -/

/-- The definitions that stand for a part of the schema of schemas under the same name. -/
def borrowed : List (String × Tree) :=
  ["title", "description", "default", "multipleOf", "maximum", "exclusiveMaximum", "minimum",
    "exclusiveMinimum"].map drafted ++
  [("maxLength", fromDraft "/definitions/positiveInteger"),
    ("minLength", fromDraft "/definitions/positiveIntegerDefault0"),
    drafted "pattern",
    ("maxItems", fromDraft "/definitions/positiveInteger"),
    ("minItems", fromDraft "/definitions/positiveIntegerDefault0"),
    drafted "uniqueItems",
    drafted "enum"]

/-- The definitions. -/
def definitions : List (String × Tree) := [
  ("info", info),
  ("contact", contact),
  ("license", license),
  ("paths", paths),
  ("definitions", mapOf (definition "schema")),
  ("parameterDefinitions", mapOf (definition "parameter")),
  ("responseDefinitions", mapOf (definition "response")),
  ("externalDocs", externalDocs),
  ("examples", mapOf (.boolean true)),
  ("mimeType", textAs "mime-type"),
  ("operation", operation),
  ("pathItem", pathItem),
  ("responses", responses),
  ("responseValue", schema [oneOf [definition "response", definition "jsonReference"]]),
  ("response", response),
  ("headers", mapOf (definition "header")),
  ("header", header),
  ("vendorExtension", schema [others (.boolean true), ("additionalItems", .boolean true)]),
  ("bodyParameter", bodyParameter),
  ("headerParameterSubSchema", headerParameter),
  ("queryParameterSubSchema", queryParameter),
  ("formDataParameterSubSchema", formParameter),
  ("pathParameterSubSchema", pathParameter),
  ("nonBodyParameter", nonBodyParameter),
  ("parameter", schema [oneOf [definition "bodyParameter", definition "nonBodyParameter"]]),
  ("schema", schemaObject),
  ("fileSchema", fileSchema),
  ("primitivesItems", primitivesItems),
  ("security", setOf (definition "securityRequirement")),
  ("securityRequirement", mapOf (setOf text)),
  ("xml", xml),
  ("tag", tag),
  ("securityDefinitions", securityDefinitions),
  ("basicAuthenticationSecurity", signIn ["type"] [("type", word ["basic"])]),
  ("apiKeySecurity", signIn ["type", "name", "in"]
    [("type", word ["apiKey"]), ("name", text), ("in", word ["header", "query"])]),
  ("oauth2ImplicitSecurity", flowSignIn "implicit" ["authorizationUrl"]),
  ("oauth2PasswordSecurity", flowSignIn "password" ["tokenUrl"]),
  ("oauth2ApplicationSecurity", flowSignIn "application" ["tokenUrl"]),
  ("oauth2AccessCodeSecurity", flowSignIn "accessCode" ["authorizationUrl", "tokenUrl"]),
  ("oauth2Scopes", mapOf text),
  ("mediaTypeList", setOf (definition "mimeType")),
  ("parametersList", schema [
    kind "array",
    ("additionalItems", .boolean false),
    items (schema [oneOf [definition "parameter", definition "jsonReference"]]),
    distinct]),
  ("schemesList", setOf (word ["http", "https", "ws", "wss"])),
  ("collectionFormat", word ["csv", "ssv", "tsv", "pipes"]),
  ("collectionFormatWithMulti", word ["csv", "ssv", "tsv", "pipes", "multi"])] ++ borrowed ++ [
  ("jsonReference",
    schema [kind "object", required ["$ref"], closed, properties [("$ref", text)]])]

/-- The schema of a definition of version 2.0. -/
def document : Tree := schema [
  kind "object",
  required ["swagger", "info", "paths"],
  closed,
  extensions,
  properties [
    ("swagger", word ["2.0"]),
    same "info",
    ("host", schema [kind "string", ("pattern", .text "^[^\x7b\x7d/ :\\\\]+(?::\\d+)?$")]),
    ("basePath", schema [kind "string", ("pattern", .text "^/")]),
    ("schemes", definition "schemesList"),
    ("consumes", schema [allOf [definition "mediaTypeList"]]),
    ("produces", schema [allOf [definition "mediaTypeList"]]),
    same "paths",
    same "definitions",
    ("parameters", definition "parameterDefinitions"),
    ("responses", definition "responseDefinitions"),
    same "security",
    same "securityDefinitions",
    ("tags", setOf (definition "tag")),
    same "externalDocs"],
  ("definitions", .mapping definitions)]

end ApiAdmission.Standard.Swagger2
