import ApiAdmission.Standard.Vocabulary

/-!
# Definitions of version 3.0

The published schema for definitions of versions 3.0.
-/

namespace ApiAdmission.Standard.OpenApi30

set_option autoImplicit false

/-- A definition of this schema. -/
def definition (name : String) : Tree := reference ("#/definitions/" ++ name)

/-- Extensions are allowed. -/
def extensions : String × Tree := patterned [("^x-", anything)]

/-- A definition or a reference to one. -/
def orReference (name : String) : Tree := schema [oneOf [definition name, definition "Reference"]]

/-- A reference, or else a definition. -/
def referenceOr (name : String) : Tree := schema [oneOf [definition "Reference", definition name]]

/-- An object with the given attributes and extensions. -/
def object (needed : List String) (attributes : List (String × Tree)) : Tree :=
  schema ([kind "object"] ++ (if needed.isEmpty then [] else [required needed]) ++
    [properties attributes, extensions, closed])

/-- An object like `object` with further keywords. -/
def objectWith (needed : List String) (attributes further : List (String × Tree)) : Tree :=
  schema ([kind "object"] ++ (if needed.isEmpty then [] else [required needed]) ++
    [properties attributes, extensions, closed] ++ further)

/-- A text that is an address. -/
def address : Tree := textAs "uri-reference"

/-- A count. -/
def count : Tree := schema [kind "integer", ("minimum", .integer 0)]

/-- A count that is zero unless given. -/
def countFromZero : Tree :=
  schema [kind "integer", ("minimum", .integer 0), ("default", .integer 0)]

/-- Two attributes exclude each other. -/
def notBoth (first second : String) : String × Tree :=
  ("not", schema [required [first, second]])

/-- One attribute may not be there. -/
def without (name : String) : Tree := schema [("not", schema [required [name]])]

/-! ## Documents -/

/-- A schema object. -/
def schemaObject : Tree := object [] [
  ("title", text),
  ("multipleOf",
    schema [kind "number", ("minimum", .integer 0), ("exclusiveMinimum", .boolean true)]),
  ("maximum", schema [kind "number"]),
  ("exclusiveMaximum", flag),
  ("minimum", schema [kind "number"]),
  ("exclusiveMinimum", flag),
  ("maxLength", count),
  ("minLength", countFromZero),
  ("pattern", textAs "regex"),
  ("maxItems", count),
  ("minItems", countFromZero),
  ("uniqueItems", flag),
  ("maxProperties", count),
  ("minProperties", countFromZero),
  ("required", schema [kind "array", items text, ("minItems", .integer 1), distinct]),
  ("enum", schema [kind "array", items anything, ("minItems", .integer 1),
    ("uniqueItems", .boolean false)]),
  ("type", word ["array", "boolean", "integer", "number", "object", "string"]),
  ("not", orReference "Schema"),
  ("allOf", listOf (orReference "Schema")),
  ("oneOf", listOf (orReference "Schema")),
  ("anyOf", listOf (orReference "Schema")),
  ("items", orReference "Schema"),
  ("properties", mapOf (orReference "Schema")),
  ("additionalProperties", schema [
    oneOf [definition "Schema", definition "Reference", truth], ("default", .boolean true)]),
  ("description", text),
  ("format", text),
  ("default", anything),
  ("nullable", flag),
  ("discriminator", definition "Discriminator"),
  ("readOnly", flag),
  ("writeOnly", flag),
  ("example", anything),
  ("externalDocs", definition "ExternalDocumentation"),
  ("deprecated", flag),
  ("xml", definition "XML")]

/-- The names of components. -/
def componentName : String := "^[a-zA-Z0-9\\.\\-_]+$"

/-- Named components. -/
def named (inner : Tree) : Tree := schema [kind "object", patterned [(componentName, inner)]]

/-- The components. -/
def components : Tree := object [] [
  ("schemas", named (orReference "Schema")),
  ("responses", named (referenceOr "Response")),
  ("parameters", named (referenceOr "Parameter")),
  ("examples", named (referenceOr "Example")),
  ("requestBodies", named (referenceOr "RequestBody")),
  ("headers", named (referenceOr "Header")),
  ("securitySchemes", named (referenceOr "SecurityScheme")),
  ("links", named (referenceOr "Link")),
  ("callbacks", named (referenceOr "Callback"))]

/-- A path item. -/
def pathItem : Tree := schema [
  kind "object",
  properties [
    ("$ref", text),
    ("summary", text),
    ("description", text),
    ("servers", listOf (definition "Server")),
    ("parameters", setOf (orReference "Parameter"))],
  patterned [
    ("^(get|put|post|delete|options|head|patch|trace)$", definition "Operation"),
    ("^x-", anything)],
  closed]

/-- An operation. -/
def operation : Tree := object ["responses"] [
  ("tags", listOf text),
  ("summary", text),
  ("description", text),
  ("externalDocs", definition "ExternalDocumentation"),
  ("operationId", text),
  ("parameters", setOf (orReference "Parameter")),
  ("requestBody", orReference "RequestBody"),
  ("responses", definition "Responses"),
  ("callbacks", mapOf (orReference "Callback")),
  ("deprecated", flag),
  ("security", listOf (definition "SecurityRequirement")),
  ("servers", listOf (definition "Server"))]

/-- The responses of an operation. -/
def responses : Tree := schema [
  kind "object",
  properties [("default", orReference "Response")],
  patterned [("^[1-5](?:\\d{2}|XX)$", orReference "Response"), ("^x-", anything)],
  ("minProperties", .integer 1),
  closed]

/-! ## Parts -/

/-- Either an example or several. -/
def exampleOrExamples : Tree := schema [
  ("description", .text "Example and examples are mutually exclusive"),
  notBoth "example" "examples"]

/-- Either a schema or a content. -/
def schemaOrContent : Tree := schema [
  ("description",
    .text "Schema and content are mutually exclusive, at least one is required"),
  notBoth "schema" "content",
  oneOf [
    schema [required ["schema"]],
    schema [
      required ["content"],
      ("description", .text "Some properties are not allowed if content is present"),
      allOf (["style", "explode", "allowReserved", "example", "examples"].map without)]]]

/-- The attributes that parameters and headers share, the word for the style aside. -/
def valueAttributes (style : Tree) : List (String × Tree) := [
  ("description", text),
  ("required", flag),
  ("deprecated", flag),
  ("allowEmptyValue", flag),
  ("style", style),
  ("explode", truth),
  ("allowReserved", flag),
  ("schema", orReference "Schema"),
  ("content", schema [kind "object", others (definition "MediaType"),
    ("minProperties", .integer 1), ("maxProperties", .integer 1)]),
  ("example", anything),
  ("examples", mapOf (orReference "Example"))]

/-- A header. -/
def header : Tree := objectWith []
  (valueAttributes (schema [kind "string", oneOfTexts ["simple"], ("default", .text "simple")]))
  [allOf [definition "ExampleXORExamples", definition "SchemaXORContent"]]

/-- A parameter. -/
def parameter : Tree := schema [
  kind "object",
  properties ([("name", text), ("in", text)] ++ valueAttributes text),
  extensions,
  closed,
  required ["name", "in"],
  allOf [definition "ExampleXORExamples", definition "SchemaXORContent",
    definition "ParameterLocation"]]

/-- The styles that a parameter may have in a place. -/
def placed (description place : String) (styles : List String) (standard : String)
    (before after : List (String × Tree)) : Tree :=
  schema ([("description", .text description)] ++ before ++ [
    properties ([
      ("in", schema [oneOfTexts [place]]),
      ("style", schema [oneOfTexts styles, ("default", .text standard)])] ++ after)])

/-- The places of a parameter. -/
def parameterLocation : Tree := schema [
  ("description", .text "Parameter location"),
  oneOf [
    placed "Parameter in path" "path" ["matrix", "label", "simple"] "simple"
      [required ["required"]] [("required", schema [("enum", .list [.boolean true])])],
    placed "Parameter in query" "query"
      ["form", "spaceDelimited", "pipeDelimited", "deepObject"] "form" [] [],
    placed "Parameter in header" "header" ["simple"] "simple" [] [],
    placed "Parameter in cookie" "cookie" ["form"] "form" [] []]]

/-! ## Security -/

/-- A way to sign in with the bearer scheme or another one. -/
def httpSecurity : Tree := objectWith ["scheme", "type"] [
    ("scheme", text),
    ("bearerFormat", text),
    ("description", text),
    ("type", word ["http"])] [
  oneOf [
    schema [
      ("description", .text "Bearer"),
      properties [("scheme",
        schema [kind "string", ("pattern", .text "^[Bb][Ee][Aa][Rr][Ee][Rr]$")])]],
    schema [
      ("description", .text "Non Bearer"),
      ("not", schema [required ["bearerFormat"]]),
      properties [("scheme", schema [("not",
        schema [kind "string", ("pattern", .text "^[Bb][Ee][Aa][Rr][Ee][Rr]$")])])]]]]

/-- A flow with the given addresses. -/
def flow (needed addresses : List String) : Tree :=
  object needed (addresses.map (fun name => (name, address)) ++ [("scopes", mapOf text)])

/-! ## The schema -/

/-- The definitions. -/
def definitions : List (String × Tree) := [
  ("Reference", schema [
    kind "object", required ["$ref"], patterned [("^\\$ref$", address)]]),
  ("Info", object ["title", "version"] [
    ("title", text),
    ("description", text),
    ("termsOfService", address),
    ("contact", definition "Contact"),
    ("license", definition "License"),
    ("version", text)]),
  ("Contact", object [] [("name", text), ("url", address), ("email", textAs "email")]),
  ("License", object ["name"] [("name", text), ("url", address)]),
  ("Server", object ["url"] [
    ("url", text), ("description", text), ("variables", mapOf (definition "ServerVariable"))]),
  ("ServerVariable", object ["default"] [
    ("enum", listOf text), ("default", text), ("description", text)]),
  ("Components", components),
  ("Schema", schemaObject),
  ("Discriminator", schema [
    kind "object",
    required ["propertyName"],
    properties [("propertyName", text), ("mapping", mapOf text)]]),
  ("XML", object [] [
    ("name", text), ("namespace", textAs "uri"), ("prefix", text), ("attribute", flag),
    ("wrapped", flag)]),
  ("Response", object ["description"] [
    ("description", text),
    ("headers", mapOf (orReference "Header")),
    ("content", mapOf (definition "MediaType")),
    ("links", mapOf (orReference "Link"))]),
  ("MediaType", objectWith [] [
    ("schema", orReference "Schema"),
    ("example", anything),
    ("examples", mapOf (orReference "Example")),
    ("encoding", mapOf (definition "Encoding"))] [allOf [definition "ExampleXORExamples"]]),
  ("Example", object [] [
    ("summary", text), ("description", text), ("value", anything), ("externalValue", address)]),
  ("Header", header),
  ("Paths", schema [
    kind "object",
    patterned [("^\\/", definition "PathItem"), ("^x-", anything)],
    closed]),
  ("PathItem", pathItem),
  ("Operation", operation),
  ("Responses", responses),
  ("SecurityRequirement", mapOf (listOf text)),
  ("Tag", object ["name"] [
    ("name", text), ("description", text), ("externalDocs", definition "ExternalDocumentation")]),
  ("ExternalDocumentation", object ["url"] [("description", text), ("url", address)]),
  ("ExampleXORExamples", exampleOrExamples),
  ("SchemaXORContent", schemaOrContent),
  ("Parameter", parameter),
  ("ParameterLocation", parameterLocation),
  ("RequestBody", object ["content"] [
    ("description", text), ("content", mapOf (definition "MediaType")), ("required", flag)]),
  ("SecurityScheme", schema [oneOf [
    definition "APIKeySecurityScheme", definition "HTTPSecurityScheme",
    definition "OAuth2SecurityScheme", definition "OpenIdConnectSecurityScheme"]]),
  ("APIKeySecurityScheme", object ["type", "name", "in"] [
    ("type", word ["apiKey"]),
    ("name", text),
    ("in", word ["header", "query", "cookie"]),
    ("description", text)]),
  ("HTTPSecurityScheme", httpSecurity),
  ("OAuth2SecurityScheme", object ["type", "flows"] [
    ("type", word ["oauth2"]), ("flows", definition "OAuthFlows"), ("description", text)]),
  ("OpenIdConnectSecurityScheme", object ["type", "openIdConnectUrl"] [
    ("type", word ["openIdConnect"]), ("openIdConnectUrl", address), ("description", text)]),
  ("OAuthFlows", object [] [
    ("implicit", definition "ImplicitOAuthFlow"),
    ("password", definition "PasswordOAuthFlow"),
    ("clientCredentials", definition "ClientCredentialsFlow"),
    ("authorizationCode", definition "AuthorizationCodeOAuthFlow")]),
  ("ImplicitOAuthFlow", flow ["authorizationUrl", "scopes"] ["authorizationUrl", "refreshUrl"]),
  ("PasswordOAuthFlow", flow ["tokenUrl", "scopes"] ["tokenUrl", "refreshUrl"]),
  ("ClientCredentialsFlow", flow ["tokenUrl", "scopes"] ["tokenUrl", "refreshUrl"]),
  ("AuthorizationCodeOAuthFlow",
    flow ["authorizationUrl", "tokenUrl", "scopes"] ["authorizationUrl", "tokenUrl", "refreshUrl"]),
  ("Link", objectWith [] [
    ("operationId", text),
    ("operationRef", address),
    ("parameters", mapOf anything),
    ("requestBody", anything),
    ("description", text),
    ("server", definition "Server")] [
    ("not", schema [
      ("description", .text "Operation Id and Operation Ref are mutually exclusive"),
      required ["operationId", "operationRef"]])]),
  ("Callback", schema [
    kind "object", others (definition "PathItem"), extensions]),
  ("Encoding", schema [
    kind "object",
    properties [
      ("contentType", text),
      ("headers", mapOf (orReference "Header")),
      ("style", word ["form", "spaceDelimited", "pipeDelimited", "deepObject"]),
      ("explode", truth),
      ("allowReserved", flag)],
    extensions,
    closed])]

/-- The schema of a definition of version 3.0. -/
def document : Tree := schema [
  kind "object",
  required ["openapi", "info", "paths"],
  properties [
    ("openapi", schema [kind "string", ("pattern", .text "^3\\.0\\.\\d(-.+)?$")]),
    ("info", definition "Info"),
    ("externalDocs", definition "ExternalDocumentation"),
    ("servers", listOf (definition "Server")),
    ("security", listOf (definition "SecurityRequirement")),
    ("tags", setOf (definition "Tag")),
    ("paths", definition "Paths"),
    ("components", definition "Components")],
  extensions,
  closed,
  ("definitions", .mapping definitions)]

end ApiAdmission.Standard.OpenApi30
