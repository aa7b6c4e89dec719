import ApiAdmission.Standard.Vocabulary

/-!
# Definitions of version 3.1

The published schema for definitions of versions 3.1, which leaves the inside of schema objects
open.
-/

namespace ApiAdmission.Standard.OpenApi31

set_option autoImplicit false

/-- A definition of this schema. -/
def definition (name : String) : Tree := reference ("#/$defs/" ++ name)

/-- The keyword that refers to a definition. -/
def refers (name : String) : String × Tree := ("$ref", .text ("#/$defs/" ++ name))

/-- Extensions are allowed. -/
def extensions : String × Tree := refers "specification-extensions"

/-- A keyword that allows no attributes but those spoken about. -/
def sealedObject : String × Tree := ("unevaluatedProperties", .boolean false)

/-- A schema object. -/
def schemaObject : Tree := .mapping [("$dynamicRef", .text "#meta")]

/-- An object with the given attributes and extensions. -/
def object (attributes : List (String × Tree)) (needed : List String)
    (further : List (String × Tree)) : Tree :=
  schema ([kind "object", properties attributes] ++
    (if needed.isEmpty then [] else [required needed]) ++ further ++ [extensions, sealedObject])

/-- A definition, or a reference where the object refers to one. -/
def orReference (name : String) : Tree := schema [
  ("if", schema [kind "object", required ["$ref"]]),
  ("then", definition "reference"),
  ("else", definition name)]

/-- An address. -/
def address : Tree := textAs "uri"

/-- An address that may be relative. -/
def relativeAddress : Tree := textAs "uri-reference"

/-- Named components of a definition. -/
def named (name : String) : Tree := mapOf (definition name)

/-- An attribute is required to be the given text. -/
def isText (name value : String) : Tree :=
  schema [properties [(name, schema [("const", .text value)])], required [name]]

/-! ## Components and paths -/

/-- The kinds of components. -/
def componentKinds : List (String × Tree) := [
  ("schemas", mapOf schemaObject),
  ("responses", named "response-or-reference"),
  ("parameters", named "parameter-or-reference"),
  ("examples", named "example-or-reference"),
  ("requestBodies", named "request-body-or-reference"),
  ("headers", named "header-or-reference"),
  ("securitySchemes", named "security-scheme-or-reference"),
  ("links", named "link-or-reference"),
  ("callbacks", named "callbacks-or-reference"),
  ("pathItems", named "path-item-or-reference")]

/-- The components. -/
def components : Tree := schema [
  kind "object",
  properties componentKinds,
  patterned [(
    "^(schemas|responses|parameters|examples|requestBodies|headers|securitySchemes|links|" ++
      "callbacks|pathItems)$",
    schema [("propertyNames", schema [("pattern", .text "^[a-zA-Z0-9._-]+$")])])],
  extensions,
  sealedObject]

/-- A path item. -/
def pathItem : Tree := schema [
  kind "object",
  properties ([
    ("summary", text),
    ("description", text),
    ("servers", listOf (definition "server")),
    ("parameters", listOf (definition "parameter-or-reference"))] ++
    (["get", "put", "post", "delete", "options", "head", "patch", "trace"].map fun method =>
      (method, definition "operation"))),
  extensions,
  sealedObject]

/-- An operation. -/
def operation : Tree := object [
  ("tags", listOf text),
  ("summary", text),
  ("description", text),
  ("externalDocs", definition "external-documentation"),
  ("operationId", text),
  ("parameters", listOf (definition "parameter-or-reference")),
  ("requestBody", definition "request-body-or-reference"),
  ("responses", definition "responses"),
  ("callbacks", mapOf (definition "callbacks-or-reference")),
  ("deprecated", flag),
  ("security", listOf (definition "security-requirement")),
  ("servers", listOf (definition "server"))] [] []

/-- The responses of an operation. -/
def responses : Tree := schema [
  kind "object",
  properties [("default", definition "response-or-reference")],
  patterned [("^[1-5](?:[0-9]{2}|XX)$", definition "response-or-reference")],
  ("minProperties", .integer 1),
  extensions,
  sealedObject,
  ("if", schema [
    ("$comment", .text "either default, or at least one response code property must exist"),
    patterned [("^[1-5](?:[0-9]{2}|XX)$", .boolean false)]]),
  ("then", schema [required ["default"]])]

/-! ## Parameters and headers -/

/-- The styles that a parameter may have where the given condition on its place holds. -/
def stylesFor (place : String) (standard : String) (styles : List String) : Tree := schema [
  ("if", isText "in" place),
  ("then", schema [properties [
    ("style", schema [("default", .text standard), oneOfTexts styles])]])]

/-- The styles of parameters. -/
def parameterStyles : List (String × Tree) := [
  ("styles-for-path", schema [
    ("if", isText "in" "path"),
    ("then", schema [
      properties [
        ("name", schema [("pattern", .text "[^/#?]+$")]),
        ("style", schema [
          ("default", .text "simple"), oneOfTexts ["matrix", "label", "simple"]]),
        ("required", schema [("const", .boolean true)])],
      required ["required"]])]),
  ("styles-for-header", stylesFor "header" "simple" ["simple"]),
  ("styles-for-query", schema [
    ("if", isText "in" "query"),
    ("then", schema [properties [
      ("style", schema [("default", .text "form"),
        oneOfTexts ["form", "spaceDelimited", "pipeDelimited", "deepObject"]]),
      ("allowReserved", schema [("default", .boolean false), kind "boolean"])]])]),
  ("styles-for-cookie", stylesFor "cookie" "form" ["form"]),
  ("styles-for-form", schema [
    ("if", isText "style" "form"),
    ("then", schema [properties [("explode", schema [("default", .boolean true)])]]),
    ("else", schema [properties [("explode", schema [("default", .boolean false)])]])])]

/-- The content of a parameter or header. -/
def singleContent : Tree := schema [
  refers "content", ("minProperties", .integer 1), ("maxProperties", .integer 1)]

/-- Either a schema or a content is required. -/
def schemaOrContent : String × Tree :=
  oneOf [schema [required ["schema"]], schema [required ["content"]]]

/-- A parameter. -/
def parameter : Tree := object [
    ("name", text),
    ("in", schema [oneOfTexts ["query", "header", "path", "cookie"]]),
    ("description", text),
    ("required", schema [("default", .boolean false), kind "boolean"]),
    ("deprecated", schema [("default", .boolean false), kind "boolean"]),
    ("schema", schemaObject),
    ("content", singleContent)] ["name", "in"] [
  schemaOrContent,
  ("if", isText "in" "query"),
  ("then", schema [properties [
    ("allowEmptyValue", schema [("default", .boolean false), kind "boolean"])]]),
  ("dependentSchemas", .mapping [("schema", schema [
    properties [("style", text), ("explode", truth)],
    allOf ([definition "examples"] ++ parameterStyles.map fun style =>
      reference ("#/$defs/parameter/dependentSchemas/schema/$defs/" ++ style.1)),
    ("$defs", .mapping parameterStyles)])])]

/-- A header. -/
def header : Tree := object [
    ("description", text),
    ("required", schema [("default", .boolean false), kind "boolean"]),
    ("deprecated", schema [("default", .boolean false), kind "boolean"]),
    ("schema", schemaObject),
    ("content", singleContent)] [] [
  schemaOrContent,
  ("dependentSchemas", .mapping [("schema", schema [
    properties [
      ("style", schema [("default", .text "simple"), oneOfTexts ["simple"]]),
      ("explode", schema [("default", .boolean false), kind "boolean"])],
    refers "examples"])])]

/-! ## Contents -/

/-- What an encoding does by itself. -/
def explodeDefault : Tree := schema [
  ("if", isText "style" "form"),
  ("then", schema [properties [("explode", schema [("default", .boolean true)])]]),
  ("else", schema [properties [("explode", schema [("default", .boolean false)])]])]

/-- An encoding. -/
def encoding : Tree := schema [
  kind "object",
  properties [
    ("contentType", textAs "media-range"),
    ("headers", mapOf (definition "header-or-reference")),
    ("style", schema [("default", .text "form"),
      oneOfTexts ["form", "spaceDelimited", "pipeDelimited", "deepObject"]]),
    ("explode", truth),
    ("allowReserved", schema [("default", .boolean false), kind "boolean"])],
  allOf [definition "specification-extensions",
    reference "#/$defs/encoding/$defs/explode-default"],
  sealedObject,
  ("$defs", .mapping [("explode-default", explodeDefault)])]

/-- A media type. -/
def mediaType : Tree := schema [
  kind "object",
  properties [
    ("schema", schemaObject),
    ("encoding", mapOf (definition "encoding"))],
  allOf [definition "specification-extensions", definition "examples"],
  sealedObject]

/-! ## Security -/

/-- A condition on the kind of a way to sign in. -/
def signIn (kindName : String) (attributes : List (String × Tree)) (needed : List String) :
    Tree := schema [
  ("if", isText "type" kindName),
  ("then", schema [properties attributes, required needed])]

/-- The ways to sign in. -/
def signIns : List (String × Tree) := [
  ("type-apikey", signIn "apiKey" [
    ("name", text), ("in", schema [oneOfTexts ["query", "header", "cookie"]])] ["name", "in"]),
  ("type-http", signIn "http" [("scheme", text)] ["scheme"]),
  ("type-http-bearer", schema [
    ("if", schema [
      properties [
        ("type", schema [("const", .text "http")]),
        ("scheme",
          schema [kind "string", ("pattern", .text "^[Bb][Ee][Aa][Rr][Ee][Rr]$")])],
      required ["type", "scheme"]]),
    ("then", schema [properties [("bearerFormat", text)]])]),
  ("type-oauth2", signIn "oauth2" [("flows", definition "oauth-flows")] ["flows"]),
  ("type-oidc",
    signIn "openIdConnect" [("openIdConnectUrl", address)] ["openIdConnectUrl"])]

/-- A way to sign in. -/
def securityScheme : Tree := schema [
  kind "object",
  properties [
    ("type", schema [oneOfTexts ["apiKey", "http", "mutualTLS", "oauth2", "openIdConnect"]]),
    ("description", text)],
  required ["type"],
  allOf ([definition "specification-extensions"] ++ signIns.map fun entry =>
    reference ("#/$defs/security-scheme/$defs/" ++ entry.1)),
  sealedObject,
  ("$defs", .mapping signIns)]

/-- A flow with the given addresses. -/
def flow (addresses needed : List String) : Tree :=
  object (addresses.map (fun name => (name, address)) ++
    [("scopes", definition "map-of-strings")]) needed []

/-- The flows. -/
def flows : List (String × Tree) := [
  ("implicit",
    flow ["authorizationUrl", "refreshUrl"] ["authorizationUrl", "scopes"]),
  ("password", flow ["tokenUrl", "refreshUrl"] ["tokenUrl", "scopes"]),
  ("client-credentials", flow ["tokenUrl", "refreshUrl"] ["tokenUrl", "scopes"]),
  ("authorization-code", flow ["authorizationUrl", "tokenUrl", "refreshUrl"]
    ["authorizationUrl", "tokenUrl", "scopes"])]

/-- The flows of a way to sign in. -/
def oauthFlows : Tree := schema [
  kind "object",
  properties [
    ("implicit", reference "#/$defs/oauth-flows/$defs/implicit"),
    ("password", reference "#/$defs/oauth-flows/$defs/password"),
    ("clientCredentials", reference "#/$defs/oauth-flows/$defs/client-credentials"),
    ("authorizationCode", reference "#/$defs/oauth-flows/$defs/authorization-code")],
  extensions,
  sealedObject,
  ("$defs", .mapping flows)]

/-! ## The schema -/

/-- The definitions. -/
def definitions : List (String × Tree) := [
  ("info", object [
    ("title", text),
    ("summary", text),
    ("description", text),
    ("termsOfService", address),
    ("contact", definition "contact"),
    ("license", definition "license"),
    ("version", text)] ["title", "version"] []),
  ("contact", object [
    ("name", text), ("url", address), ("email", textAs "email")] [] []),
  ("license", object [("name", text), ("identifier", text), ("url", address)] ["name"] [
    ("dependentSchemas", .mapping [
      ("identifier", schema [("not", schema [required ["url"]])])])]),
  ("server", object [
    ("url", text),
    ("description", text),
    ("variables", mapOf (definition "server-variable"))] ["url"] []),
  ("server-variable", object [
    ("enum", schema [kind "array", items text, ("minItems", .integer 1)]),
    ("default", text),
    ("description", text)] ["default"] []),
  ("components", components),
  ("paths", schema [
    kind "object", patterned [("^/", definition "path-item")], extensions, sealedObject]),
  ("path-item", pathItem),
  ("path-item-or-reference", orReference "path-item"),
  ("operation", operation),
  ("external-documentation", object [("description", text), ("url", address)] ["url"] []),
  ("parameter", parameter),
  ("parameter-or-reference", orReference "parameter"),
  ("request-body", object [
    ("description", text),
    ("content", definition "content"),
    ("required", schema [("default", .boolean false), kind "boolean"])] ["content"] []),
  ("request-body-or-reference", orReference "request-body"),
  ("content", schema [
    kind "object",
    others (definition "media-type"),
    ("propertyNames", schema [("format", .text "media-range")])]),
  ("media-type", mediaType),
  ("encoding", encoding),
  ("responses", responses),
  ("response", object [
    ("description", text),
    ("headers", mapOf (definition "header-or-reference")),
    ("content", definition "content"),
    ("links", mapOf (definition "link-or-reference"))] ["description"] []),
  ("response-or-reference", orReference "response"),
  ("callbacks", schema [
    kind "object", extensions, others (definition "path-item-or-reference")]),
  ("callbacks-or-reference", orReference "callbacks"),
  ("example", object [
    ("summary", text),
    ("description", text),
    ("value", .boolean true),
    ("externalValue", address)] [] [
    ("not", schema [required ["value", "externalValue"]])]),
  ("example-or-reference", orReference "example"),
  ("link", object [
    ("operationRef", relativeAddress),
    ("operationId", text),
    ("parameters", definition "map-of-strings"),
    ("requestBody", .boolean true),
    ("description", text),
    ("body", definition "server")] [] [
    oneOf [schema [required ["operationRef"]], schema [required ["operationId"]]]]),
  ("link-or-reference", orReference "link"),
  ("header", header),
  ("header-or-reference", orReference "header"),
  ("tag", object [
    ("name", text),
    ("description", text),
    ("externalDocs", definition "external-documentation")] ["name"] []),
  ("reference", schema [
    kind "object",
    properties [("$ref", relativeAddress), ("summary", text), ("description", text)],
    sealedObject]),
  ("schema", schema [
    ("$dynamicAnchor", .text "meta"), ("type", texts ["object", "boolean"])]),
  ("security-scheme", securityScheme),
  ("security-scheme-or-reference", orReference "security-scheme"),
  ("oauth-flows", oauthFlows),
  ("security-requirement", mapOf (listOf text)),
  ("specification-extensions", schema [patterned [("^x-", .boolean true)]]),
  ("examples", schema [properties [
    ("example", .boolean true),
    ("examples", mapOf (definition "example-or-reference"))]]),
  ("map-of-strings", mapOf text)]

/-- The schema of a definition of version 3.1. -/
def document : Tree := schema [
  kind "object",
  properties [
    ("openapi", schema [kind "string", ("pattern", .text "^3\\.1\\.\\d+(-.+)?$")]),
    ("info", definition "info"),
    ("jsonSchemaDialect", address),
    ("servers", listOf (definition "server")),
    ("paths", definition "paths"),
    ("webhooks", mapOf (definition "path-item-or-reference")),
    ("components", definition "components"),
    ("security", listOf (definition "security-requirement")),
    ("tags", listOf (definition "tag")),
    ("externalDocs", definition "external-documentation")],
  required ["openapi", "info"],
  anyOf [schema [required ["paths"]], schema [required ["components"]],
    schema [required ["webhooks"]]],
  extensions,
  sealedObject,
  ("$defs", .mapping definitions)]

end ApiAdmission.Standard.OpenApi31
