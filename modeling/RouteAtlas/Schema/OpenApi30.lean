import RouteAtlas.Schema.Basic

/-!
# The structure of version 3.0 documents

What a document of version 3.0 may consist of, object by object. Names that begin with `x-` are
allowed in most objects, and other names only where they are listed. Schemas inside a document are
objects of this description too.
-/

namespace RouteAtlas.OpenApi30

open Schema

/-! ### Patterns -/

/-- The versions of the specification. -/
def versionPattern : Pattern where
  source := "^3\\.0\\.\\d(-.+)?$"
  body := .all [.text "3.0.", .digit, .optional (.seq (.char '-') (.some .inLine))]

/-- The names of extensions. -/
def extensionPattern : Pattern where
  source := "^x-"
  body := .text "x-"
  toEnd := false

/-- The names of paths. -/
def pathPattern : Pattern where
  source := "^\\/"
  body := .text "/"
  toEnd := false

/-- The names of operations. -/
def methodPattern : Pattern where
  source := "^(get|put|post|delete|options|head|patch|trace)$"
  body := .oneOf ["get", "put", "post", "delete", "options", "head", "patch", "trace"]

/-- Response codes, and classes of response codes. -/
def codePattern : Pattern where
  source := "^[1-5](?:\\d\x7b2\x7d|XX)$"
  body := .seq (.one fun c => '1' ≤ c && c ≤ '5')
    (.alt (.seq .digit .digit) (.text "XX"))

/-- The names of components. -/
def componentPattern : Pattern where
  source := "^[a-zA-Z0-9\\.\\-_]+$"
  body := .some (.one fun c => c.isAlphanum || c == '.' || c == '_' || c == '-')

/-- The name of the member that makes an object a reference. -/
def referencePattern : Pattern where
  source := "^\\$ref$"
  body := .text "$ref"

/-- The scheme of bearer tokens. -/
def bearerPattern : Pattern where
  source := "^[bB][eE][aA][rR][eE][rR]$"
  body := .all ("bearer".toList.map fun c => .one fun d => d == c || d == c.toUpper)

/-! ### Short forms -/

/-- The schema of a name of this document. -/
def named (name : String) : Schema := .ref ("#/definitions/" ++ name)

/-- Extensions are allowed, and nothing else that was not mentioned. -/
def closing : List Keyword :=
  [.patternProperties [(extensionPattern, .rules [])], .additionalProperties .nothing]

/-- An object with the given members and no others but extensions. -/
def object (members : List (String × Schema)) : Schema :=
  .rules ([.type [.object], .properties members] ++ closing)

/-- An object as above that has to have some of its members. -/
def objectWith (names : List String) (members : List (String × Schema)) : Schema :=
  .rules ([.type [.object], .required names, .properties members] ++ closing)

/-- One of two named schemas. -/
def either (first second : String) : Schema := .rules [.oneOf [named first, named second]]

/-- What a name stands for, or a reference. -/
def orReference (name : String) : Schema := either name "Reference"

/-- Some texts only. -/
def words (ws : List String) : Schema := .rules [.enumeration (ws.map .text)]

/-- A number that is not negative. -/
def count : Schema := .rules [.type [.plainInteger], .minimum 0 false]

/-- Lists of different things. -/
def setOf (s : Schema) : Schema := .rules [.type [.array], .items s, .uniqueItems]

/-- Not all of several members at once. -/
def notAll (names : List String) : Keyword := .not (.rules [.required names])

/-! ### Objects -/

/-- The whole document. -/
def root : Schema := .rules ([
  .type [.object],
  .required ["openapi", "info", "paths"],
  .properties [
    ("openapi", .rules [.type [.string], .pattern versionPattern]),
    ("info", named "Info"),
    ("externalDocs", named "ExternalDocumentation"),
    ("servers", .arrayOf (named "Server")),
    ("security", .arrayOf (named "SecurityRequirement")),
    ("tags", setOf (named "Tag")),
    ("paths", named "Paths"),
    ("components", named "Components")]] ++ closing)

/-- What a document is about and where it is served. -/
def generalObjects : Definitions := [
  ("Reference", .rules [.type [.object], .required ["$ref"],
    .patternProperties [(referencePattern, .string)]]),
  ("Info", objectWith ["title", "version"] [
    ("title", .string), ("description", .string), ("termsOfService", .string),
    ("contact", named "Contact"), ("license", named "License"), ("version", .string)]),
  ("Contact", object [("name", .string), ("url", .string), ("email", .string)]),
  ("License", objectWith ["name"] [("name", .string), ("url", .string)]),
  ("Server", objectWith ["url"] [
    ("url", .string), ("description", .string), ("variables", .mapOf (named "ServerVariable"))]),
  ("ServerVariable", objectWith ["default"] [
    ("enum", .arrayOf .string), ("default", .string), ("description", .string)]),
  ("Tag", objectWith ["name"] [
    ("name", .string), ("description", .string), ("externalDocs", named "ExternalDocumentation")]),
  ("ExternalDocumentation", objectWith ["url"] [("description", .string), ("url", .string)])]

/-- A part of the components: maps from proper names. -/
def part (first second : String) : Schema :=
  .rules [.type [.object], .patternProperties [(componentPattern, either first second)]]

/-- Components and schemas. -/
def schemaObjects : Definitions := [
  ("Components", object [
    ("schemas", part "Schema" "Reference"), ("responses", part "Reference" "Response"),
    ("parameters", part "Reference" "Parameter"), ("examples", part "Reference" "Example"),
    ("requestBodies", part "Reference" "RequestBody"), ("headers", part "Reference" "Header"),
    ("securitySchemes", part "Reference" "SecurityScheme"), ("links", part "Reference" "Link"),
    ("callbacks", part "Reference" "Callback")]),
  ("Schema", object [
    ("title", .string), ("multipleOf", .rules [.type [.number], .minimum 0 true]),
    ("maximum", .ofType .number), ("exclusiveMaximum", .boolean), ("minimum", .ofType .number),
    ("exclusiveMinimum", .boolean), ("maxLength", count), ("minLength", count), ("pattern", .string),
    ("maxItems", count), ("minItems", count), ("uniqueItems", .boolean), ("maxProperties", count),
    ("minProperties", count),
    ("required", .rules [.type [.array], .items .string, .minItems 1, .uniqueItems]),
    ("enum", .rules [.type [.array], .items (.rules []), .minItems 1]),
    ("type", .rules [.type [.string], .enumeration
      (["array", "boolean", "integer", "number", "object", "string"].map .text)]),
    ("not", orReference "Schema"), ("allOf", .arrayOf (orReference "Schema")),
    ("oneOf", .arrayOf (orReference "Schema")), ("anyOf", .arrayOf (orReference "Schema")),
    ("items", orReference "Schema"), ("properties", .mapOf (orReference "Schema")),
    ("additionalProperties",
      .rules [.oneOf [named "Schema", named "Reference", .boolean]]),
    ("description", .string), ("format", .string), ("default", .rules []), ("nullable", .boolean),
    ("discriminator", named "Discriminator"), ("readOnly", .boolean), ("writeOnly", .boolean),
    ("example", .rules []), ("externalDocs", named "ExternalDocumentation"),
    ("deprecated", .boolean), ("xml", named "XML")]),
  ("Discriminator", .rules [.type [.object], .required ["propertyName"],
    .properties [("propertyName", .string), ("mapping", .mapOf .string)]]),
  ("XML", object [("name", .string), ("namespace", .string), ("prefix", .string),
    ("attribute", .boolean), ("wrapped", .boolean)])]

/-- The content of a parameter or a header: a single media type. -/
def singleContent : Schema := .rules [.type [.object], .additionalProperties (named "MediaType"),
  .minProperties 1, .maxProperties 1]

/-- Paths and operations. -/
def pathObjects : Definitions := [
  ("Paths", .rules [.type [.object],
    .patternProperties [(pathPattern, named "PathItem"), (extensionPattern, .rules [])],
    .additionalProperties .nothing]),
  ("PathItem", .rules [
    .type [.object],
    .properties [("$ref", .string), ("summary", .string), ("description", .string),
      ("servers", .arrayOf (named "Server")), ("parameters", setOf (orReference "Parameter"))],
    .patternProperties [(methodPattern, named "Operation"), (extensionPattern, .rules [])],
    .additionalProperties .nothing]),
  ("Operation", objectWith ["responses"] [
    ("tags", .arrayOf .string), ("summary", .string), ("description", .string),
    ("externalDocs", named "ExternalDocumentation"), ("operationId", .string),
    ("parameters", setOf (orReference "Parameter")), ("requestBody", orReference "RequestBody"),
    ("responses", named "Responses"), ("callbacks", .mapOf (orReference "Callback")),
    ("deprecated", .boolean), ("security", .arrayOf (named "SecurityRequirement")),
    ("servers", .arrayOf (named "Server"))]),
  ("Responses", .rules [
    .type [.object],
    .properties [("default", orReference "Response")],
    .patternProperties [(codePattern, orReference "Response"), (extensionPattern, .rules [])],
    .minProperties 1,
    .additionalProperties .nothing]),
  ("Callback", .rules [.type [.object], .additionalProperties (named "PathItem"),
    .patternProperties [(extensionPattern, .rules [])]])]

/-- Where a parameter is and how it may be written there. -/
def location (place : String) (styles : List String) (mandatory : Bool) : Schema :=
  let place := ("in", words [place])
  let style := ("style", words styles)
  if mandatory then
    .rules [.required ["required"],
      .properties [place, style, ("required", .rules [.enumeration [.bool true]])]]
  else .rules [.properties [place, style]]

/-- Parameters, bodies and responses. -/
def messageObjects : Definitions := [
  ("Response", objectWith ["description"] [
    ("description", .string), ("headers", .mapOf (orReference "Header")),
    ("content", .mapOf (named "MediaType")), ("links", .mapOf (orReference "Link"))]),
  ("MediaType", .rules ([
    .type [.object],
    .properties [
      ("schema", orReference "Schema"), ("example", .rules []),
      ("examples", .mapOf (orReference "Example")), ("encoding", .mapOf (named "Encoding"))]] ++
    closing ++ [.allOf [named "ExampleXORExamples"]])),
  ("Example", object [("summary", .string), ("description", .string), ("value", .rules []),
    ("externalValue", .string)]),
  ("Header", .rules ([
    .type [.object],
    .properties [
      ("description", .string), ("required", .boolean), ("deprecated", .boolean),
      ("allowEmptyValue", .boolean),
      ("style", .rules [.type [.string], .enumeration [.text "simple"]]), ("explode", .boolean),
      ("allowReserved", .boolean), ("schema", orReference "Schema"), ("content", singleContent),
      ("example", .rules []), ("examples", .mapOf (orReference "Example"))]] ++
    closing ++ [.allOf [named "ExampleXORExamples", named "SchemaXORContent"]])),
  ("ExampleXORExamples", .rules [notAll ["example", "examples"]]),
  ("SchemaXORContent", .rules [
    notAll ["schema", "content"],
    .oneOf [
      .rules [.required ["schema"]],
      .rules [.required ["content"],
        .allOf (["style", "explode", "allowReserved", "example", "examples"].map fun n =>
          .rules [notAll [n]])]]]),
  ("Parameter", .rules ([
    .type [.object],
    .properties [
      ("name", .string), ("in", .string), ("description", .string), ("required", .boolean),
      ("deprecated", .boolean), ("allowEmptyValue", .boolean), ("style", .string),
      ("explode", .boolean), ("allowReserved", .boolean), ("schema", orReference "Schema"),
      ("content", singleContent), ("example", .rules []),
      ("examples", .mapOf (orReference "Example"))]] ++ closing ++ [
    .required ["name", "in"],
    .allOf [named "ExampleXORExamples", named "SchemaXORContent", named "ParameterLocation"]])),
  ("ParameterLocation", .rules [.oneOf [
    location "path" ["matrix", "label", "simple"] true,
    location "query" ["form", "spaceDelimited", "pipeDelimited", "deepObject"] false,
    location "header" ["simple"] false,
    location "cookie" ["form"] false]]),
  ("RequestBody", objectWith ["content"] [
    ("description", .string), ("content", .mapOf (named "MediaType")), ("required", .boolean)]),
  ("Link", .rules ([
    .type [.object],
    .properties [
      ("operationId", .string), ("operationRef", .string), ("parameters", .mapOf (.rules [])),
      ("requestBody", .rules []), ("description", .string), ("server", named "Server")]] ++
    closing ++ [notAll ["operationId", "operationRef"]])),
  ("Encoding", object [
    ("contentType", .string), ("headers", .mapOf (orReference "Header")),
    ("style", .rules [.type [.string], .enumeration
      (["form", "spaceDelimited", "pipeDelimited", "deepObject"].map .text)]),
    ("explode", .boolean), ("allowReserved", .boolean)])]

/-- A flow of an authorization with the given addresses, which have to be there. -/
def flow (addresses : List String) : Schema :=
  objectWith (addresses ++ ["scopes"])
    (addresses.map (fun a => (a, Schema.string)) ++
      [("refreshUrl", .string), ("scopes", .mapOf .string)])

/-- A security scheme of one type. -/
def scheme (type : String) (names : List String) (members : List (String × Schema)) : Schema :=
  objectWith ("type" :: names)
    (("type", .rules [.type [.string], .enumeration [.text type]]) :: members ++
      [("description", .string)])

/-- Security. -/
def securityObjects : Definitions := [
  ("SecurityRequirement", .mapOf (.arrayOf .string)),
  ("SecurityScheme", .rules [.oneOf [named "APIKeySecurityScheme", named "HTTPSecurityScheme",
    named "OAuth2SecurityScheme", named "OpenIdConnectSecurityScheme"]]),
  ("APIKeySecurityScheme", scheme "apiKey" ["name", "in"] [("name", .string),
    ("in", .rules [.type [.string], .enumeration
      (["header", "query", "cookie"].map .text)])]),
  ("HTTPSecurityScheme", .rules ([
    .type [.object],
    .required ["scheme", "type"],
    .properties [("scheme", .string), ("bearerFormat", .string), ("description", .string),
      ("type", .rules [.type [.string], .enumeration [.text "http"]])]] ++ closing ++ [
    .oneOf [
      .rules [.properties [("scheme", .rules [.type [.string], .pattern bearerPattern])]],
      .rules [notAll ["bearerFormat"], .properties [
        ("scheme", .rules [.not (.rules [.type [.string], .pattern bearerPattern])])]]]])),
  ("OAuth2SecurityScheme", scheme "oauth2" ["flows"] [("flows", named "OAuthFlows")]),
  ("OpenIdConnectSecurityScheme", scheme "openIdConnect" ["openIdConnectUrl"]
    [("openIdConnectUrl", .string)]),
  ("OAuthFlows", object [
    ("implicit", flow ["authorizationUrl"]), ("password", flow ["tokenUrl"]),
    ("clientCredentials", flow ["tokenUrl"]),
    ("authorizationCode", flow ["authorizationUrl", "tokenUrl"])])]

/-- All objects by name. -/
def definitions : Definitions :=
  (generalObjects ++ schemaObjects ++ pathObjects ++ messageObjects ++ securityObjects).map
    fun d => ("#/definitions/" ++ d.1, d.2)

end RouteAtlas.OpenApi30
