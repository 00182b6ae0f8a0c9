import RouteAtlas.Schema.Basic

/-!
# The structure of version 3.1 documents

What a document of version 3.1 may consist of, object by object. Names that begin with `x-` are
allowed everywhere, and other names only where they are listed. Schemas inside a document only have
to be objects or truth values here; they are looked at more closely elsewhere.
-/

namespace RouteAtlas.OpenApi31

open Schema

/-! ### Patterns -/

/-- The versions of the specification. -/
def versionPattern : Pattern where
  source := "^3\\.1\\.\\d+(-.+)?$"
  body := .all [.text "3.1.", .some .digit, .optional (.seq (.char '-') (.some .inLine))]

/-- The names of extensions. -/
def extensionPattern : Pattern where
  source := "^x-"
  body := .text "x-"
  toEnd := false

/-- The names of paths. -/
def pathPattern : Pattern where
  source := "^/"
  body := .text "/"
  toEnd := false

/-- Response codes, and classes of response codes. -/
def codePattern : Pattern where
  source := "^[1-5](?:[0-9]\x7b2\x7d|XX)$"
  body := .seq (.one fun c => '1' ≤ c && c ≤ '5')
    (.alt (.seq .digit .digit) (.text "XX"))

/-- The parts that components are divided into. -/
def componentParts : List String :=
  ["schemas", "responses", "parameters", "examples", "requestBodies", "headers", "securitySchemes",
    "links", "callbacks", "pathItems"]

/-- The names of the parts of the components. -/
def componentPartPattern : Pattern where
  source := "^(schemas|responses|parameters|examples|requestBodies|headers|securitySchemes|links|callbacks|pathItems)$"
  body := .oneOf componentParts

/-- The names of components. -/
def componentPattern : Pattern where
  source := "^[a-zA-Z0-9._-]+$"
  body := .some (.one fun c => c.isAlphanum || c == '.' || c == '_' || c == '-')

/-- The names of path parameters. -/
def pathNamePattern : Pattern where
  source := "[^/#?]+$"
  body := .some (.one fun c => c != '/' && c != '#' && c != '?')
  fromStart := false

/-- The scheme of bearer tokens. -/
def bearerPattern : Pattern where
  source := "^[Bb][Ee][Aa][Rr][Ee][Rr]$"
  body := .all ("bearer".toList.map fun c => .one fun d => d == c || d == c.toUpper)

/-! ### Short forms -/

/-- The schema of a name of this document. -/
def named (name : String) : Schema := .ref ("#/$defs/" ++ name)

/-- Extensions are allowed, and nothing else that was not mentioned. -/
def closing : List Keyword :=
  [.ref "#/$defs/specification-extensions", .unevaluatedProperties .nothing]

/-- An object with the given members and no others but extensions. -/
def object (members : List (String × Schema)) : Schema :=
  .rules ([.type [.object], .properties members] ++ closing)

/-- An object as above that has to have some of its members. -/
def objectWith (names : List String) (members : List (String × Schema)) : Schema :=
  .rules ([.type [.object], .properties members, .required names] ++ closing)

/-- Either a reference, or what a name stands for. -/
def orReference (name : String) : Schema :=
  .rules [.cond (.rules [.type [.object], .required ["$ref"]]) (named "reference") (named name)]

/-- If a member has a given value, a schema holds. -/
def ifMember (name value : String) (yes : Schema) : Schema :=
  .rules [.cond
    (.rules [.properties [(name, .rules [.const (.text value)])], .required [name]]) yes .anything]

/-- Some texts only. -/
def words (ws : List String) : Schema := .rules [.enumeration (ws.map .text)]

/-! ### Objects -/

/-- The whole document. -/
def root : Schema := .rules [
  .type [.object],
  .properties [
    ("openapi", .rules [.type [.string], .pattern versionPattern]),
    ("info", named "info"),
    ("jsonSchemaDialect", .string),
    ("servers", .arrayOf (named "server")),
    ("paths", named "paths"),
    ("webhooks", .mapOf (named "path-item-or-reference")),
    ("components", named "components"),
    ("security", .arrayOf (named "security-requirement")),
    ("tags", .arrayOf (named "tag")),
    ("externalDocs", named "external-documentation")],
  .required ["openapi", "info"],
  .anyOf [.rules [.required ["paths"]], .rules [.required ["components"]],
    .rules [.required ["webhooks"]]],
  .ref "#/$defs/specification-extensions",
  .unevaluatedProperties .nothing]

/-- What a document is about and where it is served. -/
def generalObjects : Definitions := [
  ("info", objectWith ["title", "version"] [
    ("title", .string), ("summary", .string), ("description", .string), ("termsOfService", .string),
    ("contact", named "contact"), ("license", named "license"), ("version", .string)]),
  ("contact", object [("name", .string), ("url", .string), ("email", .string)]),
  ("license", .rules ([
    .type [.object],
    .properties [("name", .string), ("identifier", .string), ("url", .string)],
    .required ["name"],
    .dependentSchemas [("identifier", .rules [.not (.rules [.required ["url"]])])]] ++ closing)),
  ("server", objectWith ["url"] [
    ("url", .string), ("description", .string), ("variables", .mapOf (named "server-variable"))]),
  ("server-variable", objectWith ["default"] [
    ("enum", .rules [.type [.array], .items .string, .minItems 1]), ("default", .string),
    ("description", .string)]),
  ("tag", objectWith ["name"] [
    ("name", .string), ("description", .string), ("externalDocs", named "external-documentation")]),
  ("external-documentation", objectWith ["url"] [("description", .string), ("url", .string)])]

/-- The kinds of components by the names of their parts. -/
def components : Schema := .rules ([
  .type [.object],
  .properties [
    ("schemas", .mapOf (named "schema")),
    ("responses", .mapOf (named "response-or-reference")),
    ("parameters", .mapOf (named "parameter-or-reference")),
    ("examples", .mapOf (named "example-or-reference")),
    ("requestBodies", .mapOf (named "request-body-or-reference")),
    ("headers", .mapOf (named "header-or-reference")),
    ("securitySchemes", .mapOf (named "security-scheme-or-reference")),
    ("links", .mapOf (named "link-or-reference")),
    ("callbacks", .mapOf (named "callbacks-or-reference")),
    ("pathItems", .mapOf (named "path-item-or-reference"))],
  .patternProperties [(componentPartPattern,
    .rules [.propertyNames (.rules [.pattern componentPattern])])]] ++ closing)

/-- Paths and operations. -/
def pathObjects : Definitions := [
  ("components", components),
  ("paths", .rules ([
    .type [.object],
    .patternProperties [(pathPattern, named "path-item")]] ++ closing)),
  ("path-item", object ([
    ("summary", .string), ("description", .string), ("servers", .arrayOf (named "server")),
    ("parameters", .arrayOf (named "parameter-or-reference"))] ++
    ["get", "put", "post", "delete", "options", "head", "patch", "trace"].map fun m =>
      (m, named "operation"))),
  ("path-item-or-reference", orReference "path-item"),
  ("operation", object [
    ("tags", .arrayOf .string), ("summary", .string), ("description", .string),
    ("externalDocs", named "external-documentation"), ("operationId", .string),
    ("parameters", .arrayOf (named "parameter-or-reference")),
    ("requestBody", named "request-body-or-reference"), ("responses", named "responses"),
    ("callbacks", .mapOf (named "callbacks-or-reference")), ("deprecated", .boolean),
    ("security", .arrayOf (named "security-requirement")), ("servers", .arrayOf (named "server"))]),
  ("callbacks", .rules [.type [.object], .ref "#/$defs/specification-extensions",
    .additionalProperties (named "path-item-or-reference")]),
  ("callbacks-or-reference", orReference "callbacks")]

/-- The ways to write a parameter, by its location. -/
def parameterStyles : Schema := .rules [
  .properties [("style", .string), ("explode", .boolean)],
  .allOf [
    named "examples",
    ifMember "in" "path" (.rules [
      .properties [("name", .rules [.pattern pathNamePattern]),
        ("style", words ["matrix", "label", "simple"]), ("required", .rules [.const (.bool true)])],
      .required ["required"]]),
    ifMember "in" "header" (.rules [.properties [("style", .rules [.const (.text "simple")])]]),
    ifMember "in" "query" (.rules [.properties [
      ("style", words ["form", "spaceDelimited", "pipeDelimited", "deepObject"]),
      ("allowReserved", .boolean)]]),
    ifMember "in" "cookie" (.rules [.properties [("style", .rules [.const (.text "form")])]]),
    .rules [.properties [("explode", .anything)]]]]

/-- A schema or a content, but not both. -/
def schemaOrContent : Keyword :=
  .oneOf [.rules [.required ["schema"]], .rules [.required ["content"]]]

/-- The content of a parameter or a header: a single media type. -/
def singleContent : Schema :=
  .rules [.ref "#/$defs/content", .minProperties 1, .maxProperties 1]

/-- Parameters, bodies and responses. -/
def messageObjects : Definitions := [
  ("parameter", .rules ([
    .type [.object],
    .properties [
      ("name", .string), ("in", words ["query", "header", "path", "cookie"]),
      ("description", .string), ("required", .boolean), ("deprecated", .boolean),
      ("schema", named "schema"), ("content", singleContent)],
    .required ["name", "in"],
    schemaOrContent,
    .cond (.rules [.properties [("in", .rules [.const (.text "query")])], .required ["in"]])
      (.rules [.properties [("allowEmptyValue", .boolean)]]) .anything,
    .dependentSchemas [("schema", parameterStyles)]] ++ closing)),
  ("parameter-or-reference", orReference "parameter"),
  ("request-body", objectWith ["content"] [
    ("description", .string), ("content", named "content"), ("required", .boolean)]),
  ("request-body-or-reference", orReference "request-body"),
  ("content", .rules [.type [.object], .additionalProperties (named "media-type")]),
  ("media-type", .rules [
    .type [.object],
    .properties [("schema", named "schema"), ("encoding", .mapOf (named "encoding"))],
    .allOf [named "specification-extensions", named "examples"],
    .unevaluatedProperties .nothing]),
  ("encoding", .rules [
    .type [.object],
    .properties [
      ("contentType", .string), ("headers", .mapOf (named "header-or-reference")),
      ("style", words ["form", "spaceDelimited", "pipeDelimited", "deepObject"]),
      ("explode", .boolean), ("allowReserved", .boolean)],
    .allOf [named "specification-extensions", .rules [.properties [("explode", .anything)]]],
    .unevaluatedProperties .nothing]),
  ("responses", .rules ([
    .type [.object],
    .properties [("default", named "response-or-reference")],
    .patternProperties [(codePattern, named "response-or-reference")],
    .minProperties 1] ++ closing ++ [
    .cond (.rules [.patternProperties [(codePattern, .nothing)]])
      (.rules [.required ["default"]]) .anything])),
  ("response", objectWith ["description"] [
    ("description", .string), ("headers", .mapOf (named "header-or-reference")),
    ("content", named "content"), ("links", .mapOf (named "link-or-reference"))]),
  ("response-or-reference", orReference "response"),
  ("header", .rules ([
    .type [.object],
    .properties [
      ("description", .string), ("required", .boolean), ("deprecated", .boolean),
      ("schema", named "schema"), ("content", singleContent)],
    schemaOrContent,
    .dependentSchemas [("schema", .rules [
      .properties [("style", .rules [.const (.text "simple")]), ("explode", .boolean)],
      .ref "#/$defs/examples"])]] ++ closing)),
  ("header-or-reference", orReference "header")]

/-- Examples, links, references and schemas. -/
def sharedObjects : Definitions := [
  ("example", .rules ([
    .type [.object],
    .properties [("summary", .string), ("description", .string), ("value", .anything),
      ("externalValue", .string)],
    .not (.rules [.required ["value", "externalValue"]])] ++ closing)),
  ("example-or-reference", orReference "example"),
  ("examples", .rules [.properties [
    ("example", .anything), ("examples", .mapOf (named "example-or-reference"))]]),
  ("link", .rules ([
    .type [.object],
    .properties [
      ("operationRef", .string), ("operationId", .string), ("parameters", named "map-of-strings"),
      ("requestBody", .anything), ("description", .string), ("body", named "server")],
    .oneOf [.rules [.required ["operationRef"]], .rules [.required ["operationId"]]]] ++ closing)),
  ("link-or-reference", orReference "link"),
  ("reference", .rules [
    .type [.object],
    .properties [("$ref", .string), ("summary", .string), ("description", .string)],
    .unevaluatedProperties .nothing]),
  ("schema", .rules [.type [.object, .boolean]]),
  ("map-of-strings", .mapOf .string),
  ("specification-extensions", .rules [.patternProperties [(extensionPattern, .anything)]])]

/-- A flow of an authorization with the given addresses, which have to be there. -/
def flow (addresses : List String) : Schema :=
  objectWith (addresses ++ ["scopes"])
    (addresses.map (fun a => (a, Schema.string)) ++
      [("refreshUrl", .string), ("scopes", named "map-of-strings")])

/-- Security. -/
def securityObjects : Definitions := [
  ("security-scheme", .rules [
    .type [.object],
    .properties [
      ("type", words ["apiKey", "http", "mutualTLS", "oauth2", "openIdConnect"]),
      ("description", .string)],
    .required ["type"],
    .allOf [
      named "specification-extensions",
      ifMember "type" "apiKey" (.rules [
        .properties [("name", .string), ("in", words ["query", "header", "cookie"])],
        .required ["name", "in"]]),
      ifMember "type" "http" (.rules [.properties [("scheme", .string)], .required ["scheme"]]),
      .rules [.cond
        (.rules [
          .properties [("type", .rules [.const (.text "http")]),
            ("scheme", .rules [.type [.string], .pattern bearerPattern])],
          .required ["type", "scheme"]])
        (.rules [.properties [("bearerFormat", .string)]]) .anything],
      ifMember "type" "oauth2" (.rules [
        .properties [("flows", named "oauth-flows")], .required ["flows"]]),
      ifMember "type" "openIdConnect" (.rules [
        .properties [("openIdConnectUrl", .string)], .required ["openIdConnectUrl"]])],
    .unevaluatedProperties .nothing]),
  ("security-scheme-or-reference", orReference "security-scheme"),
  ("oauth-flows", object [
    ("implicit", flow ["authorizationUrl"]), ("password", flow ["tokenUrl"]),
    ("clientCredentials", flow ["tokenUrl"]),
    ("authorizationCode", flow ["authorizationUrl", "tokenUrl"])]),
  ("security-requirement", .mapOf (.arrayOf .string))]

/-- All objects by name. -/
def definitions : Definitions :=
  (generalObjects ++ pathObjects ++ messageObjects ++ sharedObjects ++ securityObjects).map
    fun d => ("#/$defs/" ++ d.1, d.2)

end RouteAtlas.OpenApi31
