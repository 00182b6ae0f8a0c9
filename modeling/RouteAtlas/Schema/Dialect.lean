import RouteAtlas.Schema.Evaluation

/-!
# The schema of schemas

`Dialect.root` is the schema that every schema inside a document has to keep: its own description of
the rules a schema may have. `Dialect.firstFinding` is the first rule that a schema breaks.
-/

namespace RouteAtlas.Dialect

open Schema

/-- A schema of schemas again. -/
def anySchema : Schema := .ref "#meta"

/-- A list of schemas, at least one. -/
def schemaArray : Schema := .rules [.type [.array], .minItems 1, .items anySchema]

/-- Schemas by name. -/
def schemaMap : Schema := .mapOf anySchema

/-- A list of different texts. -/
def stringArray : Schema := .rules [.type [.array], .items .string, .uniqueItems]

/-- A number that is not negative. -/
def count : Schema := .rules [.type [.integer], .minimum 0 false]

/-- A number. -/
def number : Schema := .ofType .number

/-- The names of the kinds of data. -/
def simpleTypes : Schema := .rules [.enumeration
  (["array", "boolean", "integer", "null", "number", "object", "string"].map .text)]

/-- Identifiers: addresses without a fragment. -/
def idPattern : Pattern where
  source := "^[^#]*#?$"
  body := .seq (.many (.one (· != '#'))) (.optional (.char '#'))

/-- The names of places inside a schema. -/
def anchorPattern : Pattern where
  source := "^[A-Za-z_][-A-Za-z0-9._]*$"
  body := .seq (.one fun c => c.isAlpha || c == '_')
    (.many (.one fun c => c.isAlphanum || c == '-' || c == '.' || c == '_'))

/-- The name of a place. -/
def anchor : Schema := .rules [.type [.string], .pattern anchorPattern]

/-- The rules of one group. -/
def group (rules : List (String × Schema)) : Schema :=
  .rules [.type [.object, .boolean], .properties rules]

/-- Names and references. -/
def core : Schema := group [
  ("$id", .rules [.ref "#text", .pattern idPattern]), ("$schema", .string), ("$ref", .string),
  ("$anchor", anchor), ("$dynamicRef", .string), ("$dynamicAnchor", anchor),
  ("$vocabulary", .mapOf .boolean), ("$comment", .string), ("$defs", schemaMap)]

/-- Rules about parts. -/
def applicator : Schema := group [
  ("prefixItems", schemaArray), ("items", anySchema), ("contains", anySchema), ("additionalProperties", anySchema),
  ("properties", schemaMap), ("patternProperties", schemaMap), ("dependentSchemas", schemaMap),
  ("propertyNames", anySchema), ("if", anySchema), ("then", anySchema), ("else", anySchema), ("allOf", schemaArray),
  ("anyOf", schemaArray), ("oneOf", schemaArray), ("not", anySchema)]

/-- Rules about parts that no other rule covers. -/
def unevaluated : Schema := group [("unevaluatedItems", anySchema), ("unevaluatedProperties", anySchema)]

/-- Rules about the value itself. -/
def validation : Schema := group [
  ("type", .rules [.anyOf [simpleTypes,
    .rules [.type [.array], .items simpleTypes, .minItems 1, .uniqueItems]]]),
  ("const", .anything), ("enum", .rules [.type [.array], .items .anything]),
  ("multipleOf", .rules [.type [.number], .minimum 0 true]), ("maximum", number),
  ("exclusiveMaximum", number), ("minimum", number), ("exclusiveMinimum", number),
  ("maxLength", count), ("minLength", count), ("pattern", .string), ("maxItems", count),
  ("minItems", count), ("uniqueItems", .boolean), ("maxContains", count), ("minContains", count),
  ("maxProperties", count), ("minProperties", count), ("required", stringArray),
  ("dependentRequired", .mapOf stringArray)]

/-- Notes. -/
def notes : Schema := group [
  ("title", .string), ("description", .string), ("default", .anything), ("deprecated", .boolean),
  ("readOnly", .boolean), ("writeOnly", .boolean),
  ("examples", .rules [.type [.array], .items .anything])]

/-- Formats. -/
def formats : Schema := group [("format", .string)]

/-- Texts that hold data of other formats. -/
def contents : Schema := group [
  ("contentEncoding", .string), ("contentMediaType", .string), ("contentSchema", anySchema)]

/-- The schema of schemas. -/
def root : Schema := .rules [
  .allOf [core, applicator, unevaluated, validation, notes, formats, contents],
  .type [.object, .boolean],
  .properties [
    ("definitions", schemaMap),
    ("dependencies", .mapOf (.rules [.anyOf [anySchema, stringArray]])),
    ("$recursiveAnchor", anchor), ("$recursiveRef", .string)]]

/-- The schema of schemas by name. -/
def definitions : Definitions := [("#meta", root), ("#text", .string)]

/-- What is wrong with a schema: the first rule it breaks, if it breaks one. -/
def firstFinding (schema : Value) : Findings :=
  match Schema.check definitions root schema with
  | ⟨f :: _, _⟩ => .one f
  | ⟨[], b⟩ => ⟨[], b⟩

end RouteAtlas.Dialect
