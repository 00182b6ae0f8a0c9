import RouteAtlas.Text.Regex
import RouteAtlas.Value.Display

/-!
# Schemas

A `Schema` says which values are allowed: all, none, or those that keep a list of rules. The order of
the rules is the order in which broken rules are reported. Schemas refer to each other by name.
`Schema.toValue` is a schema as data, for messages that show it.
-/

namespace RouteAtlas

/-- The kinds of data that schemas know. -/
inductive DataType
  | null
  | boolean
  | object
  | array
  | number
  | string
  /-- A number without a fraction. -/
  | integer
  /-- A number without a fraction that is written without one too. -/
  | plainInteger

/-- The name of a kind. -/
def DataType.name : DataType → String
  | .null => "null"
  | .boolean => "boolean"
  | .object => "object"
  | .array => "array"
  | .number => "number"
  | .string => "string"
  | .integer => "integer"
  | .plainInteger => "integer"

/-- Whether a value is of a kind. Truth values are no numbers. -/
def DataType.holds : DataType → Value → Bool
  | .null, .scalar .null => true
  | .boolean, .scalar (.bool _) => true
  | .object, .map _ => true
  | .array, .list _ => true
  | .number, .scalar (.int _) => true
  | .number, .scalar (.float _) => true
  | .string, .scalar (.text _) => true
  | .integer, .scalar (.int _) => true
  | .integer, .scalar (.float x) => (Decimal.integerOfFloat? x).isSome
  | .plainInteger, .scalar (.int _) => true
  | _, _ => false

mutual

/-- A schema. -/
inductive Schema
  /-- Every value is allowed. -/
  | anything
  /-- No value is allowed. -/
  | nothing
  /-- The values that keep all rules are allowed. -/
  | rules (keywords : List Keyword)

/-- A rule. Rules about one kind of data are kept by data of other kinds. -/
inductive Keyword
  /-- The value is of one of several kinds. -/
  | type (types : List DataType)
  /-- The value is a given scalar. -/
  | const (value : Scalar)
  /-- The value is one of several scalars. -/
  | enumeration (values : List Scalar)
  /-- A pattern is found in the text. -/
  | pattern (p : Pattern)
  /-- The number is at least, or more than, a bound. -/
  | minimum (bound : Int) (exclusive : Bool)
  /-- The list has at least so many items. -/
  | minItems (n : Nat)
  /-- The items of the list differ from each other. -/
  | uniqueItems
  /-- The items of the list are allowed by a schema. -/
  | items (schema : Schema)
  /-- The map has at least so many members. -/
  | minProperties (n : Nat)
  /-- The map has at most so many members. -/
  | maxProperties (n : Nat)
  /-- The map has these members. -/
  | required (names : List String)
  /-- The members of these names are allowed by schemas. -/
  | properties (schemas : List (String × Schema))
  /-- The members whose names fit a pattern are allowed by a schema. -/
  | patternProperties (schemas : List (Pattern × Schema))
  /-- The members that the two rules above say nothing about are allowed by a schema. -/
  | additionalProperties (schema : Schema)
  /-- The names of the members are allowed by a schema. -/
  | propertyNames (schema : Schema)
  /-- If the map has a member, the map is allowed by a schema. -/
  | dependentSchemas (schemas : List (String × Schema))
  /-- The value is allowed by all schemas. -/
  | allOf (schemas : List Schema)
  /-- The value is allowed by some schema. -/
  | anyOf (schemas : List Schema)
  /-- The value is allowed by exactly one schema. -/
  | oneOf (schemas : List Schema)
  /-- The value is not allowed by a schema. -/
  | not (schema : Schema)
  /-- The value is allowed by the second schema if the first allows it, and else by the third. -/
  | cond (test yes no : Schema)
  /-- The value is allowed by the schema of a name. -/
  | ref (name : String)
  /-- The members that no other rule says anything about are allowed by a schema. -/
  | unevaluatedProperties (schema : Schema)

end

/-- The name of a rule. -/
def Keyword.name : Keyword → String
  | .type _ => "type"
  | .const _ => "const"
  | .enumeration _ => "enum"
  | .pattern _ => "pattern"
  | .minimum _ exclusive => if exclusive then "exclusiveMinimum" else "minimum"
  | .minItems _ => "minItems"
  | .uniqueItems => "uniqueItems"
  | .items _ => "items"
  | .minProperties _ => "minProperties"
  | .maxProperties _ => "maxProperties"
  | .required _ => "required"
  | .properties _ => "properties"
  | .patternProperties _ => "patternProperties"
  | .additionalProperties _ => "additionalProperties"
  | .propertyNames _ => "propertyNames"
  | .dependentSchemas _ => "dependentSchemas"
  | .allOf _ => "allOf"
  | .anyOf _ => "anyOf"
  | .oneOf _ => "oneOf"
  | .not _ => "not"
  | .cond _ _ _ => "if"
  | .ref _ => "$ref"
  | .unevaluatedProperties _ => "unevaluatedProperties"

/-- The names of kinds as data: a single one stands for itself. -/
def typesValue : List DataType → Value
  | [t] => .text t.name
  | ts => .texts (ts.map DataType.name)

mutual

/-- A schema as data. -/
def Schema.toValue : Schema → Value
  | .anything => .bool true
  | .nothing => .bool false
  | .rules ks => .map (rulesMembers ks)

/-- Rules as the members of a map. -/
def rulesMembers : List Keyword → Members
  | [] => []
  | k :: ks => (.text k.name, Keyword.toValue k) :: rulesMembers ks

/-- What a rule says, as data. -/
def Keyword.toValue : Keyword → Value
  | .type ts => typesValue ts
  | .const v => .scalar v
  | .enumeration vs => .list (vs.map .scalar)
  | .pattern p => .text p.source
  | .minimum n _ => .int n
  | .minItems n => .int n
  | .uniqueItems => .bool true
  | .items s => s.toValue
  | .minProperties n => .int n
  | .maxProperties n => .int n
  | .required names => .texts names
  | .properties ss => .map (namedMembers ss)
  | .patternProperties ss => .map (patternMembers ss)
  | .additionalProperties s => s.toValue
  | .propertyNames s => s.toValue
  | .dependentSchemas ss => .map (namedMembers ss)
  | .allOf ss => .list (schemaValues ss)
  | .anyOf ss => .list (schemaValues ss)
  | .oneOf ss => .list (schemaValues ss)
  | .not s => s.toValue
  | .cond test _ _ => test.toValue
  | .ref name => .text name
  | .unevaluatedProperties s => s.toValue

/-- Schemas as data. -/
def schemaValues : List Schema → List Value
  | [] => []
  | s :: ss => s.toValue :: schemaValues ss

/-- Schemas by name as the members of a map. -/
def namedMembers : List (String × Schema) → Members
  | [] => []
  | (name, s) :: ss => (.text name, s.toValue) :: namedMembers ss

/-- Schemas by pattern as the members of a map. -/
def patternMembers : List (Pattern × Schema) → Members
  | [] => []
  | (p, s) :: ss => (.text p.source, s.toValue) :: patternMembers ss

end

/-- The schemas of names. -/
abbrev Definitions := List (String × Schema)

/-- The schema of a name. -/
def Definitions.find (defs : Definitions) (name : String) : Schema :=
  ((defs.find? fun d => d.1 == name).map (·.2)).getD .anything

namespace Schema

/-! ### Short forms -/

/-- The values of one kind. -/
def ofType (t : DataType) : Schema := .rules [.type [t]]

/-- Texts. -/
def string : Schema := ofType .string

/-- Truth values. -/
def boolean : Schema := ofType .boolean

/-- Lists of what a schema allows. -/
def arrayOf (s : Schema) : Schema := .rules [.type [.array], .items s]

/-- Maps to what a schema allows. -/
def mapOf (s : Schema) : Schema := .rules [.type [.object], .additionalProperties s]

/-- The values allowed by the schema of a name. -/
def ref (name : String) : Schema := .rules [.ref name]

end Schema

end RouteAtlas
