import RouteAtlas.Route.Basic
import RouteAtlas.Value.Access

/-!
# Documents as Markdown

`Markdown.render` lists servers, tags and endpoints of a document, each endpoint with its parameters,
its request body and its responses. The document is read as it comes: a part of an unexpected shape
is a fault. The lines are put together last, so a description that is not a text is found only then.
-/

namespace RouteAtlas.Markdown

/-- The methods whose operations are listed. -/
def listedMethods : List Method := [.get, .post, .put, .delete, .patch]

/-- A line of text. -/
def line (s : String) : Value := .text s

/-- An empty line. -/
def blank : Value := .text ""

/-- The text of a value, or a default where it does not count as true. -/
def shown (v : Value) (default : String) : String :=
  if v.truthy then v.display else default

/-- The values of a list that something may stand for; nothing has none. -/
def itemsOf (v : Value) : Except Fault (List Value) :=
  if v.truthy then v.iterate else .ok []

/-- The members of a map that something may stand for; nothing has none. -/
def entriesOf (v : Value) : Except Fault Members :=
  if v.truthy then v.membersFor "items" else .ok []

/-- The lines of several parts, one after the other. -/
def linesOf {α : Type} (render : α → Except Fault (List Value)) : List α → Except Fault (List Value)
  | [] => .ok []
  | a :: as => do
    let first ← render a
    let rest ← linesOf render as
    return first ++ rest

/-! ### Tables -/

/-- A row of a table. -/
def row (cells : List String) : Value :=
  line ("| " ++ Text.join " | " cells ++ " |")

/-- The word for a truth value in a table. -/
def yesNo (b : Bool) : String := if b then "yes" else "no"

/-- The row of a parameter. -/
def parameterRow (p : Value) : Except Fault (List Value) := do
  let schema ← p.member "schema"
  let type ← (schema.orElse (.map [])).memberD "type" (.text "string")
  let required ← p.member "required"
  let name ← p.member "name"
  let place ← p.member "in"
  let description ← p.member "description"
  return [row [name.display, place.display, type.display, yesNo required.truthy,
    shown description "-"]]

/-- The table of parameters. -/
def parameterTable (params : List Value) : Except Fault (List Value) := do
  if params.isEmpty then return []
  let rows ← linesOf parameterRow params
  return [line "#### Parameters", blank,
    line "| Name | In | Type | Required | Description |",
    line "|------|-----|------|----------|-------------|"] ++ rows ++ [blank]

/-! ### Bodies -/

/-- The schema of the JSON body of a request body or a response. -/
def jsonSchema (holder : Value) : Except Fault (Option Members) := do
  match holder with
  | .map ms =>
    let content := ((Members.find? ms "content").getD .null).orElse (.map [])
    match ← content.member "application/json" with
    | .map media =>
      match Members.find? media "schema" with
      | some (.map schema) => return some schema
      | _ => return none
    | _ => return none
  | _ => return none

/-- The properties of a schema, if it has any. -/
def propertiesOf (schema : Option Members) : Value :=
  ((schema.bind fun ms => Members.find? ms "properties")).getD .null

/-- The row of a property of a request body. -/
def propertyRow (required : Value) (p : Scalar × Value) : Except Fault (List Value) := do
  let isRequired ← required.holds p.1
  let type ← p.2.memberD "type" (.text "string")
  let description ← p.2.member "description"
  return [row [p.1.display, type.display, yesNo isRequired, shown description "-"]]

/-- The table of the properties of a request body. -/
def bodyTable (body : Value) : Except Fault (List Value) := do
  let schema ← jsonSchema body
  let properties := propertiesOf schema
  if !properties.truthy then return []
  let required := ((schema.bind fun ms => Members.find? ms "required").getD .null).orElse (.list [])
  let rows ← linesOf (propertyRow required) (← properties.membersFor "items")
  return [line "#### Request Body", blank,
    line "| Field | Type | Required | Description |",
    line "|-------|------|----------|-------------|"] ++ rows ++ [blank]

/-- The line of a property of a response. -/
def propertyLine (p : Scalar × Value) : Except Fault (List Value) := do
  let type ← p.2.memberD "type" (.text "string")
  return [line ("  \"" ++ p.1.display ++ "\": \"" ++ type.display ++ "\"")]

/-- The lines of a response. -/
def responseLines (r : Scalar × Value) : Except Fault (List Value) := do
  let description ← r.2.member "description"
  let heading := [line ("**" ++ r.1.display ++ "** - " ++ shown description ""), blank]
  let properties := propertiesOf (← jsonSchema r.2)
  if !properties.truthy then return heading
  let body ← linesOf propertyLine (← properties.membersFor "items")
  return heading ++ [line "```json", line "\x7b"] ++ body ++ [line "\x7d", line "```", blank]

/-- The section of the responses. -/
def responseSection (responses : Value) : Except Fault (List Value) := do
  if !responses.truthy then return []
  let body ← linesOf responseLines (← entriesOf responses)
  return [line "#### Responses", blank] ++ body

/-! ### Operations -/

/-- A text in backticks. -/
def code (s : String) : String := "`" ++ s ++ "`"

/-- The line of the tags of an operation. -/
def tagLines (tags : Value) : Except Fault (List Value) := do
  if !tags.truthy then return []
  let names ← tags.iterate
  return [line ("**Tags:** " ++ Text.join ", " (names.map fun t => code t.display)), blank]

/-- The lines of an operation. -/
def operationLines (path : Scalar) (method : Method) (operation : Value) :
    Except Fault (List Value) := do
  let summary ← operation.member "summary"
  let description ← operation.member "description"
  let tags ← tagLines (← operation.member "tags")
  let params ← parameterTable (← itemsOf (← operation.member "parameters"))
  let body ← bodyTable (← operation.member "requestBody")
  let responses ← responseSection (← operation.member "responses")
  return [line ("### " ++ code method.name ++ " " ++ path.display), blank] ++
    (if summary.truthy then [line ("**" ++ summary.display ++ "**"), blank] else []) ++
    (if description.truthy then [description, blank] else []) ++
    tags ++ params ++ body ++ responses ++ [line "---", blank]

/-- The lines of the listed operations of a path item. -/
def pathLines (entry : Scalar × Value) : Except Fault (List Value) :=
  linesOf (fun (m : Method) => do
    let operation ← entry.2.member m.key
    if operation.truthy then operationLines entry.1 m operation else return []) listedMethods

/-! ### Documents -/

/-- The line of a server. -/
def serverLine (s : Value) : Except Fault (List Value) := do
  let description ← s.member "description"
  let url ← s.member "url"
  return [line ("- **" ++ shown description "Server" ++ ":** " ++ code url.display)]

/-- The line of a tag. -/
def tagLine (t : Value) : Except Fault (List Value) := do
  let name ← t.member "name"
  let description ← t.member "description"
  return [line ("- **" ++ name.display ++ "** - " ++ shown description "")]

/-- A section with a heading; nothing if what it lists is absent. -/
def listSection (heading : String) (render : Value → Except Fault (List Value)) (v : Value) :
    Except Fault (List Value) := do
  if !v.truthy then return []
  let body ← linesOf render (← v.iterate)
  return [line ("## " ++ heading), blank] ++ body ++ [blank]

/-- The lines of a document. -/
def documentLines (document : Value) (stamp : String) : Except Fault (List Value) := do
  let info := (← document.member "info").orElse (.map [])
  let title ← info.member "title"
  let description ← info.member "description"
  let version ← info.member "version"
  let servers ← listSection "Servers" serverLine (← document.member "servers")
  let tags ← listSection "Tags" tagLine (← document.member "tags")
  let paths ← linesOf pathLines (← entriesOf (← document.member "paths"))
  return [line ("# " ++ shown title "API Documentation"), blank] ++
    (if description.truthy then [description, blank] else []) ++
    [line ("**Version:** " ++ shown version "1.0.0"), blank] ++
    servers ++ tags ++ [line "## Endpoints", blank] ++ paths ++
    [blank, line "---", line "*Auto-generated by express-openapi*",
      line ("*Generated on: " ++ stamp ++ "*")]

/-- The texts of lines, of which the first has the given number. -/
def textsOf : Nat → List Value → Except Fault (List String)
  | _, [] => .ok []
  | n, v :: vs =>
    match v.text? with
    | some s => (textsOf (n + 1) vs).map (s :: ·)
    | none => .error (.notText n v.kind)

/-- A document as Markdown, with the time at which it was made. -/
def render (document : Value) (stamp : String) : Except Fault String := do
  let lines ← documentLines document stamp
  let texts ← textsOf 0 lines
  return Text.join "\n" texts ++ "\n"

end RouteAtlas.Markdown
