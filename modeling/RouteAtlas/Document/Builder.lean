import RouteAtlas.Document.Operation
import RouteAtlas.Document.Components

/-!
# Building a document

A document is a map, and it may be changed from outside between two steps, so no step relies on its
shape. `Edit` is a step that changes a document and may fail; what it changed before failing stays
changed. The steps: adding routes, copying recognizable schemas to the components, finishing, and
setting server and description.
-/

namespace RouteAtlas

/-- A document: the members of its top-level map. -/
abbrev Document := Members

/-- A step that changes a document and may fail. -/
abbrev Edit (α : Type) := ExceptT Fault (StateM Document) α

namespace Document

/-! ### A new document -/

/-- The version of the specification that documents follow. -/
def specificationVersion : String := "3.1.0"

/-- The description of documents without one. -/
def defaultDescription : String := "Auto-generated API documentation"

/-- The default title. -/
def defaultTitle : String := "REST API Documentation"

/-- The default version. -/
def defaultVersion : String := "1.0.0"

/-- The default server. -/
def defaultServer : String := "http://localhost:3000"

/-- The description of the development server. -/
def developmentServer : String := "Development server"

/-- The object that describes the interface as a whole. -/
def infoObject (title version description : Value) : Value :=
  .object [("title", title), ("version", version),
    ("description", description.orElse (.text defaultDescription))]

/-- The list of one server. -/
def serverList (url description : Value) : Value :=
  .list [.object [("url", url), ("description", description)]]

/-- A document without routes. -/
def new (title version description : Value) : Document := [
  (.text "openapi", .text specificationVersion),
  (.text "info", infoObject title version description),
  (.text "servers", serverList (.text defaultServer) (.text developmentServer)),
  (.text "paths", .map []),
  (.text "components", .object [("schemas", .map [])]),
  (.text "tags", .list [])]

/-! ### Members -/

/-- The member of a name, which has to be there. -/
def require (name : String) : Edit Value := do
  match Members.find? (← get) name with
  | some v => return v
  | none => throw (.missingKey (.text name))

/-- Sets a member. -/
def assign (name : String) (v : Value) : Edit Unit :=
  modify fun d => Members.put d name v

/-- The members of a value, asked for by an operation of the given name. -/
def membersFor (v : Value) (operation : String) : Edit Members :=
  match v.membersFor operation with
  | .ok ms => return ms
  | .error f => throw f

/-- The result of a reading, or its fault. -/
def read {α : Type} (r : Except Fault α) : Edit α :=
  match r with
  | .ok a => return a
  | .error f => throw f

/-! ### Tags -/

/-- Whether one of several tag objects has a name. -/
def anyNamed (name : String) : List Value → Except Fault Bool
  | [] => .ok false
  | t :: ts => do
    let v ← t.item "name"
    if v.text? == some name then return true else anyNamed name ts

/-- The tag object of a name. -/
def tagObject (name : String) : Value :=
  .object [("name", .text name), ("description", .text (name ++ " related endpoints"))]

/-- Adds a tag unless there is one of that name. -/
def addTag (name : String) : Edit Unit := do
  let tags ← require "tags"
  let present ← read (tags.iterate)
  if ← read (anyNamed name present) then return
  else
    match tags with
    | .list ts => assign "tags" (.list (ts ++ [tagObject name]))
    | v => throw (.noAttribute v.kind "append")

/-- Adds several tags. -/
def addTags : List String → Edit Unit
  | [] => return
  | t :: ts => do
    addTag t
    addTags ts

/-! ### Routes -/

/-- The path item of a path: the present one, or a new empty one. -/
def openPath (path : String) : Edit Value := do
  let paths ← membersFor (← require "paths") "setdefault"
  match Members.find? paths path with
  | some item => return item
  | none =>
    assign "paths" (.map (Members.put paths path (.map [])))
    return .map []

/-- Replaces the path item of a path. -/
def setPath (path : String) (item : Value) : Edit Unit := do
  match ← require "paths" with
  | .map paths => assign "paths" (.map (Members.put paths path item))
  | _ => return

/-- Adds the operation of a route to a path. -/
def addOperation (path : String) (route : Route) : Edit Unit := do
  let (method, operation) ← read (Operation.build route)
  let item ← openPath path
  setPath path (← read (item.setItem method.key operation))

/-- Adds the operations of several routes to a path. -/
def addOperations (path : String) : List Route → Edit Unit
  | [] => return
  | r :: rs => do
    addOperation path r
    addOperations path rs

/-- Routes grouped by path template, in the order in which the templates first appear. -/
def grouped : List Route → List (String × List Route)
  | [] => []
  | r :: rs =>
    let path := pathTemplate r.path
    let groups := grouped rs
    let same := (groups.find? fun g => g.1 == path).map (·.2)
    (path, r :: same.getD []) :: groups.filter fun g => g.1 != path

/-- Adds groups of routes. -/
def addGroups : List (String × List Route) → Edit Unit
  | [] => return
  | (path, routes) :: gs => do
    let _ ← openPath path
    addOperations path routes
    addGroups gs

/-- The tags of routes that are listed in the document. -/
def tagsOf (routes : List Route) : List String :=
  (routes.map fun r => Operation.tagOf r.path).filter (· != Operation.defaultTag)

/-- Adds routes: one operation for each, then their tags. -/
def addRoutes (routes : List Route) : Edit Unit := do
  let _ ← require "paths"
  addGroups (grouped routes)
  addTags (tagsOf routes)

/-! ### Components -/

/-- The values of a map; something empty counts as a map without members. -/
def valuesOf (v : Value) : Except Fault (List Value) :=
  if v.truthy then (v.membersFor "values").map (·.map (·.2)) else .ok []

/-- Copies a schema to the components if it is recognized and its name is free. -/
def liftSchema (schema : Value) : Edit Unit := do
  match schema with
  | .map ms =>
    if ((Members.find? ms "type").bind Value.text?) == some "object" then
      match schemaName? ms with
      | none => return
      | some name =>
        match ← require "components" with
        | .map components =>
          let schemas := (Members.find? components "schemas").getD (.map [])
          if ← read (schemas.holds (.text name)) then return
          else
            let schemas ← read (schemas.setItem name schema)
            assign "components" (.map (Members.put components "schemas" schemas))
        | _ => return
    else return
  | _ => return

/-- The schema of a media type. -/
def mediaSchema (media : Value) : Value :=
  match media with
  | .map ms => (Members.find? ms "schema").getD .null
  | _ => .null

/-- Applies a step to several values in order. -/
def forAll (step : Value → Edit Unit) : List Value → Edit Unit
  | [] => return
  | v :: vs => do
    step v
    forAll step vs

/-- Lifts the schemas of a response. -/
def liftResponse (response : Value) : Edit Unit := do
  match response with
  | .map ms =>
    let media ← read (valuesOf ((Members.find? ms "content").getD .null))
    forAll (fun m => liftSchema (mediaSchema m)) media
  | _ => return

/-- Lifts the schemas of an operation. -/
def liftOperation (operation : Value) : Edit Unit := do
  match operation with
  | .map ms =>
    let responses ← read (valuesOf ((Members.find? ms "responses").getD .null))
    forAll liftResponse responses
  | _ => return

/-- Lifts the schemas of a path item. -/
def liftPath (item : Value) : Edit Unit := do
  match item with
  | .map ms => forAll liftOperation (ms.map (·.2))
  | _ => return

/-- Makes sure that the components have a place for schemas. -/
def openSchemas : Edit Unit := do
  let components ← do
    match Members.find? (← get) "components" with
    | some v => pure v
    | none =>
      assign "components" (.map [])
      pure (Value.map [])
  let ms ← membersFor components "setdefault"
  if Members.has ms (.text "schemas") then return
  else assign "components" (.map (Members.put ms "schemas" (.map [])))

/-- Copies recognizable response schemas to the components. -/
def liftSchemas : Edit Unit := do
  openSchemas
  let paths ← membersFor (← require "paths") "values"
  forAll liftPath (paths.map (·.2))

/-! ### Finishing and settings -/

/-- The tags of a document that has none. -/
def defaultTags : Value :=
  .list [.object [("name", .text Operation.defaultTag), ("description", .text "API endpoints")]]

/-- Finishes a document: lifts schemas and makes sure that there is a tag. -/
def finish : Edit Unit := do
  liftSchemas
  let tags := (Members.find? (← get) "tags").getD .null
  if tags.truthy then return else assign "tags" defaultTags

/-- Sets the server. -/
def setServer (url description : Value) : Edit Unit :=
  assign "servers" (serverList url (description.orElse (.text "API Server")))

/-- Sets title, version and description. -/
def setInfo (title version description : Value) : Edit Unit :=
  assign "info" (infoObject title version description)

/-- The document after a step, and how the step ended. -/
def apply {α : Type} (d : Document) (e : Edit α) : Except Fault α × Document :=
  e.run d

end Document

end RouteAtlas
