import RouteAtlas.Route.Template
import RouteAtlas.Text.Casing
import RouteAtlas.Value.Access

/-!
# The operation of a route

How a route record becomes an operation object: summary and identifier from the method and the
first segment of the path, parameters from path and query, a request body from the body parameters,
and the responses, among which there is always a successful one.
-/

namespace RouteAtlas

namespace Operation

/-! ### Names from the path -/

/-- The segments of a path, without the slashes it begins with. -/
def segments (path : String) : List String :=
  Text.split '/' (String.ofList (path.toList.dropWhile (· == '/')))

/-- The name of the resource that a path is about: its first segment, capitalized. -/
def resource (path : String) : String :=
  match segments path with
  | first :: _ => Text.capitalize (if first == "" then "resource" else first)
  | [] => Text.capitalize "resource"

/-- Whether a segment stands for something fixed: it is not empty and not a parameter. -/
def isFixed (segment : String) : Bool :=
  segment != "" && !Text.beginsWith segment ":" && !Text.beginsWith segment "\x7b"

/-- The tag of operations whose path has no fixed segment. -/
def defaultTag : String := "Default"

/-- The tag of the operations of a path: the first fixed segment, capitalized. -/
def tagOf (path : String) : String :=
  match (segments path).find? isFixed with
  | some segment => Text.capitalize segment
  | none => defaultTag

/-- The identifier of the operation of a route: the name of its handler or, where it has none, one
made of the method and the resource. -/
def identifier (method : Method) (route : Route) : String :=
  if route.handler != anonymousHandler && route.handler != inlineHandler then route.handler
  else
    method.key ++ resource route.path ++ (if Text.contains route.path ":" then "ById" else "")

/-! ### Parts -/

/-- A text, or a default where it is empty. -/
def orDefault (s default : String) : String := if s == "" then default else s

/-- The parameter object of a parameter. -/
def parameterObject (p : Parameter) : Value :=
  .object [("name", .text p.name), ("in", .text p.location),
    ("description", .text (orDefault p.description (p.name ++ " parameter"))),
    ("required", .bool p.required),
    ("schema", .object [("type", .text (orDefault p.dataType "string"))])]

/-- Whether a parameter is described by a parameter object. -/
def isListed (p : Parameter) : Bool := p.location == "path" || p.location == "query"

/-- The parameter objects of a route. -/
def parameterObjects (route : Route) : List Value :=
  (route.parameters.filter isListed).map parameterObject

/-- The schema of one property of a request body. -/
def propertySchema (p : Parameter) : Value :=
  .object ([("type", .text (orDefault p.dataType "string"))] ++
    (if p.description == "" then [] else [("description", .text p.description)]))

/-- The request body that is made of body parameters. -/
def requestBody (params : List Parameter) : Value :=
  let properties := params.foldl (fun ms p => Members.put ms p.name (propertySchema p)) []
  let required := (params.filter (·.required)).map (·.name)
  let schema := [("type", .text "object"), ("properties", .map properties)] ++
    (if required.isEmpty then [] else [("required", Value.texts required)])
  .object [("description", .text "Request body"), ("required", .bool !required.isEmpty),
    ("content", .object [("application/json", .object [("schema", .object schema)])])]

/-- The schema of a response whose body has not been seen. -/
def messageSchema : Value :=
  .object [("type", .text "object"),
    ("properties", .object [("message", .object [("type", .text "string")])])]

/-- The schema of a response. -/
def responseSchema (r : Response) : Value :=
  match r.schema with
  | some (m :: ms) => .map (m :: ms)
  | _ => messageSchema

/-- The response object of a response. -/
def responseObject (r : Response) : Value :=
  .object ([("description", .text r.description)] ++
    (if r.contentType == "" then []
    else [("content", .object [(r.contentType, .object [("schema", responseSchema r)])])]))

/-- The response object of a success that has not been seen. -/
def successObject : Value :=
  .object [("description", .text "Successful response"),
    ("content", .object [("application/json", .object
      [("schema", .object [("type", .text "object")])])])]

/-- The responses object of a route. -/
def responsesObject (route : Route) : Members :=
  let seen := route.responses.foldl
    (fun ms r => Members.put ms (Text.integer r.statusCode) (responseObject r)) []
  if Members.has seen (.text "200") then seen else Members.put seen "200" successObject

/-! ### The operation -/

/-- The operation of a route of a known method. -/
def ofRoute (method : Method) (route : Route) : Value :=
  let description := (route.description.getD "")
  let base := [("summary", .text (method.action ++ " " ++ resource route.path)),
    ("description",
      .text (orDefault description (route.method ++ " operation for " ++ route.path))),
    ("operationId", .text (identifier method route)),
    ("tags", Value.texts [tagOf route.path]),
    ("parameters", .list (parameterObjects route)),
    ("responses", .map (responsesObject route))]
  let body := route.parametersIn "body"
  .object (base ++
    (if method.hasBody && !body.isEmpty then [("requestBody", requestBody body)] else []))

/-- The operation of a route; the method has to be a known one. -/
def build (route : Route) : Except Fault (Method × Value) :=
  match Method.ofName? route.method with
  | some m => .ok (m, ofRoute m route)
  | none => .error (.missingKey (.text route.method))

end Operation

end RouteAtlas
