import RouteAtlas.Value.Basic

/-!
# Route records

A `Route` says what is known about one registration of a request handler: method, path pattern,
handler name, parameters, responses and the middlewares in front of the handler. Records may also
come from outside, so methods and parameter locations are texts; `Method` names the seven methods
the library itself knows.
-/

namespace RouteAtlas

/-- The request methods that a registration may use. -/
inductive Method
  | get | post | put | delete | patch | options | head
deriving DecidableEq

namespace Method

/-- All methods, in the order in which they are tried. -/
def all : List Method := [.get, .post, .put, .delete, .patch, .options, .head]

/-- The name of a method in a request line. -/
def name : Method → String
  | .get => "GET"
  | .post => "POST"
  | .put => "PUT"
  | .delete => "DELETE"
  | .patch => "PATCH"
  | .options => "OPTIONS"
  | .head => "HEAD"

/-- The name of a method as a member of a path item. -/
def key : Method → String
  | .get => "get"
  | .post => "post"
  | .put => "put"
  | .delete => "delete"
  | .patch => "patch"
  | .options => "options"
  | .head => "head"

/-- The method of a name. -/
def ofName? (s : String) : Option Method :=
  all.find? fun m => m.name == s

/-- The verb that describes what a method does to a resource. -/
def action : Method → String
  | .get => "Get"
  | .post => "Create"
  | .put => "Update"
  | .patch => "Update"
  | .delete => "Delete"
  | .options => "Options"
  | .head => "Head"

/-- Whether an operation of this method describes a request body. -/
def hasBody : Method → Bool
  | .post | .put | .patch => true
  | _ => false

/-- Reading a method's own name gives the method back. -/
@[simp]
theorem ofName?_name (m : Method) : ofName? m.name = some m := by
  cases m <;> rfl

end Method

/-- A parameter of a route. -/
structure Parameter where
  /-- The name of the parameter. -/
  name : String
  /-- Where it is found: in the path, the query or the body. -/
  location : String
  /-- Whether a request has to give it. -/
  required : Bool
  /-- The type of its values. -/
  dataType : String := "string"
  /-- What it means. -/
  description : String := ""
deriving DecidableEq

/-- A response that a handler sends. -/
structure Response where
  /-- The status code. -/
  statusCode : Int
  /-- What the response means. -/
  description : String
  /-- The media type of the body. -/
  contentType : String := "application/json"
  /-- The schema of the body, if its shape could be seen. -/
  schema : Option Members := none

/-- A middleware between the path and the handler. -/
structure Middleware where
  /-- The name it is referred to by. -/
  name : String
  /-- What it is there for. -/
  kind : String
deriving DecidableEq

/-- One registration of a request handler. -/
structure Route where
  /-- The request method. -/
  method : String
  /-- The path pattern, as written in the source. -/
  path : String
  /-- The name of the handler. -/
  handler : String
  /-- A description, if someone gave one. -/
  description : Option String := none
  /-- The parameters, in order of discovery. -/
  parameters : List Parameter := []
  /-- The responses, in order of discovery. -/
  responses : List Response := []
  /-- The middlewares, in order. -/
  middlewares : List Middleware := []
  /-- The file of the registration. -/
  filePath : String := ""
  /-- The line of the registration. -/
  lineNumber : Option Int := none

/-- The response assumed of a handler that was not seen sending any. -/
def Response.success : Response := ⟨200, "Success", "application/json", none⟩

/-- The parameters in one location. -/
def Route.parametersIn (r : Route) (location : String) : List Parameter :=
  r.parameters.filter (·.location == location)

/-- The handler name of a function written in place. -/
def inlineHandler : String := "inline function"

/-- The handler name of anything else without a name. -/
def anonymousHandler : String := "anonymous"

/-! ### First sightings -/

/-- Keeps, of several entries with the same key, the first one. -/
def firstByKey {α κ : Type} [BEq κ] (key : α → κ) : List α → List α
  | [] => []
  | a :: as => a :: (firstByKey key as).filter fun b => !(key b == key a)

/-- No key is left twice. -/
theorem nodup_firstByKey {α κ : Type} [BEq κ] [LawfulBEq κ] (key : α → κ) (as : List α) :
    ((firstByKey key as).map key).Nodup := by
  induction as with
  | nil => exact List.nodup_nil
  | cons a as ih =>
    refine List.nodup_cons.2 ⟨?_, (List.filter_sublist.map key).nodup ih⟩
    intro h
    obtain ⟨b, hb, hk⟩ := List.mem_map.1 h
    have hne := (List.mem_filter.1 hb).2
    simp [hk] at hne

/-- Nothing new comes in. -/
theorem mem_of_mem_firstByKey {α κ : Type} [BEq κ] {key : α → κ} {as : List α} {a : α}
    (h : a ∈ firstByKey key as) : a ∈ as := by
  induction as with
  | nil => exact h
  | cons b bs ih =>
    rcases List.mem_cons.1 h with rfl | h
    · exact List.mem_cons_self
    · exact List.mem_cons_of_mem _ (ih (List.mem_filter.1 h).1)

/-! ### Status codes -/

/-- The description of a status code. -/
def statusDescription (code : Int) : String :=
  if code == 200 then "Success"
  else if code == 201 then "Created"
  else if code == 204 then "No Content"
  else if code == 400 then "Bad Request"
  else if code == 401 then "Unauthorized"
  else if code == 403 then "Forbidden"
  else if code == 404 then "Not Found"
  else if code == 500 then "Internal Server Error"
  else "Unknown"

end RouteAtlas
