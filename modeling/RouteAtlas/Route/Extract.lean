import RouteAtlas.Route.Sighting
import RouteAtlas.Route.Template
import RouteAtlas.Script.Parsing
import RouteAtlas.Console

/-!
# Finding the routes of a source text

`extractRoutes` parses a source text and turns every registration with a literal path into a
record. What the handler shows of parameters and responses is collected in source order; of
several sightings of the same parameter or status the first one decides.
-/

namespace RouteAtlas

open Script

/-! ### What a handler shows -/

/-- The query parameters that a handler uses. -/
def queryParameters (handler : Tree) : List Parameter :=
  (firstByKey id (handler.nodes.filterMap (Sighting.requestMember? "query"))).map fun name =>
    ⟨name, "query", false, "string", ""⟩

/-- The parts of the body that a handler uses. -/
def bodyParameters (handler : Tree) : List Parameter :=
  (firstByKey Prod.fst (handler.nodes.flatMap Sighting.bodyParameters)).map fun p =>
    ⟨p.1, "body", p.2, "string", ""⟩

/-- The responses that a handler sends. -/
def sentResponses (handler : Tree) : List Response :=
  firstByKey Response.statusCode (handler.nodes.filterMap Sighting.response?)

/-! ### Registrations -/

/-- The name of a handler. -/
def handlerName : Tree → String
  | .identifier name => name
  | .function _ => inlineHandler
  | _ => anonymousHandler

/-- What a handler written in place shows of its parameters. -/
def handlerParameters : Tree → List Parameter
  | .function parts => queryParameters (.function parts) ++ bodyParameters (.function parts)
  | _ => []

/-- What a handler written in place shows of its responses; at least success. -/
def handlerResponses : Tree → List Response
  | .function parts =>
    match sentResponses (.function parts) with
    | [] => [Response.success]
    | rs => rs
  | _ => [Response.success]

/-- The middleware that an argument refers to. -/
def middleware? : Tree → Option Middleware
  | .identifier name => some (Middleware.ofName name)
  | _ => none

/-- The record of a registration, if its path is a literal text. -/
def routeOf? (filePath : String) (r : Sighting.Registration) : Option Route :=
  match r.arguments with
  | .text path :: rest =>
    let handler := rest.getLast?.getD (.text path)
    some {
      method := r.method.name
      path := path
      handler := handlerName handler
      parameters := pathParameters path ++ handlerParameters handler
      responses := handlerResponses handler
      middlewares := rest.dropLast.filterMap middleware?
      filePath := filePath
      lineNumber := some (r.row + 1 : Nat) }
  | _ => none

/-- The routes registered in a tree, in source order. -/
def routesOf (filePath : String) (tree : Tree) : List Route :=
  (tree.nodes.filterMap Sighting.registration?).filterMap (routeOf? filePath)

/-- The routes registered in a source text. -/
def extractRoutes (source filePath : String) : Except SourceError (List Route) :=
  (parse source).map (routesOf filePath)

/-- The line that reports a source text that cannot be read. -/
def unreadableLine (filePath : String) (e : SourceError) : String :=
  "  Could not parse " ++ filePath ++ ": " ++ e.message

/-- The routes registered in a source text; one that cannot be read is reported and has none. -/
def discoverRoutes (source filePath : String) (console : Console) : List Route × Console :=
  match extractRoutes source filePath with
  | .ok routes => (routes, console)
  | .error e => ([], console.warn (unreadableLine filePath e))

end RouteAtlas
