import RouteAtlas.Document.Builder

/-!
# Documents from routes alone

`quickDocument` describes routes by what is known from their source, without asking a model.
-/

namespace RouteAtlas

/-- What a document is called and where the interface is served. -/
structure Heading where
  /-- The title. -/
  title : Value := .text Document.defaultTitle
  /-- The version. -/
  version : Value := .text Document.defaultVersion
  /-- The address of the server. -/
  server : Value := .text Document.defaultServer

namespace Document

/-- The last steps of every document: schemas, tags and the server. -/
def conclude (server : Value) : Edit Unit := do
  finish
  setServer server (.text developmentServer)

end Document

/-- The document of routes, from what is known about them. -/
def quickDocument (routes : List Route) (heading : Heading) : Except Fault Document :=
  let steps : Edit Unit := do
    Document.addRoutes routes
    Document.conclude heading.server
  match Document.apply (Document.new heading.title heading.version .null) steps with
  | (.ok _, d) => .ok d
  | (.error f, _) => .error f

end RouteAtlas
