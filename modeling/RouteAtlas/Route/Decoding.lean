import RouteAtlas.Route.Basic
import RouteAtlas.Value.Decoding

/-!
# Route records as data

`Route.decode` reads a route record from data, with defaults for the parts that may be left out,
and `Route.toValue` writes one with all its parts. A record without responses gets one that
reports success.
-/

namespace RouteAtlas

/-- Decodes a parameter. -/
def Parameter.decode : Value → Decoded Parameter :=
  Decode.record fun ms =>
    Parameter.mk <$> Decode.field ms "name" Decode.text
      <*> Decode.field ms "location" Decode.text
      <*> Decode.field ms "required" Decode.truth
      <*> Decode.fieldD ms "data_type" "string" Decode.text
      <*> Decode.fieldD ms "description" "" Decode.text

/-- Decodes a response. -/
def Response.decode : Value → Decoded Response :=
  Decode.record fun ms =>
    Response.mk <$> Decode.field ms "status_code" Decode.integer
      <*> Decode.field ms "description" Decode.text
      <*> Decode.fieldD ms "content_type" "application/json" Decode.text
      <*> Decode.fieldD ms "json_schema" none (Decode.optional Decode.members)

/-- Decodes a middleware. -/
def Middleware.decode : Value → Decoded Middleware :=
  Decode.record fun ms =>
    Middleware.mk <$> Decode.field ms "name" Decode.text <*> Decode.field ms "kind" Decode.text

/-- Decodes the responses of a route. Where there are none, success is assumed. -/
def Response.decodeAll (ms : Members) : Decoded (List Response) :=
  match Members.find? ms "responses" with
  | none => .fits [Response.success]
  | some v =>
    if v.truthy then (Decode.list Response.decode v).within "responses"
    else .fits [Response.success]

/-- Decodes a route. -/
def Route.decode : Value → Decoded Route :=
  Decode.record fun ms =>
    Route.mk <$> Decode.field ms "method" Decode.text
      <*> Decode.field ms "path" Decode.text
      <*> Decode.field ms "handler" Decode.text
      <*> Decode.fieldD ms "description" none (Decode.optional Decode.text)
      <*> Decode.fieldD ms "parameters" [] (Decode.list Parameter.decode)
      <*> Response.decodeAll ms
      <*> Decode.fieldD ms "middlewares" [] (Decode.list Middleware.decode)
      <*> Decode.fieldD ms "file_path" "" Decode.text
      <*> Decode.fieldD ms "line_number" none (Decode.optional Decode.integer)

/-! ### Writing -/

/-- A parameter as data. -/
def Parameter.toValue (p : Parameter) : Value :=
  .object [("name", .text p.name), ("location", .text p.location), ("required", .bool p.required),
    ("data_type", .text p.dataType), ("description", .text p.description)]

/-- A response as data. -/
def Response.toValue (r : Response) : Value :=
  .object [("status_code", .int r.statusCode), ("description", .text r.description),
    ("content_type", .text r.contentType),
    ("json_schema", match r.schema with | some ms => .map ms | none => .null)]

/-- A middleware as data. -/
def Middleware.toValue (m : Middleware) : Value :=
  .object [("name", .text m.name), ("kind", .text m.kind)]

/-- A route as data. -/
def Route.toValue (r : Route) : Value :=
  .object [("method", .text r.method), ("path", .text r.path), ("handler", .text r.handler),
    ("description", match r.description with | some s => .text s | none => .null),
    ("parameters", .list (r.parameters.map Parameter.toValue)),
    ("responses", .list (r.responses.map Response.toValue)),
    ("middlewares", .list (r.middlewares.map Middleware.toValue)),
    ("file_path", .text r.filePath),
    ("line_number", match r.lineNumber with | some n => .int n | none => .null)]

end RouteAtlas
