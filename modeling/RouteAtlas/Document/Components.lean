import RouteAtlas.Value.Access

/-!
# Recognizable schemas

A schema of an object is recognized by its properties: something with an identifier, a name and an
address is a user, and so on. The first rule whose properties are all present decides.
-/

namespace RouteAtlas

/-- The properties a schema has to have, and the name it then gets. -/
def schemaRules : List (List String × String) := [
  (["id", "name", "email"], "User"),
  (["id", "name", "price"], "Product"),
  (["message"], "ErrorResponse")]

/-- The name of a schema with the given properties. -/
def nameOfProperties? (properties : Members) : Option String :=
  (schemaRules.find? fun r => r.1.all fun key => Members.has properties (.text key)).map (·.2)

/-- The name of a schema. -/
def schemaName? (schema : Members) : Option String :=
  match Members.find? schema "properties" with
  | some (.map properties) => nameOfProperties? properties
  | _ => none

end RouteAtlas
