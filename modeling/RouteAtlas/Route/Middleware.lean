import RouteAtlas.Route.Basic
import RouteAtlas.Text.Casing

/-!
# What a middleware is for

The purpose of a middleware is guessed from its name: a name that speaks of authentication or
verification guards access, one that speaks of validity or checking inspects the request.
-/

namespace RouteAtlas

/-- What a middleware is for. -/
inductive Purpose
  | auth | validation | custom
deriving DecidableEq

/-- The name of a purpose. -/
def Purpose.name : Purpose → String
  | .auth => "auth"
  | .validation => "validation"
  | .custom => "custom"

/-- The purpose of a middleware, guessed from its name. -/
def Purpose.ofName (name : String) : Purpose :=
  let lower := Text.lowerAscii name
  if Text.contains lower "auth" || Text.contains lower "verify" then .auth
  else if Text.contains lower "valid" || Text.contains lower "check" then .validation
  else .custom

/-- The record of a middleware of a given name. -/
def Middleware.ofName (name : String) : Middleware :=
  ⟨name, (Purpose.ofName name).name⟩

end RouteAtlas
