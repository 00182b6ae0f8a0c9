import RouteAtlas.Route.Basic
import RouteAtlas.Validation.Result
import RouteAtlas.Value.Access

/-!
# Checks of good practice

What a document should have beyond what the specification demands: titles and versions, paths that
begin with a slash, operations with a description and a successful response, complete parameters.
The checks read the document as it comes; a part of an unexpected shape is a fault.
-/

namespace RouteAtlas.Checks

/-- A check: it adds to an outcome, or finds a part that it cannot read. -/
abbrev Check := ValidationResult → Except Fault ValidationResult

/-- Applies checks one after the other. -/
def inOrder {α : Type} (check : α → Check) : List α → Check
  | [], r => .ok r
  | a :: as, r => do
    let r ← check a r
    inOrder check as r

/-- Adds an error if a condition holds. -/
def errorIf (b : Bool) (message path : String) (r : ValidationResult) : ValidationResult :=
  if b then r.addError message (some path) none else r

/-- Adds a warning if a condition holds. -/
def warningIf (b : Bool) (message path : String) (suggestion : Option String)
    (r : ValidationResult) : ValidationResult :=
  if b then r.addWarning message (some path) suggestion else r

/-- Checks a parameter of the given number. -/
def checkParameter (place : String) (index : Nat) (param : Value) : Check := fun r => do
  let location := "/paths/" ++ place ++ "/parameters/" ++ Text.decimal index
  let name ← param.member "name"
  let r := errorIf (!name.truthy) ("Parameter missing name: " ++ place) location r
  let inside ← param.member "in"
  let r := errorIf (!inside.truthy) ("Parameter missing 'in' field: " ++ place) location r
  let schema ← param.member "schema"
  let content ← param.member "content"
  return errorIf (!schema.truthy && !content.truthy)
    ("Parameter must have schema or content: " ++ place) location r

/-- Checks parameters, numbered from the given number on. -/
def checkParameters (place : String) : Nat → List Value → Check
  | _, [], r => .ok r
  | n, p :: ps, r => do
    let r ← checkParameter place n p r
    checkParameters place (n + 1) ps r

/-- Whether a response code stands for success. -/
def isSuccess (code : Value) : Bool :=
  Text.beginsWith code.display "2" || code.display == "default"

/-- Checks the responses of an operation. -/
def checkResponses (place : String) (responses : Value) : Check := fun r => do
  let location := "/paths/" ++ place ++ "/responses"
  if !responses.truthy then
    return errorIf true ("Operation must have at least one response: " ++ place) location r
  else
    let codes ← responses.iterate
    return warningIf (!codes.any isSuccess)
      ("Operation should have at least one success response (2xx): " ++ place) location
      (some "Add a 200 or 201 response") r

/-- Checks an operation. -/
def checkOperation (place : String) (operation : Value) : Check := fun r => do
  let summary ← operation.member "summary"
  let description ← operation.member "description"
  let r := warningIf (!summary.truthy && !description.truthy)
    ("Operation should have summary or description: " ++ place) ("/paths/" ++ place)
    (some "Add summary or description to document the endpoint") r
  let r ← checkResponses place (← operation.member "responses") r
  let parameters ← operation.member "parameters"
  let items ← if parameters.truthy then parameters.iterate else .ok []
  checkParameters place 0 items r

/-- Checks the operations of a path item. -/
def checkMethods (path : String) (item : Members) : Check :=
  inOrder (fun m r =>
    match Members.find? item m with
    | some operation =>
      if operation.truthy then checkOperation (path ++ "." ++ m) operation r else .ok r
    | none => .ok r) (Method.all.map Method.key)

/-- Checks a path and its path item. -/
def checkPath (entry : Scalar × Value) : Check := fun r => do
  let path := entry.1.display
  let r := warningIf (!Text.beginsWith path "/") ("Path should start with /: " ++ path)
    ("/paths/" ++ path) none r
  match entry.2 with
  | .map item => checkMethods path item r
  | _ => return r

/-- Checks the description of the interface as a whole. -/
def checkInfo (info : Value) : Check := fun r => do
  if !info.truthy then return errorIf true "Missing required field: info" "/info" r
  else
    let title ← info.member "title"
    let r := errorIf (!title.truthy) "Missing required field: info.title" "/info/title" r
    let version ← info.member "version"
    return errorIf (!version.truthy) "Missing required field: info.version" "/info/version" r

/-- Checks the paths. -/
def checkPaths (paths : Value) : Check := fun r => do
  if !paths.truthy then
    return warningIf true "No paths defined in the document" "/paths"
      (some "Add at least one API endpoint") r
  else inOrder checkPath (← paths.membersFor "items") r

/-- Whether a value is there and has no items. -/
def isEmptyCollection (v : Value) : Except Fault Bool :=
  match v with
  | .scalar .null => .ok false
  | v => v.length.map (· == 0)

/-- Whether a version is one of the third series. -/
def isThirdSeries (version : Value) : Bool :=
  match version.text? with
  | some s => Text.beginsWith s "3."
  | none => false

/-- Checks a document. -/
def checkDocument (document : Value) : Check := fun r => do
  let openapi ← document.member "openapi"
  let r := warningIf (!isThirdSeries openapi) "OpenAPI version should be 3.x" "/openapi" none r
  let r ← checkInfo (← document.member "info") r
  let r ← checkPaths (← document.member "paths") r
  let r := warningIf (← isEmptyCollection (← document.member "tags")) "Tags array is empty" "/tags"
    (some "Add tags to organize your API endpoints") r
  let components ← document.member "components"
  let schemas ← (components.orElse (.map [])).member "schemas"
  return warningIf (← isEmptyCollection schemas) "No reusable schemas defined in components"
    "/components/schemas"
    (some "Consider extracting common schemas to components for reusability") r

end RouteAtlas.Checks
