import RouteAtlas.Schema.Dialect
import RouteAtlas.Validation.Template

/-!
# What a document means

Some rules are not about the shape of single objects: names of tags and identifiers of operations
are unique, parameters differ in name or location, the names in a path are those of its path
parameters, and schemas are schemas. A part of an unexpected shape ends the check.
-/

namespace RouteAtlas.Meaning

/-! ### Reading -/

/-- The parts of a value with their keys: members, or items by number. The key leads to the value
itself. -/
def partsOf (key : Scalar) : Value → Except Breakdown Members
  | .map ms => .ok ms
  | .list xs => .ok (xs.zipIdx.map fun (x, i) => (.int i, x))
  | _ => .error (.missingKey key)

/-- The part of a name, if there is one. -/
def part? (v : Value) (name : String) : Option Value :=
  match v with
  | .map ms => Members.find? ms name
  | _ => none

/-- The part of a name, which has to be there. -/
def part (v : Value) (name : String) : Except Breakdown Value :=
  match part? v name with
  | some x => .ok x
  | none => .error (.missingKey (.text name))

/-- Checks the parts of a value, which have to have names. -/
def eachNamed (key : String) (check : String → Value → Findings) (v : Value) : Findings :=
  .after (partsOf (.text key) v) (.all fun (k, x) =>
    match k with
    | .text name => check name x
    | _ => .stop .noNames)

/-- Checks the part of a name, if there is one. -/
def ifPresent (v : Value) (name : String) (check : Value → Findings) : Findings :=
  match part? v name with
  | some x => check x
  | none => .none

/-- A finding about the document as a whole. -/
def remark (message : String) : Findings := .one { message := message }

/-! ### Schemas -/

/-- Checks a schema. Numbers, truth values and nothing at all are passed over. -/
def checkSchema (v : Value) : Findings :=
  match v with
  | .map _ | .list _ | .scalar (.text _) => Dialect.firstFinding v
  | _ => .none

/-- Checks the schemas of a response. -/
def checkResponse (response : Value) : Findings :=
  ifPresent response "content" (eachNamed "content" fun _ media =>
    ifPresent media "schema" checkSchema)

/-! ### Tags and parameters -/

/-- Checks that the names of tags are unique. -/
def checkTags (seen : List Value) : List Value → Findings
  | [] => .none
  | t :: ts =>
    .after (part t "name") fun name =>
      (if seen.any name.equal then remark ("Duplicate tag name '" ++ name.display ++ "'")
        else .none) ++ checkTags (name :: seen) ts

/-- Whether a value may be part of a set. -/
def hashable : Value → Except Breakdown Value
  | .list xs => .error (.notHashable (Value.list xs).kind)
  | .map ms => .error (.notHashable (Value.map ms).kind)
  | .set xs => .error (.notHashable (Value.set xs).kind)
  | v => .ok v

/-- Name and location of a parameter. -/
def parameterKey (p : Value) : Except Breakdown (Value × Value) := do
  let name ← part p "name"
  let location ← part p "in"
  return (← hashable name, ← hashable location)

/-- Checks parameters: their schemas, and that they differ in name or location. -/
def checkParameters (seen : List (Value × Value)) : List Value → Findings
  | [] => .none
  | p :: ps =>
    ifPresent p "schema" checkSchema ++
      .after (parameterKey p) fun key =>
        (if seen.any fun k => k.1.equal key.1 && k.2.equal key.2 then
          remark ("Duplicate parameter '" ++ key.1.display ++ "'")
        else .none) ++ checkParameters (key :: seen) ps

/-- The names of path parameters. -/
def pathNames : List Value → Except Breakdown (List String)
  | [] => .ok []
  | p :: ps => do
    let location ← part p "in"
    if location.text? == some "path" then
      let name ← part p "name"
      let rest ← pathNames ps
      return name.display :: rest
    else pathNames ps

/-- The parameters of an operation or a path item. -/
def parametersOf (holder : Value) : Except Breakdown (List Value) :=
  match part? holder "parameters" with
  | some v => (partsOf (.text "parameters") v).map (·.map (·.2))
  | none => .ok []

/-! ### Operations -/

/-- Names in order, each once. -/
def sortedNames (names : List String) : List String :=
  (names.mergeSort fun a b => decide (a ≤ b)).eraseDups

/-- The finding about a name that is on one side only. -/
def unresolved (url method name : String) : Findings :=
  remark ("Path parameter '" ++ name ++ "' for '" ++ method ++ "' operation in '" ++ url ++
    "' was not resolved")

/-- Checks that the names in a path are those of the path parameters. -/
def checkNames (url method : String) (declared : List String) : Findings :=
  match templateNames url with
  | .error e => .stop (.badTemplate e.message)
  | .ok inUrl =>
    .all (unresolved url method)
      (sortedNames (inUrl.filter fun n => !declared.contains n) ++
        sortedNames (declared.filter fun n => !inUrl.contains n))

/-- Checks an operation, given the identifiers of those before it. -/
def checkOperation (url method : String) (shared : List Value) (seen : List Value)
    (operation : Value) : Findings :=
  (match part? operation "operationId" with
    | some id =>
      if seen.any id.equal then
        remark ("Operation ID '" ++ id.display ++ "' for '" ++ method ++ "' in '" ++ url ++
          "' is not unique")
      else .none
    | none => .none) ++
  ifPresent operation "responses" (eachNamed "responses" fun _ r => checkResponse r) ++
  .after (parametersOf operation) fun own =>
    checkParameters [] own ++
      .after (do
        let names ← pathNames own
        let more ← pathNames shared
        return names ++ more) fun declared => checkNames url method declared

/-- The names of operations in a path item. -/
def methods : List String := ["get", "put", "post", "delete", "options", "head", "patch", "trace"]

/-- The operations of a path item, by method. -/
def operationsOf (item : Members) : List (String × Value) :=
  item.filterMap fun
    | (.text name, v) => if methods.contains name then some (name, v) else none
    | _ => none

/-- The identifiers of operations. -/
def identifiers (operations : List (String × Value)) : List Value :=
  operations.filterMap fun o =>
    match part? o.2 "operationId" with
    | some (.scalar .null) => none
    | id => id

/-- Checks operations one after the other. -/
def checkOperations (url : String) (shared : List Value) (seen : List Value) :
    List (String × Value) → Findings
  | [] => .none
  | o :: os =>
    checkOperation url o.1 shared seen o.2 ++
      checkOperations url shared (seen ++ identifiers [o]) os

/-- Checks path items one after the other. -/
def checkPaths (seen : List Value) : Members → Findings
  | [] => .none
  | (.text url, item) :: rest =>
    .after (parametersOf item) fun shared =>
      checkParameters [] shared ++
        .after (partsOf (.text url) item) fun members =>
          let operations := operationsOf members
          checkOperations url shared seen operations ++
            checkPaths (seen ++ identifiers operations) rest
  | _ => .stop .noNames

/-! ### Documents -/

/-- What is wrong with the meaning of a document. -/
def findings (document : Members) : Findings :=
  let document := Value.map document
  ifPresent document "tags" (fun tags =>
    .after (partsOf (.text "tags") tags) fun ts => checkTags [] (ts.map (·.2))) ++
  ifPresent document "paths" (fun paths =>
    .after (partsOf (.text "paths") paths) (checkPaths [])) ++
  ifPresent document "components" (fun components =>
    ifPresent components "schemas" (eachNamed "schemas" fun _ s => checkSchema s))

end RouteAtlas.Meaning
