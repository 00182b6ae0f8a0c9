import Mathlib.Data.List.Lex
import RouteAtlas.Validation.Checks

/-!
# What the checks of good practice require

A document has to have a title and a version, its operations have to have responses, and their
parameters names, locations and schemas. `Violates` says for each such **requirement** when a document
breaks it and which error reports that, without the checks. The requirements stand in the order of
the document (`Requirement.position`).

The checks read a document as it comes and break down on a part of an unexpected shape. `IsReadable`
says of which shape the parts have to be, again without the checks: what is there and not empty has to
be a map where members are looked up, it has to have items where items are gone through, and so on. A
document whose parts are of the kinds that belong there is readable; so is one in which parts are
missing.
-/

namespace RouteAtlas

namespace Checks

/-! ### Requirements -/

/-- Whether a map has a member of a name that counts as true. -/
def isFilled (ms : Members) (name : String) : Bool :=
  (Members.find? ms name).any Value.truthy

theorem truthy_getD_find? (ms : Members) (name : String) :
    ((Members.find? ms name).getD .null).truthy = isFilled ms name := by
  rw [isFilled]
  cases Members.find? ms name <;> rfl

/-- The parts that a parameter has to have. -/
inductive ParameterPart
  | name | location | schema
deriving DecidableEq

namespace ParameterPart

/-- Whether a parameter lacks a part. Instead of a schema it may have a content. -/
def isMissing (parameter : Members) : ParameterPart → Bool
  | .name => !isFilled parameter "name"
  | .location => !isFilled parameter "in"
  | .schema => !isFilled parameter "schema" && !isFilled parameter "content"

/-- What is said of a parameter that lacks a part. -/
def message : ParameterPart → String
  | .name => "Parameter missing name: "
  | .location => "Parameter missing 'in' field: "
  | .schema => "Parameter must have schema or content: "

/-- The order in which the parts are looked for. -/
def position : ParameterPart → Nat
  | .name => 0
  | .location => 1
  | .schema => 2

end ParameterPart

/-- What is required of a document. Paths and the parameters of an operation are numbered from zero,
in the order in which the document has them. -/
inductive Requirement
  /-- A description of the interface. -/
  | info
  /-- A title in the description. -/
  | title
  /-- A version in the description. -/
  | version
  /-- A response of an operation. -/
  | response (path : Nat) (m : Method)
  /-- A part of a parameter of an operation. -/
  | parameter (path : Nat) (m : Method) (index : Nat) (part : ParameterPart)
deriving DecidableEq

/-- Where a requirement stands in the order of the document: numbers that are compared one after the
other. Methods come in the order in which they are tried. -/
def Requirement.position : Requirement → List Nat
  | .info => [0]
  | .title => [1]
  | .version => [2]
  | .response path m => [3, path, Method.all.idxOf m, 0]
  | .parameter path m index part => [3, path, Method.all.idxOf m, index + 1, part.position]

/-- The order of requirements. -/
def Requirement.Precedes (p q : Requirement) : Prop := p.position < q.position

theorem Requirement.Precedes.ne {p q : Requirement} (h : p.Precedes q) : p ≠ q := by
  rintro rfl
  exact lt_irrefl _ h

/-- What the errors about an operation call it. -/
def placeOf (path : Scalar) (m : Method) : String := path.display ++ "." ++ m.key

/-- An operation of a document, the number of its path, and what errors call it. An operation without
members counts as absent. -/
def HasOperation (document : Members) (path : Nat) (m : Method) (place : String)
    (operation : Members) : Prop :=
  ∃ paths key item, Members.find? document "paths" = some (.map paths) ∧
    paths[path]? = some (key, .map item) ∧ Members.find? item m.key = some (.map operation) ∧
    operation ≠ [] ∧ place = placeOf key m

/-- A parameter of an operation under its number. -/
def HasParameter (operation : Members) (index : Nat) (parameter : Members) : Prop :=
  ∃ v items, Members.find? operation "parameters" = some v ∧ v.iterate = .ok items ∧
    items[index]? = some (.map parameter)

/-- The error about a missing response. -/
def missingResponse (place : String) : Issue :=
  ⟨"Operation must have at least one response: " ++ place, some ("/paths/" ++ place ++ "/responses"),
    none⟩

/-- The error about a missing part of the parameter of a number. -/
def ParameterPart.issue (place : String) (index : Nat) (part : ParameterPart) : Issue :=
  ⟨part.message ++ place, some ("/paths/" ++ place ++ "/parameters/" ++ Text.decimal index), none⟩

/-- The requirements that a description violates, each with the error that reports it. The members
matter only if there are any. -/
inductive DescriptionViolates (description : Value) : Requirement → Issue → Prop
  | info (h : description.truthy = false) :
    DescriptionViolates description .info ⟨"Missing required field: info", some "/info", none⟩
  | title {info : Members} (hinfo : description = .map info) (hne : info ≠ [])
      (h : isFilled info "title" = false) :
    DescriptionViolates description .title
      ⟨"Missing required field: info.title", some "/info/title", none⟩
  | version {info : Members} (hinfo : description = .map info) (hne : info ≠ [])
      (h : isFilled info "version" = false) :
    DescriptionViolates description .version
      ⟨"Missing required field: info.version", some "/info/version", none⟩

/-- The requirements that an operation violates, each with the error that reports it. -/
inductive OperationViolates (path : Nat) (m : Method) (place : String) (operation : Members) :
    Requirement → Issue → Prop
  | response (h : isFilled operation "responses" = false) :
    OperationViolates path m place operation (.response path m) (missingResponse place)
  | parameter {index : Nat} {parameter : Members} {part : ParameterPart}
      (hparameter : HasParameter operation index parameter) (h : part.isMissing parameter = true) :
    OperationViolates path m place operation (.parameter path m index part) (part.issue place index)

/-- The requirements that a document violates, each with the error that reports it. -/
inductive Violates (document : Members) (q : Requirement) (e : Issue) : Prop
  | description (h : DescriptionViolates ((Members.find? document "info").getD .null) q e)
  | operation {path : Nat} {m : Method} {place : String} {operation : Members}
      (hoperation : HasOperation document path m place operation)
      (h : OperationViolates path m place operation q e)

/-! ### Readable documents -/

/-- What is there and counts as true is a map. -/
def IsMapAt (ms : Members) (name : String) : Prop :=
  ∀ v, Members.find? ms name = some v → v.truthy = true → ∃ inner, v = .map inner

/-- What is there and is not the absent value has a length. -/
def IsSizedAt (ms : Members) (name : String) : Prop :=
  ∀ v, Members.find? ms name = some v → v ≠ .null → ∃ n, v.length = .ok n

/-- The shape that an operation has to have for the checks: responses and parameters that are not
empty have items, and every parameter is a map. -/
structure IsReadableOperation (operation : Members) : Prop where
  responses : ∀ v, Members.find? operation "responses" = some v → v.truthy = true →
    ∃ codes, v.iterate = .ok codes
  parameters : ∀ v, Members.find? operation "parameters" = some v → v.truthy = true →
    ∃ items, v.iterate = .ok items ∧ ∀ p ∈ items, ∃ ms, p = .map ms

/-- The shape that a path item has to have for the checks. Only the operations of the seven methods
matter. -/
def IsReadableItem (item : Members) : Prop :=
  ∀ m v, Members.find? item (Method.key m) = some v → v.truthy = true →
    ∃ operation, v = .map operation ∧ IsReadableOperation operation

/-- The shape that a document has to have for the checks: what is there is of the kind that belongs
there, as far as the checks look. Empty parts count as absent, and a path item that is no map is passed
over. -/
structure IsReadable (document : Members) : Prop where
  info : IsMapAt document "info"
  paths : IsMapAt document "paths"
  items : ∀ paths key item, Members.find? document "paths" = some (.map paths) →
    (key, .map item) ∈ paths → IsReadableItem item
  tags : IsSizedAt document "tags"
  components : IsMapAt document "components"
  schemas : ∀ components, Members.find? document "components" = some (.map components) →
    IsSizedAt components "schemas"

end Checks

end RouteAtlas
