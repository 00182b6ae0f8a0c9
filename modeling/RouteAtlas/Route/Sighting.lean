import RouteAtlas.Route.Basic
import RouteAtlas.Route.Middleware
import RouteAtlas.Script.Tree
import RouteAtlas.Decimal.Reading

/-!
# What a handler shows of a route

Sightings are shapes of syntax trees that say something about a route: the registration itself, the
use of a query parameter or a part of the body, the sending of a response. Each test looks at one
node only; the callers apply it to every node of a tree in source order.
-/

namespace RouteAtlas

open Script

namespace Sighting

/-! ### Registrations -/

/-- The names that routes are registered on. -/
def registrars : List String := ["router", "app"]

/-- A registration: its row, the method and the arguments. -/
structure Registration where
  /-- The row, counted from zero. -/
  row : Nat
  /-- The method. -/
  method : Method
  /-- The arguments. -/
  arguments : List Tree

/-- The method that a member name stands for, in any case. -/
def methodOfMember? (name : String) : Option Method :=
  Method.ofName? (Text.upper name)

/-- A call of a method on a registrar. -/
def registration? : Tree → Option Registration
  | .call row (.member (.identifier owner) (some name)) _ arguments =>
    if registrars.contains owner then
      (methodOfMember? name.text).map fun m => ⟨row, m, arguments⟩
    else none
  | _ => none

/-! ### Requests -/

/-- The name read from a section of the request, `req.section.name`. -/
def requestMember? (part : String) : Tree → Option String
  | .member (.member (.identifier owner) (some middle)) (some name) =>
    if owner == "req" && middle.text == part then some name.text else none
  | _ => none

/-- The key of an entry of a pattern, if it is a plain word. -/
def entryKey? : Tree → Option String
  | .shorthand name => some name.text
  | .pair name _ _ => name.map Word.text
  | .defaulted (.shorthand name) _ => some name.text
  | _ => none

/-- The names taken out of the body by a declaration. -/
def bodyNames? : Tree → Option (List String)
  | .declarator (.pattern entries) _ (some (.member (.identifier owner) (some name))) =>
    if owner == "req" && name.text == "body" then some (entries.filterMap entryKey?) else none
  | _ => none

/-- The body parameters that a node shows: whether each has to be there, by name. -/
def bodyParameters (t : Tree) : List (String × Bool) :=
  ((bodyNames? t).getD []).map (fun name => (name, true)) ++
    ((requestMember? "body" t).map fun name => (name, false)).toList

/-! ### Responses -/

/-- The ways to send a response, with the media type of each. -/
def responders : List (String × String) :=
  [("json", "application/json"), ("send", "text/plain")]

/-- The integer that a number literal is written as. -/
def integerLiteral? : Tree → Option Int
  | .number digits => Decimal.integer? 10 digits
  | _ => none

/-- The status set on a response, `res.status(code)`. -/
def status? : Tree → Option Int
  | .call _ (.member (.identifier owner) (some name)) _ (code :: _) =>
    if owner == "res" && name.text == "status" then integerLiteral? code else none
  | _ => none

/-- The type that the value of a member is seen to have. -/
def literalType : Tree → String
  | .array _ => "array"
  | .number _ => "number"
  | .text _ => "string"
  | .truth => "boolean"
  | _ => "unknown"

/-- The schema of one property. -/
def propertySchema (type : String) : Value := .object [("type", .text type)]

/-- The property that an entry of an object literal shows. -/
def property? : Tree → Option (String × Value)
  | .shorthand name => some (name.text, propertySchema "unknown")
  | .pair (some name) _ value => some (name.text, propertySchema (literalType value))
  | _ => none

/-- The schema of a body, as far as it can be seen from a literal. -/
def schema? : Tree → Option Members
  | .array _ =>
    some [(.text "type", .text "array"), (.text "items", .object [("type", .text "object")])]
  | .object entries =>
    let properties := (entries.filterMap property?).foldl (fun ms p => Members.put ms p.1 p.2) []
    some [(.text "type", .text "object"), (.text "properties", .map properties)]
  | _ => none

/-- The response of a status that is sent with an argument. -/
def responseOf (status : Int) (mediaType : String) (arguments : List Tree) : Response :=
  ⟨status, statusDescription status, mediaType, arguments.head?.bind schema?⟩

/-- The sending of a response, with a status or without. -/
def response? : Tree → Option Response
  | .call _ (.member owner (some name)) _ arguments =>
    match responders.lookup name.text with
    | none => none
    | some mediaType =>
      match owner with
      | .identifier "res" => some (responseOf 200 mediaType arguments)
      | owner => (status? owner).map fun code => responseOf code mediaType arguments
  | _ => none

end Sighting

end RouteAtlas
