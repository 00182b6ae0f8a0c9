import RouteAtlas.Document.Builder
import RouteAtlas.Yaml.Reading
import RouteAtlas.Console

/-!
# Fragments written by a model

A fragment is a YAML text with one path, under it operations by method. `readFragment` decides
whether a text can be used. The operations are rewritten in place, one after the other: their response
codes become texts. An operation to which aliases refer is one map in several places, so it is
rewritten in all of them, also inside of other operations. `addFragment` merges a fragment into a
document; a text that cannot be used is replaced by what is known about the route.
-/

namespace RouteAtlas

/-- Why a fragment cannot be used. -/
inductive Unusable
  /-- It is not YAML. -/
  | notYaml
  /-- A scalar in it has no value. -/
  | badScalar (e : Yaml.LoadError)
  /-- It is not a map with one member. -/
  | notSinglePath
  /-- Its member is not a path with operations. -/
  | notOperations
  /-- It has an operation that is none, or one for an unknown method. -/
  | unexpectedKey (key : Scalar)

/-- The wording of why a fragment cannot be used. -/
def Unusable.message : Unusable → String
  | .notYaml => "invalid YAML: " ++ Yaml.LoadError.malformed.message
  | .badScalar e => e.message
  | .notSinglePath => "expected a single path mapping"
  | .notOperations => "expected a path mapped to operations"
  | .unexpectedKey key => "unexpected operation key " ++ key.quoted

/-- A fragment: a path template and its operations. -/
structure Fragment where
  /-- The path template. -/
  path : String
  /-- The operations by method. -/
  operations : Members

/-- Whether a key is the name of a method in a path item. -/
def isOperationKey : Scalar → Bool
  | .text s => Method.all.any fun m => m.key == s
  | _ => false

/-- The members of an operation whose responses have texts as keys. -/
def withTextCodes (operation : List (Scalar × Shared)) : List (Scalar × Shared) :=
  match Members.find? operation "responses" with
  | some (.map _ responses) =>
    Members.put operation "responses"
      (.map none (Members.ofList (responses.map fun r => (.text r.1.display, r.2))))
  | _ => operation

/-- Operations after the one with a number was rewritten, wherever it stands. -/
def rewriteAt (operations : List (Scalar × Shared)) (i : Nat) : List (Scalar × Shared) :=
  match operations[i]? with
  | some (_, .map (some m) _) => operations.map fun o => (o.1, o.2.change m withTextCodes)
  | some (key, .map none members) => operations.set i (key, .map none (withTextCodes members))
  | _ => operations

/-- Operations after the first ones were rewritten, in order. -/
def rewriteFirst (operations : List (Scalar × Shared)) : Nat → List (Scalar × Shared)
  | 0 => operations
  | i + 1 => rewriteAt (rewriteFirst operations i) i

/-- The value of a fragment after all operations were rewritten. -/
def rewritten : Shared → Value
  | .map _ [(path, .map _ operations)] =>
    .map [(path, .map (Shared.memberValues (rewriteFirst operations operations.length)))]
  | v => v.value

/-- The operations of a fragment, each one checked. -/
def checkOperations : Members → Except Unusable Members
  | [] => .ok []
  | (key, .map operation) :: rest =>
    if isOperationKey key then
      (checkOperations rest).map fun ms => (key, .map operation) :: ms
    else .error (.unexpectedKey key)
  | (key, _) :: _ => .error (.unexpectedKey key)

/-- The fragment that a value is. -/
def Fragment.ofValue : Value → Except Unusable Fragment
  | .map [(.text path, .map (m :: ms))] =>
    (checkOperations (m :: ms)).map fun operations => ⟨pathTemplate path, operations⟩
  | .map [_] => .error .notOperations
  | _ => .error .notSinglePath

/-- Whether a load error only makes a fragment unusable. Words and shapes that do not fit an explicit
tag, and escapes far beyond all characters, are failures of the reader instead. -/
def isForgiven : Yaml.LoadError → Bool
  | .notBool _ | .notTimestamp | .noDigits | .hugeCharacter => false
  | _ => true

/-- Reads a fragment. The outer error is a failure of the reader. -/
def readFragment (text : String) : Except Yaml.LoadError (Except Unusable Fragment) :=
  match Yaml.loadShared text with
  | .ok v => .ok (Fragment.ofValue (rewritten v))
  | .error .malformed => .ok (.error .notYaml)
  | .error e => if isForgiven e then .ok (.error (.badScalar e)) else .error e

namespace Document

/-- The text tags of an operation. -/
def textTags : Value → List String
  | .map operation =>
    match Members.find? operation "tags" with
    | some (.list ts) => ts.filterMap Value.text?
    | _ => []
  | _ => []

/-- Merges a fragment: its operations replace those of the same methods. -/
def mergeFragment (f : Fragment) : Edit Unit := do
  let item ← openPath f.path
  let present ← membersFor item "update"
  setPath f.path (.map (Members.insertAll present f.operations))
  addTags (f.operations.flatMap fun o => textTags o.2)

/-- The line that reports a fragment that cannot be used. -/
def unusableLine (route : Route) (reason : Unusable) : String :=
  "  Unusable AI output for " ++ route.method ++ " " ++ route.path ++ " (" ++ reason.message ++
    "), using fallback"

/-- Adds what a model wrote about a route or, if that cannot be used, what is known about it. -/
def addFragment (route : Route) (fragment : Except Unusable Fragment) : Edit Unit :=
  match fragment with
  | .ok f => mergeFragment f
  | .error _ => addRoutes [route]

/-- What is printed about a fragment. -/
def fragmentConsole (route : Route) (fragment : Except Unusable Fragment) (console : Console) :
    Console :=
  match fragment with
  | .ok _ => console
  | .error reason => console.warn (unusableLine route reason)

end Document

end RouteAtlas
