import RouteAtlas.Files.Tree
import RouteAtlas.Json.Reader
import RouteAtlas.Yaml.Reading

/-!
# Loading a document from a file

The ending of the file name decides between YAML and JSON. Most failures are reported as such; paths
that no file system takes, bytes that are no text and scalars that have no value are failures of their
own.
-/

namespace RouteAtlas

/-- Why a document could not be loaded. -/
inductive LoadFailure
  /-- The file cannot be read. -/
  | unreadable (path : String) (e : FileError)
  /-- The file is not YAML. -/
  | notYaml (path : String)
  /-- The file is not JSON. -/
  | notJson (path : String) (detail : String)
  /-- The file name has an unknown ending. -/
  | unsupported
  /-- The file holds something that is not a map. -/
  | notMapping (path : String)
  /-- The bytes of the file are no text. -/
  | undecodable (e : Text.Utf8Error)
  /-- A scalar in the file has no value. -/
  | badScalar (e : Yaml.LoadError)
  /-- No file system takes the path. -/
  | unusable

namespace LoadFailure

/-- Whether a failure is reported as one of loading. -/
def isReported : LoadFailure → Bool
  | .undecodable _ | .badScalar _ | .unusable => false
  | _ => true

/-- The wording of a failure. -/
def message : LoadFailure → String
  | .unreadable path e => "Failed to read " ++ path ++ ": " ++ e.message
  | .notYaml path => "Failed to read " ++ path ++ ": " ++ Yaml.LoadError.malformed.message
  | .notJson path detail => "Failed to read " ++ path ++ ": " ++ detail
  | .unsupported => "Unsupported file format. Use .yaml, .yml, or .json"
  | .notMapping path => path ++ " does not contain a mapping"
  | .undecodable e => e.message
  | .badScalar e => e.message
  | .unusable => FileError.unusable.message

end LoadFailure

/-- The value of a text in the format that a file name asks for. -/
def parseDocument (p : Path) (text : String) : Except LoadFailure Value :=
  if p.suffix == ".yaml" || p.suffix == ".yml" then
    match Yaml.load text with
    | .ok v => .ok v
    | .error .malformed => .error (.notYaml p.text)
    | .error e => .error (.badScalar e)
  else if p.suffix == ".json" then
    match Json.parse text with
    | .ok v => .ok v
    | .error r => .error (.notJson p.text (r.message text))
  else .error .unsupported

/-- Loads a document. -/
def loadDocument (t : FileTree) (p : Path) : Except LoadFailure Members := do
  let text ← match t.readText p with
    | .ok s => pure s
    | .error (.undecodable e) => throw (.undecodable e)
    | .error .unusable => throw .unusable
    | .error e => throw (.unreadable p.text e)
  match ← parseDocument p text with
  | .map ms => return ms
  | _ => throw (.notMapping p.text)

end RouteAtlas
