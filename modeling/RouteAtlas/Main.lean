import RouteAtlas.CommandLine.Program

/-!
# The program

Reads the files, carries out the command line, prints what was said and writes what was made. The
files of a project are listed on standard input, one name a line; files named on the command line are
read as well. The time that is written into documents is taken from `SOURCE_DATE_EPOCH`, so that the
same input gives the same output. There is no connection to a completion service.
-/

namespace RouteAtlas

/-- The lines of a stream. -/
partial def readLines (input : IO.FS.Stream) (lines : List String) : IO (List String) := do
  let line ← input.getLine
  if line.isEmpty then return lines.reverse
  readLines input (Text.trim line :: lines)

/-- The files of the given names that can be read. -/
def readFiles (names : List String) : IO FileTree := do
  let mut files : List (String × Entry) := []
  for name in names do
    try
      let bytes ← IO.FS.readBinFile name
      files := (name, .file (.bytes bytes.toList)) :: files
    catch _ => pure ()
  return .ofList files.reverse

/-- Writes the texts of a file tree and makes the folders they are in. -/
def writeFiles (tree : FileTree) : IO Unit := do
  for (place, entry) in tree.entries do
    match entry with
    | .file (.text s) =>
      if 1 < place.length then IO.FS.createDirAll (Text.join "/" place.dropLast)
      IO.FS.writeFile (Text.join "/" place) s
    | _ => pure ()

/-- The time a number of seconds after the beginning of 1970. -/
def stampOfSeconds (seconds : Nat) : Stamp where
  date := dateOfOrdinal (719162 + seconds / 86400)
  hour := seconds % 86400 / 3600
  minute := seconds % 3600 / 60
  second := seconds % 60
  micro := 0
  offset := some 0

/-- The variables that the commands look at. -/
def readEnvironment : IO CommandLine.Environment := do
  let mut env : CommandLine.Environment := []
  for name in ["OPENROUTER_API_KEY", "EXPRESS_OPENAPI_MODEL"] do
    if let some value ← IO.getEnv name then env := (name, value) :: env
  return env

/-- The unforeseen end of a command, as a text. -/
def CommandLine.Abort.message : CommandLine.Abort → String
  | .refused m => m
  | .invalid => "invalid"
  | .stopped s => s.message
  | .unloadable f => f.message
  | .file e => e.message
  | .pattern e => e.message

end RouteAtlas

open RouteAtlas in
/-- Carries out a command line. -/
def main (words : List String) : IO UInt32 := do
  let input ← IO.getStdin
  let listed ← if ← input.isTty then pure [] else readLines input []
  let tree ← readFiles (listed ++ words)
  let seconds := ((← IO.getEnv "SOURCE_DATE_EPOCH").bind String.toNat?).getD 0
  let surroundings : CommandLine.Surroundings := {
    service := fun _ => .failed .network
    environment := ← readEnvironment
    now := (stampOfSeconds seconds).iso }
  let outcome := CommandLine.run surroundings tree words
  writeFiles outcome.workspace.tree
  IO.print outcome.workspace.log.console.out
  IO.eprint outcome.workspace.log.console.err
  if let some a := outcome.escaped then IO.eprintln a.message
  return UInt32.ofNat outcome.exitCode
