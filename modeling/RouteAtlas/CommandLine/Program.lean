import RouteAtlas.CommandLine.Commands
import RouteAtlas.Files.Scan
import RouteAtlas.Generation.Assisted
import RouteAtlas.Json.Writer
import RouteAtlas.Markdown
import RouteAtlas.Validation.Document
import RouteAtlas.Validation.Report
import RouteAtlas.Yaml.Writer

/-!
# What the commands do

A command works on a `Workspace`: a file tree, and a log of what was said and asked. `run` carries out
a command line. It may end early, because the command refuses, because something is invalid, or
because something unforeseen was met; what was written and printed before stays.
-/

namespace RouteAtlas.CommandLine

/-- What commands work on. -/
structure Workspace where
  /-- The files. -/
  tree : FileTree
  /-- What was said and asked. -/
  log : Log := {}

/-- What commands are given from outside. -/
structure Surroundings where
  /-- The completion service. -/
  service : Service
  /-- The environment. -/
  environment : Environment
  /-- The time, as it is written into documents. -/
  now : String

/-- Why a command ends early. -/
inductive Abort
  /-- It refuses, and says why. -/
  | refused (message : String)
  /-- The document is not valid, which has been said already. -/
  | invalid
  /-- A document could not be made. -/
  | stopped (s : Stop)
  /-- A document could not be loaded. -/
  | unloadable (f : LoadFailure)
  /-- A file could not be read or written. -/
  | file (e : FileError)
  /-- Files could not be looked for. -/
  | pattern (e : Glob.PatternError)

/-- A command at work. -/
abbrev Work (α : Type) := ExceptT Abort (StateM Workspace) α

namespace Work

/-- Prints a line for the user. -/
def say (line : String) : Work Unit := modify fun w => { w with log := w.log.say line }

/-- Prints lines about problems. -/
def warnAll (lines : List String) : Work Unit :=
  modify fun w => { w with log := { w.log with console := w.log.console.warnAll lines } }

/-- Prints several lines for the user. -/
def sayAll (lines : List String) : Work Unit :=
  modify fun w => { w with log := { w.log with console := w.log.console.sayAll lines } }

/-- Does something that prints. -/
def printing {α : Type} (f : Console → α × Console) : Work α := do
  let w ← get
  let (a, console) := f w.log.console
  set { w with log := { w.log with console := console } }
  return a

/-- Talks to the completion service. -/
def talk {α : Type} (f : Log → α × Log) : Work α := do
  let w ← get
  let (a, log) := f w.log
  set { w with log := log }
  return a

/-- A result, or the end of the command. -/
def require {ε α : Type} (abort : ε → Abort) (r : Except ε α) : Work α :=
  match r with
  | .ok a => return a
  | .error e => throw (abort e)

/-- Changes the file tree. -/
def changeFiles (change : FileTree → Except FileError FileTree) : Work Unit := do
  let w ← get
  let tree ← require .file (change w.tree)
  set { w with tree := tree }

/-- Makes a folder. -/
def makeFolder (p : Path) : Work Unit := changeFiles fun t => t.makeFolder p

/-- Writes a text file. -/
def writeText (p : Path) (s : String) : Work Unit := changeFiles fun t => t.writeText p s

/-- Loads a document. -/
def load (p : Path) : Work Members := do
  match loadDocument (← get).tree p with
  | .ok ms => return ms
  | .error f => throw (if f.isReported then .refused f.message else .unloadable f)

end Work

open Work

/-! ### Routes -/

/-- The routes of a single file. -/
def routesOfFile (file : Path) : Work (List Route) := do
  say ("Parsing " ++ file.text ++ "...")
  let source ← require .file ((← get).tree.readText file)
  printing (discoverRoutes source file.text)

/-- The routes of a project. -/
def routesOfProject (root : Path) : Work (List Route) := do
  say ("Scanning " ++ root.text ++ " for route files...")
  let tree := (← get).tree
  let files ← require .pattern (findRouteFiles tree root [])
  let result ← require .file (← printing (scanFiles tree files))
  say ("Found " ++ Text.decimal result.totalRoutes ++ " routes in " ++
    Text.decimal result.totalFiles ++ " files.")
  warnAll (result.errors.map fun e => "  " ++ e.filePath ++ ": " ++ e.message)
  return result.routes

/-- The text of a line number that may be missing. -/
def lineNumberText (n : Option Int) : String :=
  match n with
  | some n => Text.integer n
  | none => (Scalar.null).display

/-- The line of a route in a list. -/
def routeLine (r : Route) : String :=
  let middlewares := Text.join ", " (r.middlewares.map (·.name))
  "  " ++ Text.padRight 7 r.method ++ " " ++ r.path ++ "  (" ++ r.filePath ++ ":" ++
    lineNumberText r.lineNumber ++ ")" ++
    (if middlewares == "" then "" else "  [" ++ middlewares ++ "]")

/-- Lists the routes of a project. -/
def scan (vs : Values) : Work Unit := do
  let routes ← routesOfProject (vs.path "root")
  sayAll (routes.map routeLine)

/-! ### Documents -/

/-- Makes the document of routes. -/
def makeDocument (s : Surroundings) (vs : Values) (routes : List Route) : Work Document := do
  let setting (key default : String) : Value := .text ((vs.text? key).getD default)
  let heading : Heading := {
    title := setting "title" Document.defaultTitle
    version := setting "api-version" Document.defaultVersion
    server := setting "server" Document.defaultServer }
  if vs.isOn "ai" false then
    let key := (vs.text? "api-key").getD ""
    if key == "" then
      throw (.refused "An API key is required for --ai (use --api-key or OPENROUTER_API_KEY)")
    let model := (vs.text? "model").getD ""
    say ("Generating documentation with " ++ (if model == "" then "the default model" else model) ++
      "...")
    let client : Client := { apiKey := .text key, model := .text model }
    let made ← talk (assistedDocument s.service client (fun _ => false) routes heading)
    require .stopped made
  else
    say "Generating documentation (no AI)..."
    require (fun f => .stopped (.fault f)) (quickDocument routes heading)

/-- Writes a document in both formats. -/
def writeDocument (d : Document) (folder : Path) : Work (List Path) := do
  makeFolder folder
  let yaml := folder.child "openapi.yaml"
  let json := folder.child "openapi.json"
  writeText yaml (Yaml.render (.map d))
  let text ← require (fun f => .stopped (.fault f)) (Json.render (.map d))
  writeText json text
  return [yaml, json]

/-- Validates a document and writes the report. -/
def writeReport (d : Document) (folder : Path) : Work (ValidationResult × Path) := do
  let result ← printing (validateDocument (.map d))
  let report := folder.child "validation-report.txt"
  writeText report (Report.render result)
  return (result, report)

/-- The line with the verdict on a document. -/
def verdictLine (r : ValidationResult) : String :=
  "Document is " ++ (if r.isValid then "valid" else "INVALID") ++ " (" ++
    Text.decimal r.errors.length ++ " errors, " ++ Text.decimal r.warnings.length ++ " warnings)."

/-- The line about a file that was written. -/
def createdLine (p : Path) : String := "  Created " ++ p.text

/-- Writes the documentation of a project. -/
def generate (s : Surroundings) (vs : Values) : Work Unit := do
  let routes ← match vs.text? "file" with
    | some file => routesOfFile (.ofText file)
    | none => routesOfProject (vs.path "root")
  if routes.isEmpty then throw (.refused "No routes found to document")
  let d ← makeDocument s vs routes
  let folder := vs.path "output"
  let written ← writeDocument d folder
  if vs.isOn "validate" true then
    let (result, report) ← writeReport d folder
    sayAll ((written ++ [report]).map createdLine)
    say (verdictLine result)
  else sayAll (written.map createdLine)

/-- Validates a document. -/
def validate (vs : Values) : Work Unit := do
  let document ← load (vs.path "document")
  let result ← printing (validateDocument (.map document))
  let report := Report.render result
  match vs.text? "output" with
  | none => say report
  | some output =>
    let output := Path.ofText output
    makeFolder output.parent
    writeText output report
    say ("Report saved to " ++ output.text)
  if !result.isValid then throw .invalid

/-- The members that a document has to have to be written as Markdown. -/
def exportedMembers : List String := ["openapi", "info", "paths"]

/-- Writes a document as Markdown. -/
def exportMarkdown (s : Surroundings) (vs : Values) : Work Unit := do
  let document ← load (vs.path "document")
  match exportedMembers.find? fun name => !Members.has document (.text name) with
  | some name =>
    throw (.refused ("Invalid OpenAPI document. Missing required field: " ++ name))
  | none =>
    let output := vs.path "output"
    makeFolder output.parent
    let text ← require (fun f => .stopped (.fault f)) (Markdown.render (.map document) s.now)
    writeText output text
    say ("Exported Markdown to " ++ output.text)

/-- Tries out the completion service. -/
def tryService (s : Surroundings) (vs : Values) : Work Unit := do
  let setting (key : String) : Value := ((vs.text? key).map Value.text).getD .null
  let client : Client := { apiKey := setting "api-key", model := setting "model" }
  say ("Testing connection to " ++ client.chosenModel.display ++ "...")
  if ← talk (testConnection s.service client) then say "Connection test successful!"
  else throw (.refused "Connection test failed")

/-! ### The program -/

/-- The commands by name, and what they do. -/
def commands (s : Surroundings) : List (String × Command × (Values → Work Unit)) := [
  ("export-md", exportCommand, exportMarkdown s),
  ("generate", generateCommand, generate s),
  ("scan", scanCommand, scan),
  ("test-connection", testCommand, tryService s),
  ("validate", validateCommand, validate)]

/-- How a command line ends. -/
structure Outcome where
  /-- The exit code. -/
  exitCode : Nat
  /-- The files and the log afterwards. -/
  workspace : Workspace
  /-- What was met, if it was unforeseen. -/
  escaped : Option Abort := none

/-- The console with text printed for the user. -/
def Workspace.print (w : Workspace) (text : String) : Workspace :=
  { w with log := { w.log with console := { w.log.console with out := w.log.console.out ++ text } } }

/-- The console with text printed about problems. -/
def Workspace.complain (w : Workspace) (text : String) : Workspace :=
  { w with log := { w.log with console := { w.log.console with err := w.log.console.err ++ text } } }

/-- The message of a fault in the words of a command. -/
def usageMessage (c : Command) (f : UsageFault) : String :=
  (if f.showsUsage then c.usageLine ++ "\nTry '" ++ c.path ++ " --help' for help.\n\n" else "") ++
    "Error: " ++ f.message ++ "\n"

/-- Ends with a fault in the words of a command. Nothing is said about a path that no file system takes;
it is met as something unforeseen. -/
def misused (c : Command) (f : UsageFault) (w : Workspace) : Outcome :=
  match f with
  | .unusablePath => ⟨1, w, some (.file .unusable)⟩
  | f => ⟨2, w.complain (usageMessage c f), none⟩

/-- How a command at work ends. -/
def finish (r : Except Abort Unit × Workspace) : Outcome :=
  match r with
  | (.ok _, w) => ⟨0, w, none⟩
  | (.error (.refused message), w) => ⟨1, w.complain ("Error: " ++ message ++ "\n"), none⟩
  | (.error .invalid, w) => ⟨1, w, none⟩
  | (.error a, w) => ⟨1, w, some a⟩

/-- Carries out a command. -/
def runCommand (s : Surroundings) (c : Command) (action : Values → Work Unit)
    (words : List String) (w : Workspace) : Outcome :=
  match c.accept w.tree s.environment words with
  | .error f => misused c f w
  | .ok .help => ⟨0, w.print c.helpText, none⟩
  | .ok (.values vs) => finish ((action vs).run w)

/-- Carries out a command line. -/
def run (s : Surroundings) (tree : FileTree) (words : List String) : Outcome :=
  let w : Workspace := { tree := tree }
  if words.isEmpty then ⟨2, w.complain program.helpText, none⟩
  else
    match choose ((commands s).map (·.1)) words with
    | .error f => misused program f w
    | .ok .help => ⟨0, w.print program.helpText, none⟩
    | .ok (.command name rest) =>
      match (commands s).find? fun c => c.1 == name with
      | some (_, c, action) => runCommand s c action rest w
      | none => misused program (.noSuchCommand name) w

end RouteAtlas.CommandLine
