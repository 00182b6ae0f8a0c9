import RouteAtlas.CommandLine.Arguments

/-!
# The commands of the program

The five commands with their parameters and their help, and the program as a command of its own,
whose words name one of them.
-/

namespace RouteAtlas.CommandLine

/-- The name of the program. -/
def programName : String := "express-openapi"

/-- A path of a folder that has to be there. -/
def rootArgument : Param where
  key := "root"
  title := "ROOT"
  taking := .path ⟨true, true⟩
  required := true

/-- A path of a file that has to be there. -/
def documentArgument : Param where
  key := "document"
  title := "DOC_PATH"
  taking := .path ⟨true, false⟩
  required := true

/-- Where to write to. -/
def outputOption (folder required : Bool) : Param where
  key := "output"
  names := ["-o", "--output"]
  taking := .path ⟨false, folder⟩
  required := required

/-- The key for the completion service. -/
def keyOption (required : Bool) : Param where
  key := "api-key"
  names := ["--api-key"]
  required := required
  fromEnv := some "OPENROUTER_API_KEY"

/-- The model to ask. -/
def modelOption : Param where
  key := "model"
  names := ["--model"]
  fromEnv := some "EXPRESS_OPENAPI_MODEL"

/-- The help lines that all commands end with. -/
def helpLine (width : Nat) : String :=
  "  " ++ Text.padRight width "--help" ++ "Show this message and exit.\n"

/-- Lists the routes of a project. -/
def scanCommand : Command where
  path := programName ++ " scan"
  usage := "[OPTIONS] ROOT"
  params := [rootArgument]
  help := ["", "  List the routes found under a project directory.", "", "Options:", helpLine 8]

/-- Writes the documentation of a project. -/
def generateCommand : Command where
  path := programName ++ " generate"
  usage := "[OPTIONS] ROOT"
  params := [
    rootArgument,
    outputOption true true,
    { key := "file", names := ["--file"], taking := .path ⟨true, false⟩ },
    { key := "ai", names := ["--ai"], offNames := ["--no-ai"], taking := .switch },
    { key := "title", names := ["--title"] },
    { key := "api-version", names := ["--api-version"] },
    { key := "server", names := ["--server"] },
    keyOption false,
    modelOption,
    { key := "validate", names := ["--validate"], offNames := ["--no-validate"],
      taking := .switch }]
  help := ["", "  Generate OpenAPI documentation for an Express project.", "", "Options:",
    "  -o, --output DIRECTORY      Output directory for openapi.yaml / openapi.json.",
    "                              [required]",
    "  --file FILE                 Document a single source file instead of scanning.",
    "  --ai / --no-ai              Let the language model write each operation.",
    "  --title TEXT                API title.",
    "  --api-version TEXT          API version.",
    "  --server TEXT               Server URL.",
    "  --api-key TEXT              Completion service API key.",
    "  --model TEXT                LLM model to use.",
    "  --validate / --no-validate  Also write a validation report.",
    helpLine 28]

/-- Validates a document. -/
def validateCommand : Command where
  path := programName ++ " validate"
  usage := "[OPTIONS] DOC_PATH"
  params := [documentArgument, outputOption false false]
  help := ["", "  Validate an OpenAPI YAML/JSON file.", "", "Options:",
    "  -o, --output FILE  Write the report to a file instead of stdout.",
    helpLine 19]

/-- Writes a document as Markdown. -/
def exportCommand : Command where
  path := programName ++ " export-md"
  usage := "[OPTIONS] DOC_PATH"
  params := [documentArgument, outputOption false true]
  help := ["", "  Convert an OpenAPI document to Markdown.", "", "Options:",
    "  -o, --output FILE  Output Markdown file.  [required]",
    helpLine 19]

/-- Tries out the completion service. -/
def testCommand : Command where
  path := programName ++ " test-connection"
  usage := "[OPTIONS]"
  params := [keyOption true, modelOption]
  help := ["", "  Check that the completion service answers.", "", "Options:",
    "  --api-key TEXT  Completion service API key.  [required]",
    "  --model TEXT    LLM model to use.",
    helpLine 16]

/-- The program itself. -/
def program : Command where
  path := programName
  usage := "[OPTIONS] COMMAND [ARGS]..."
  params := []
  help := ["", "  Express OpenAPI: generate OpenAPI 3.1 docs from Express route files.", "",
    "Options:", helpLine 8,
    "Commands:",
    "  export-md        Convert an OpenAPI document to Markdown.",
    "  generate         Generate OpenAPI documentation for an Express project.",
    "  scan             List the routes found under a project directory.",
    "  test-connection  Check that the completion service answers.",
    "  validate         Validate an OpenAPI YAML/JSON file.\n"]

/-- What the words of a program line name. -/
inductive Choice
  /-- Help is asked for. -/
  | help
  /-- A command and its words. -/
  | command (name : String) (words : List String)

/-- Reads the words up to the name of the command. A word that looks like an option but stands in the
place of a name is read as an option after all. -/
def choose (names : List String) (words : List String) : Except UsageFault Choice := do
  let w ← readWords [helpOption] true words
  if !w.named.isEmpty then return .help
  match w.loose with
  | [] => throw .missingCommand
  | name :: rest =>
    if names.contains name then return .command name rest
    else
      let again ← readWords [helpOption] true (name :: rest)
      if isOption name && !again.named.isEmpty then return .help
      else throw (.noSuchCommand name)

end RouteAtlas.CommandLine
