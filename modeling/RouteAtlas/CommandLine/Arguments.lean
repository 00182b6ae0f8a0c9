import RouteAtlas.Files.Tree

/-!
# Arguments of commands

A `Command` has parameters: options, which are given by name, and arguments, which are given by
position. `Command.read` sorts the words of a command line into parameters; `Command.accept` checks
the values, first those of the options in the order in which they were given, then the arguments,
then the options that were not given. The first fault found is the one that is reported.
-/

namespace RouteAtlas.CommandLine

/-! ### Commands -/

/-- What a path has to lead to. -/
structure PathRule where
  /-- Whether something has to be there. -/
  mustExist : Bool
  /-- Whether a folder is wanted, and not a file. -/
  folder : Bool

/-- What a parameter takes. -/
inductive Taking
  /-- Any text. -/
  | text
  /-- A path. -/
  | path (rule : PathRule)
  /-- Nothing: it is switched on or off. -/
  | switch

/-- A parameter. -/
structure Param where
  /-- What the program calls it. -/
  key : String
  /-- The names it is given by; none for an argument. -/
  names : List String := []
  /-- The names that switch it off. -/
  offNames : List String := []
  /-- What it is called in messages, if it is an argument. -/
  title : String := ""
  /-- What it takes. -/
  taking : Taking := .text
  /-- Whether it has to be given. -/
  required : Bool := false
  /-- The environment variable that is used where it is not given. -/
  fromEnv : Option String := none

/-- Whether a parameter is given by position. -/
def Param.isArgument (p : Param) : Bool := p.names.isEmpty

/-- Whether a parameter takes a value. -/
def Param.takesValue (p : Param) : Bool :=
  match p.taking with
  | .switch => false
  | _ => true

/-- How messages name a parameter. -/
def Param.label (p : Param) : String :=
  if p.isArgument then "'" ++ p.title ++ "'"
  else Text.join " / " (p.names.map fun n => "'" ++ n ++ "'")

/-- The option that asks for help. -/
def helpOption : Param := { key := "help", names := ["--help"], taking := .switch }

/-- A command. -/
structure Command where
  /-- How it is called, with the name of the program. -/
  path : String
  /-- What follows in the line that shows how to use it. -/
  usage : String
  /-- Its parameters. -/
  params : List Param
  /-- The lines of its help after the first. -/
  help : List String

/-- The line that shows how to use a command. -/
def Command.usageLine (c : Command) : String := "Usage: " ++ c.path ++ " " ++ c.usage

/-- The help of a command. -/
def Command.helpText (c : Command) : String := Text.join "\n" (c.usageLine :: c.help)

/-! ### Faults -/

/-- What is wrong with a command line. -/
inductive UsageFault
  | noSuchOption (name : String)
  | needsValue (name : String)
  | takesNoValue (name : String)
  | missingArgument (label : String)
  | missingOption (label : String)
  | invalidPath (label : String) (rule : PathRule) (path : String) (reason : String)
  | extraArguments (words : List String)
  | noSuchCommand (name : String)
  | missingCommand
  /-- A path that no file system takes. -/
  | unusablePath

/-- The wording of a fault. -/
def UsageFault.message : UsageFault → String
  | .noSuchOption name => "No such option " ++ Text.quoted name ++ "."
  | .needsValue name => "Option " ++ Text.quoted name ++ " requires an argument."
  | .takesNoValue name => "Option " ++ Text.quoted name ++ " does not take a value."
  | .missingArgument label => "Missing argument " ++ label ++ "."
  | .missingOption label => "Missing option " ++ label ++ "."
  | .invalidPath label rule path reason =>
    "Invalid value for " ++ label ++ ": " ++ (if rule.folder then "Directory " else "File ") ++
      Text.quoted path ++ " " ++ reason
  | .extraArguments words =>
    "Got unexpected extra argument" ++ (if words.length == 1 then "" else "s") ++ " (" ++
      Text.join " " words ++ ")"
  | .noSuchCommand name => "No such command " ++ Text.quoted name ++ "."
  | .missingCommand => "Missing command."
  | .unusablePath => FileError.unusable.message

/-- Whether the way to use the command is shown with a fault. -/
def UsageFault.showsUsage : UsageFault → Bool
  | .needsValue _ | .takesNoValue _ => false
  | _ => true

/-! ### Reading words -/

/-- What is given for a parameter. -/
inductive Given
  /-- A text. -/
  | text (s : String)
  /-- On or off. -/
  | switch (on : Bool)

/-- Words sorted into parameters. -/
structure Words where
  /-- What is given by name, in order. -/
  named : List (String × Given) := []
  /-- The other words. -/
  loose : List String := []

/-- Whether a word looks like an option. -/
def isOption (word : String) : Bool := Text.beginsWith word "-" && word != "-"

/-- Whether a name is that of a long option. -/
def isLong (name : String) : Bool := Text.beginsWith name "--"

/-- The parameter of a name, and whether the name switches it on. -/
def findParam (params : List Param) (name : String) : Option (Param × Bool) :=
  match params.find? fun p => p.names.contains name with
  | some p => some (p, true)
  | none => (params.find? fun p => p.offNames.contains name).map fun p => (p, false)

/-- What an option word gives, and whether it takes the next word. -/
abbrev OptionWord := List (String × Given) × Bool

/-- Reads the letters of a word of short options. -/
def readLetters (params : List Param) (next : Option String) :
    List Char → Except UsageFault OptionWord
  | [] => .ok ([], false)
  | c :: cs =>
    let name := String.ofList ['-', c]
    match findParam params name with
    | none => .error (.noSuchOption name)
    | some (p, on) =>
      if p.takesValue then
        match cs, next with
        | _ :: _, _ => .ok ([(p.key, .text (String.ofList cs))], false)
        | [], some value => .ok ([(p.key, .text value)], true)
        | [], none => .error (.needsValue name)
      else (readLetters params next cs).map fun r => ((p.key, .switch on) :: r.1, r.2)

/-- The name in an option word and the value attached to it. -/
def splitAttached (word : String) : String × Option String :=
  let cs := word.toList
  let name := String.ofList (cs.takeWhile (· != '='))
  match cs.dropWhile (· != '=') with
  | [] => (name, none)
  | _ :: value => (name, some (String.ofList value))

/-- Reads an option word. -/
def readOption (params : List Param) (word : String) (next : Option String) :
    Except UsageFault OptionWord :=
  let (name, attached) := splitAttached word
  match if isLong name then findParam params name else none with
  | some (p, on) =>
    match p.takesValue, attached, next with
    | true, some value, _ => .ok ([(p.key, .text value)], false)
    | true, none, some value => .ok ([(p.key, .text value)], true)
    | true, none, none => .error (.needsValue name)
    | false, some _, _ => .error (.takesNoValue name)
    | false, none, _ => .ok ([(p.key, .switch on)], false)
  | none =>
    if isLong word then .error (.noSuchOption name)
    else readLetters params next (word.toList.drop 1)

/-- Reads words. After two dashes no word is an option; if options have to come first, none is after
the first word that is not one. -/
def readWords (params : List Param) (optionsFirst : Bool) : List String → Except UsageFault Words
  | [] => .ok {}
  | word :: rest =>
    if word == "--" then .ok { loose := rest }
    else if isOption word then
      match readOption params word rest.head? with
      | .error e => .error e
      | .ok (given, false) =>
        (readWords params optionsFirst rest).map fun w => { w with named := given ++ w.named }
      | .ok (given, true) =>
        match rest with
        | [] => .ok { named := given }
        | _ :: rest =>
          (readWords params optionsFirst rest).map fun w => { w with named := given ++ w.named }
    else if optionsFirst then .ok { loose := word :: rest }
    else (readWords params optionsFirst rest).map fun w => { w with loose := word :: w.loose }

/-! ### Values -/

/-- The environment. -/
abbrev Environment := List (String × String)

/-- The value of an environment variable; an empty one counts as not set. -/
def Environment.value? (env : Environment) (name : String) : Option String :=
  match env.find? fun e => e.1 == name with
  | some (_, value) => if value == "" then none else some value
  | none => none

/-- The values of parameters. -/
abbrev Values := List (String × Given)

/-- The text of a parameter. -/
def Values.text? (vs : Values) (key : String) : Option String :=
  match vs.find? fun v => v.1 == key with
  | some (_, .text s) => some s
  | _ => none

/-- The path of a parameter. -/
def Values.path (vs : Values) (key : String) : Path := .ofText ((vs.text? key).getD "")

/-- Whether a parameter is switched on. -/
def Values.isOn (vs : Values) (key : String) (default : Bool) : Bool :=
  match vs.find? fun v => v.1 == key with
  | some (_, .switch on) => on
  | _ => default

/-- What is at the place of a path text: whether it is a folder, or nothing. A slash at the end asks
for a folder. -/
def probe (t : FileTree) (path : String) : Option Bool :=
  let asksFolder := path.toList.getLast? == some '/' || ['.', '/'].isPrefixOf path.toList.reverse
  match t.lookUp (.ofText path) with
  | .folder _ => if path == "" then none else some true
  | .file _ _ => if asksFolder then none else some false
  | _ => none

/-- Checks a path. -/
def checkPath (t : FileTree) (label : String) (rule : PathRule) (path : String) :
    Except UsageFault Unit :=
  if (Path.ofText path).isUsable then
    match probe t path with
    | none =>
      if rule.mustExist then .error (.invalidPath label rule path "does not exist.") else .ok ()
    | some isFolder =>
      if rule.folder && !isFolder then .error (.invalidPath label rule path "is a file.")
      else if !rule.folder && isFolder then .error (.invalidPath label rule path "is a directory.")
      else .ok ()
  else .error .unusablePath

/-- Checks what is given for a parameter. -/
def checkGiven (t : FileTree) (p : Param) : Given → Except UsageFault Unit
  | .switch _ => .ok ()
  | .text s =>
    match p.taking with
    | .path rule => checkPath t p.label rule s
    | _ => .ok ()

/-- What a parameter gets: what is given last, else the environment variable. -/
def valueOf? (env : Environment) (given : List (String × Given)) (p : Param) : Option Given :=
  match given.reverse.find? fun g => g.1 == p.key with
  | some (_, g) => some g
  | none => (p.fromEnv.bind env.value?).map .text

/-- The values of parameters, each one checked in turn. -/
def acceptParams (t : FileTree) (env : Environment) (given : List (String × Given)) :
    List Param → Except UsageFault Values
  | [] => .ok []
  | p :: ps =>
    match valueOf? env given p with
    | some g => do
      checkGiven t p g
      let rest ← acceptParams t env given ps
      return (p.key, g) :: rest
    | none =>
      if p.required then
        .error (if p.isArgument then .missingArgument p.label else .missingOption p.label)
      else acceptParams t env given ps

/-- Parameters in the order in which they are checked. -/
def checkingOrder (params : List Param) (named : List (String × Given)) : List Param :=
  let keys := (named.map (·.1)).eraseDups
  let options := params.filter fun p => !p.isArgument
  keys.filterMap (fun k => options.find? fun p => p.key == k) ++
    params.filter (·.isArgument) ++ options.filter fun p => !keys.contains p.key

/-- What words come to. -/
inductive Reading
  /-- Help is asked for. -/
  | help
  /-- The values of the parameters. -/
  | values (vs : Values)

/-- Reads and checks the words for a command. -/
def Command.accept (c : Command) (t : FileTree) (env : Environment) (words : List String) :
    Except UsageFault Reading := do
  let w ← readWords (c.params ++ [helpOption]) false words
  if w.named.any fun g => g.1 == helpOption.key then return .help
  let arguments := c.params.filter (·.isArgument)
  let positional := (arguments.zip w.loose).map fun (p, s) => (p.key, Given.text s)
  let vs ← acceptParams t env (w.named ++ positional) (checkingOrder c.params w.named)
  let extra := w.loose.drop arguments.length
  if extra.isEmpty then return .values vs else throw (.extraArguments extra)

end RouteAtlas.CommandLine
