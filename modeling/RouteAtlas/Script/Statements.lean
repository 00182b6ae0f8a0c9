import RouteAtlas.Script.Expressions

/-!
# Statements and declarations

Every kind of statement, in plain and in typed source texts. The reader is lenient where leniency
does no harm: a `return` may stand anywhere, a constant may lack its value.
-/

namespace RouteAtlas.Script

open Reader

/-! ### Variables -/

/-- Reads one variable of a declaration. -/
def declarator (g : Grammar) : Reader Tree := do
  let target ← g .pattern
  match ← ahead with
  | '!' :: ':' :: _ => pass 1
  | _ => pure ()
  let types ← optionalAnnotation g
  let value ← optionalInitializer g
  return .declarator target types value

/-- Whether the last variable of a declaration has a value. -/
def lastHasValue (ts : List Tree) : Bool :=
  match ts.getLast? with
  | some (.declarator _ _ (some _)) => true
  | _ => false

/-- Reads the variables of a declaration and its end. -/
def declarators (g : Grammar) : Reader Tree := do
  let ts ← commaItems (declarator g)
  statementEnd (lastHasValue ts)
  return .other ts

/-- Whether a text begins with something that can be bound. -/
def startsPattern (cs : List Char) : Bool :=
  startsWord cs ||
    match cs with
    | '[' :: _ => true
    | '\x7b' :: _ => true
    | _ => false

/-! ### Functions and types -/

/-- Reads a function declaration after its keyword; without a body it is only announced. -/
def functionDeclaration (g : Grammar) : Reader Tree := do
  let _ ← optionalOperator "*"
  let _ ← word
  let head ← signature g
  if ← atMark '\x7b' then
    let body ← block g
    return .other (head ++ [body])
  else
    statementEnd false
    return .other head

/-- Reads one member of an enumeration. -/
def enumMember (g : Grammar) : Reader Tree := do
  let name ← memberName g
  let value ← optionalDefault g
  return .other (name.tree :: value.toList)

/-- Reads an enumeration after its keyword. -/
def enumRest (g : Grammar) : Reader Tree := do
  let _ ← word
  mark '\x7b'
  return .other (← items (enumMember g) '\x7d')

/-- Reads an interface after its keyword. -/
def interfaceRest (g : Grammar) : Reader Tree := do
  let _ ← word
  let types ← optionalTypeParameters g
  let bases ← do
    if ← optionalKeyword "extends" then commaItems (g .type)
    else pure []
  let body ← objectType g
  return .other (types ++ bases ++ [body])

/-- Reads the name of a type and what defines it, after the keyword. -/
def typeAliasHead (g : Grammar) : Reader (List Tree) := do
  let _ ← word
  let types ← optionalTypeParameters g
  operator "="
  return types

/-- Reads the name of a namespace. -/
def namespaceName : Reader Unit := do
  if startsQuoted (← ahead) then
    let _ ← quoted
  else
    let _ ← dotted

/-- Reads words in order. -/
def keywords : List String → Reader Unit
  | [] => return
  | w :: ws => do
    keyword w
    keywords ws

/-- Tries the words that begin a declaration, and a condition on what follows them. -/
def begins (ws : List String) (test : List Char → Bool) : Reader Bool := do
  let found ← attempt do
    keywords ws
    guard (test (← ahead))
  return found.isSome

/-- A test that always holds. -/
def anything : List Char → Bool := fun _ => true

/-- Reads a declaration whose beginning cannot be anything else, `none` if there is none. -/
def plainDeclaration (g : Grammar) : Reader (Option Tree) := do
  let w ← nextWord
  if w == "var" then
    keyword w
    return some (← declarators g)
  else if w == "const" then
    if ← begins ["const", "enum"] startsWord then return some (← enumRest g)
    else
      keyword w
      return some (← declarators g)
  else if w == "let" then
    if ← begins ["let"] startsPattern then return some (← declarators g) else return none
  else if w == "function" then
    if ← begins ["function"] fun cs => startsWord cs || cs.head? == some '*' then
      return some (← functionDeclaration g)
    else return none
  else if w == "async" then
    if ← begins ["async", "function"] fun cs => startsWord cs || cs.head? == some '*' then
      return some (← functionDeclaration g)
    else return none
  else if w == "class" then
    keyword w
    return some (← classRest g)
  else if w == "abstract" then
    if ← begins ["abstract", "class"] anything then return some (← classRest g) else return none
  else if w == "enum" then
    keyword w
    return some (← enumRest g)
  else if w == "interface" then
    keyword w
    return some (← interfaceRest g)
  else if w == "type" then
    let head ← attempt do
      keyword "type"
      typeAliasHead g
    match head with
    | some types =>
      let t ← g .type
      statementEnd false
      return some (.other (types ++ [t]))
    | none => return none
  else if w == "namespace" || w == "module" then
    let head ← attempt do
      keyword w
      namespaceName
      guard (← atMark '\x7b')
    match head with
    | some _ => return some (← block g)
    | none => return none
  else return none

/-- Reads a declaration, `none` if there is none. Declarations of things defined elsewhere begin
with a word of their own. -/
def declaration (g : Grammar) : Reader (Option Tree) := do
  if (← nextWord) != "declare" then plainDeclaration g
  else if ← begins ["declare", "global"] (·.head? == some '\x7b') then return some (← block g)
  else
    let absent ← attempt do
      keyword "declare"
      keyword "module"
      namespaceName
      guard !(← atMark '\x7b')
      statementEnd false
    match absent with
    | some _ => return some (.other [])
    | none =>
      let saved ← here
      keyword "declare"
      match ← plainDeclaration g with
      | some t => return some t
      | none =>
        back saved
        return none

/-! ### Modules -/

/-- Reads the name of something imported or exported. -/
def moduleName : Reader Unit := do
  if startsQuoted (← ahead) then
    let _ ← quoted
  else
    let _ ← word

/-- Reads one name of a list of imports or exports, with its other name. -/
def specifier : Reader Tree := do
  let w ← nextWord
  let typed ← attempt do
    guard (w == "type" || w == "typeof")
    let _ ← word
    let next ← nextWord
    guard (next != "" && next != "as" || startsQuoted (← ahead))
    moduleName
  match typed with
  | some _ => pure ()
  | none => moduleName
  if ← optionalKeyword "as" then
    moduleName
  return .other []

/-- Reads a list of imports or exports. -/
def specifiers : Reader Unit := do
  mark '\x7b'
  let _ ← items specifier '\x7d'

/-- Reads where something is imported from, and the attributes of the import. -/
def source (g : Grammar) : Reader Unit := do
  let _ ← quoted
  let c ← here
  let w ← nextWord
  if (w == "with" || w == "assert") && !c.freshLine then
    let _ ← word
    let _ ← objectLiteral g

/-- Reads where something comes from. -/
def fromSource (g : Grammar) : Reader Unit := do
  keyword "from"
  source g

/-- Reads the names that an import brings in. -/
def importClause : Reader Unit := do
  let starred : Reader Unit := do
    operator "*"
    keyword "as"
    moduleName
  match ← ahead with
  | '\x7b' :: _ => specifiers
  | '*' :: _ => starred
  | _ =>
    let _ ← word
    if ← optionalMark ',' then
      match ← ahead with
      | '\x7b' :: _ => specifiers
      | _ => starred

/-- Reads an import after its keyword. -/
def importRest (g : Grammar) : Reader Tree := do
  if startsQuoted (← ahead) then
    source g
    statementEnd false
    return .other []
  else
    let renamed ← attempt do
      let w ← nextWord
      if w == "type" then
        let saved ← here
        let _ ← word
        unless startsWord (← ahead) do back saved
      let _ ← word
      operator "="
    match renamed with
    | some _ =>
      if ← begins ["require"] (·.head? == some '(') then
        mark '('
        let _ ← quoted
        mark ')'
      else
        let _ ← dotted
      statementEnd false
      return .other []
    | none =>
      let typed ← attempt do
        let w ← nextWord
        guard (w == "type" || w == "typeof")
        let _ ← word
        importClause
        fromSource g
      match typed with
      | some _ => pure ()
      | none =>
        importClause
        fromSource g
      statementEnd false
      return .other []

/-- Reads an export after its keyword. -/
def exportRest (g : Grammar) : Reader Tree := do
  let list ← attempt do
    let _ ← optionalKeyword "type"
    if ← optionalOperator "*" then
      if ← optionalKeyword "as" then
        moduleName
      fromSource g
    else
      specifiers
      if (← nextWord) == "from" then
        fromSource g
    statementEnd false
  match list with
  | some _ => return .other []
  | none =>
    if ← optionalOperator "=" then
      let t ← g (.expression .outer)
      statementEnd true
      return .other [t]
    else if ← begins ["as", "namespace"] startsWord then
      let _ ← word
      statementEnd false
      return .other []
    else if ← optionalKeyword "default" then
      match ← declaration g with
      | some t => return t
      | none =>
        let t ← g (.expression .outer)
        statementEnd true
        return .other [t]
    else if ← begins ["import"] startsWord then importRest g
    else
      let before ← decorators g
      match ← declaration g with
      | some t => return .other (before ++ [t])
      | none => fail

/-! ### Control -/

/-- Reads an expression in parentheses as the condition of a statement. -/
def condition (g : Grammar) : Reader Tree := parenthesized g

/-- Reads what a loop over a collection binds. -/
def loopTarget (g : Grammar) : Reader (List Tree) := do
  let declared ← attempt do
    let w ← nextWord
    guard (w == "var" || w == "let" || w == "const")
    let _ ← word
    let t ← g .pattern
    let value ← if w == "var" then optionalDefault g else pure none
    let next ← nextWord
    guard (next == "in" || next == "of")
    return t :: value.toList
  match declared with
  | some ts => return ts
  | none =>
    let matched ← attempt do
      let t ← g .pattern
      let next ← nextWord
      guard (next == "in" || next == "of")
      return t
    match matched with
    | some t => return [t]
    | none =>
      let t ← suffixed g .inner
      let next ← nextWord
      guard (t.assignable && (next == "in" || next == "of"))
      return [t.tree]

/-- Reads the head of a loop over a collection, up to the closing parenthesis. -/
def collectionHead (g : Grammar) : Reader (List Tree) := do
  let target ← loopTarget g
  let _ ← word
  let ts ← expressions g .inner
  mark ')'
  return target ++ [ts]

/-- Reads the head of a counting loop, up to the closing parenthesis. -/
def countingHead (g : Grammar) : Reader (List Tree) := do
  let start ← do
    if ← optionalMark ';' then pure []
    else
      let w ← nextWord
      if w == "var" || w == "const" || w == "let" then
        match ← plainDeclaration g with
        | some t => pure [t]
        | none => fail
      else
        let t ← expressions g .inner
        mark ';'
        pure [t]
  let test ← do
    if ← optionalMark ';' then pure []
    else
      let t ← expressions g .inner
      mark ';'
      pure [t]
  let step ← do
    if ← atMark ')' then pure []
    else
      let t ← expressions g .inner
      pure [t]
  mark ')'
  return start ++ test ++ step

/-- Reads a `for` loop after its keyword. -/
def forRest (g : Grammar) : Reader Tree := do
  let _ ← optionalKeyword "await"
  mark '('
  let head ← match ← attempt (collectionHead g) with
    | some ts => pure ts
    | none => countingHead g
  let body ← g .statement
  return .other (head ++ [body])

/-- Reads one case of a switch. -/
def switchCase (g : Grammar) : Reader Tree := do
  let label ← do
    if ← optionalKeyword "default" then pure []
    else
      keyword "case"
      let t ← expressions g .inner
      pure [t]
  mark ':'
  let ts ← many do
    let w ← nextWord
    guard !(w == "case" || w == "default" || (← atMark '\x7d'))
    g .statement
  return .other (label ++ ts)

/-- Reads a switch after its keyword. -/
def switchRest (g : Grammar) : Reader Tree := do
  let subject ← condition g
  mark '\x7b'
  let cases ← many do
    guard !(← atMark '\x7d')
    switchCase g
  mark '\x7d'
  return .other (subject :: cases)

/-- Reads a `try` after its keyword. -/
def tryRest (g : Grammar) : Reader Tree := do
  let body ← block g
  let handler ← do
    if ← optionalKeyword "catch" then
      let bound ← do
        if ← optionalMark '(' then
          let t ← g .pattern
          let types ← optionalAnnotation g
          mark ')'
          pure (t :: types)
        else pure []
      let t ← block g
      pure (bound ++ [t])
    else pure []
  let final ← do
    if ← optionalKeyword "finally" then
      let t ← block g
      pure [t]
    else pure []
  return .other (body :: handler ++ final)

/-- Reads a jump after its keyword: a label if one follows on the same line. -/
def jumpRest : Reader Tree := do
  let c ← here
  if !endsStatement false c && startsWord c.rest then
    let _ ← word
  statementEnd false
  return .other []

/-- Reads the optional value of a `return`. -/
def returnRest (g : Grammar) : Reader Tree := do
  let c ← here
  if (← atMark ';') || endsStatement false c then
    statementEnd false
    return .other []
  else
    let t ← expressions g .outer
    statementEnd true
    return .other [t]

/-- Reads an `if` after its keyword. -/
def ifRest (g : Grammar) : Reader Tree := do
  let test ← condition g
  let yes ← g .statement
  if ← optionalKeyword "else" then
    let no ← g .statement
    return .other [test, yes, no]
  else return .other [test, yes]

/-- Reads a `do` loop after its keyword. -/
def doRest (g : Grammar) : Reader Tree := do
  let body ← g .statement
  keyword "while"
  let test ← condition g
  let _ ← optionalMark ';'
  return .other [body, test]

/-- Reads an expression that is a statement. -/
def expressionStatement (g : Grammar) : Reader Tree := do
  let t ← expressions g .outer
  statementEnd true
  return .other [t]

/-- Reads a label, if the statement has one. -/
def label : Reader Unit := do
  let _ ← word
  mark ':'

/-- Reads a statement that begins with a word. -/
def wordStatement (g : Grammar) (w : String) : Reader Tree := do
  let read (p : Reader Tree) : Reader Tree := do
    keyword w
    p
  match w with
  | "if" => read (ifRest g)
  | "for" => read (forRest g)
  | "while" => read do
    let test ← condition g
    let body ← g .statement
    return .other [test, body]
  | "with" => read do
    let subject ← condition g
    let body ← g .statement
    return .other [subject, body]
  | "do" => read (doRest g)
  | "try" => read (tryRest g)
  | "switch" => read (switchRest g)
  | "break" => read jumpRest
  | "continue" => read jumpRest
  | "return" => read (returnRest g)
  | "throw" => read do
    let t ← expressions g .outer
    statementEnd true
    return .other [t]
  | "debugger" => read do
    statementEnd false
    return .other []
  | "export" => read (exportRest g) <|> expressionStatement g
  | "import" =>
    if ← begins ["import"] fun cs => !(cs.head? == some '(' || cs.head? == some '.') then importRest g
    else expressionStatement g
  | _ =>
    match ← attempt label with
    | some _ => g .statement
    | none =>
      match ← declaration g with
      | some t => return t
      | none => expressionStatement g

/-- Reads a statement that begins with decorators: a class, possibly exported. -/
def decoratedStatement (g : Grammar) : Reader Tree := do
  let before ← decorators g
  if ← optionalKeyword "export" then
    let _ ← optionalKeyword "default"
  let _ ← optionalKeyword "abstract"
  keyword "class"
  let t ← classRest g
  return .other (before ++ [t])

/-- Reads a statement. -/
def statement (g : Grammar) : Reader Tree := do
  let cs ← ahead
  if startsWord cs then wordStatement g (wordAhead cs)
  else
    match cs with
    | '\x7b' :: _ => block g
    | ';' :: _ =>
      pass 1
      return .other []
    | '@' :: _ => decoratedStatement g
    | [] => fail
    | _ => expressionStatement g

end RouteAtlas.Script
