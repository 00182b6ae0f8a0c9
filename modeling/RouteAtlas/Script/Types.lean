import RouteAtlas.Script.Goal

/-!
# Types, patterns and parameters

Type annotations are read in full, because a source text with a broken one is broken, but they
contribute little to a tree: only a query of the type of a member is kept, as a member access.
-/

namespace RouteAtlas.Script

open Reader

/-! ### Annotations and type arguments -/

/-- Reads a closing angle bracket, also where more of them follow. -/
def closeAngle : Reader Unit := mark '>'

/-- Reads items in angle brackets. -/
def angled (item : Reader Tree) : Reader (List Tree) := do
  mark '<'
  let t ← item
  let ts ← moreItems item
  let _ ← optionalMark ','
  closeAngle
  return t :: ts

/-- Reads the type arguments of a type or a call. -/
def typeArguments (g : Grammar) : Reader (List Tree) := angled (g .type)

/-- Reads type arguments if they are there. -/
def optionalTypeArguments (g : Grammar) : Reader (List Tree) := do
  if ← atMark '<' then typeArguments g else return []

/-- Reads one type parameter, with its bound and its default. -/
def typeParameter (g : Grammar) : Reader Tree := do
  if (← nextWord) == "const" then
    let saved ← here
    pass 5
    unless startsWord (← ahead) do back saved
  let _ ← word
  let bound ← do
    if (← optionalKeyword "extends") || (← optionalMark ':') then
      let t ← g .type
      pure [t]
    else pure []
  let default ← do
    if ← optionalOperator "=" then
      let t ← g .type
      pure [t]
    else pure []
  return .other (bound ++ default)

/-- Reads type parameters if they are there. -/
def optionalTypeParameters (g : Grammar) : Reader (List Tree) := do
  if ← atMark '<' then angled (typeParameter g) else return []

/-- Reads an annotation if it is there: a colon and a type. -/
def optionalAnnotation (g : Grammar) : Reader (List Tree) := do
  if ← optionalMark ':' then
    let t ← g .type
    return [t]
  else return []

/-- Reads a type, or a statement about a parameter that holds when the function returns. -/
def resultType (g : Grammar) : Reader (List Tree) := do
  let predicate : Reader (List Tree) := do
    if ← optionalKeyword "asserts" then
      guard (startsWord (← ahead))
      let _ ← word
      if ← optionalKeyword "is" then
        let t ← g .type
        return [t]
      else return []
    else
      let _ ← word
      let c ← here
      guard !c.freshLine
      keyword "is"
      let t ← g .type
      return [t]
  if startsWord (← ahead) then
    match ← attempt predicate with
    | some ts => return ts
    | none =>
      let t ← g .type
      return [t]
  else
    let t ← g .type
    return [t]

/-- Reads the annotation of a result if it is there. -/
def optionalResult (g : Grammar) : Reader (List Tree) := do
  if ← optionalMark ':' then resultType g else return []

/-! ### Patterns -/

/-- Reads a default value if it is there. -/
def optionalDefault (g : Grammar) : Reader (Option Tree) := do
  if ← optionalOperator "=" then
    let t ← g (.expression .inner)
    return some t
  else return none

/-- A binding with its default, if it has one. -/
def withDefault (target : Tree) : Option Tree → Tree
  | some value => .defaulted target value
  | none => target

/-- Reads one entry of a pattern that takes an object apart. -/
def patternEntry (g : Grammar) : Reader Tree := do
  if ← optionalOperator "..." then
    let t ← g .pattern
    return .other [t]
  else
    let cs ← ahead
    if startsWord cs || !(startsMemberName cs) then
      if startsWord cs then
        let w ← word
        if ← optionalMark ':' then
          let target ← g .pattern
          let value ← optionalDefault g
          return .pair (some w) (.other []) (withDefault target value)
        else
          let value ← optionalDefault g
          return withDefault (.shorthand w) value
      else
        let target ← g .pattern
        operator "="
        let value ← g (.expression .inner)
        return .defaulted target value
    else
      let name ← memberName g
      mark ':'
      let target ← g .pattern
      let value ← optionalDefault g
      return .pair none name.tree (withDefault target value)

/-- Reads one item of a pattern that takes a list apart. -/
def patternItem (g : Grammar) : Reader Tree := do
  if ← optionalOperator "..." then
    let t ← g .pattern
    return .other [t]
  else
    let target ← g .pattern
    let value ← optionalDefault g
    return withDefault target value

/-- Reads what a declaration or a parameter binds. -/
def pattern (g : Grammar) : Reader Tree := do
  match ← ahead with
  | '\x7b' :: _ =>
    mark '\x7b'
    let entries ← looseItems (patternEntry g) '\x7d'
    return .pattern entries
  | '[' :: _ =>
    mark '['
    let ts ← looseItems (patternItem g) ']'
    return .other ts
  | _ =>
    let w ← word
    return .identifier w.text

/-! ### Decorators and parameters -/

/-- Reads the member accesses behind the name of a decorator. -/
def dottedRest (base : Tree) : Nat → Reader Tree
  | 0 => return base
  | n + 1 => do
    if ← optionalOperator "." then
      let w ← word
      dottedRest (.member base (some w)) n
    else return base

/-- Reads a name with points. -/
def dotted : Reader Tree := do
  let w ← word
  let c ← here
  dottedRest (.identifier w.text) c.remaining

/-- Reads a decorator. -/
def decorator (g : Grammar) : Reader Tree := do
  mark '@'
  if ← optionalMark '(' then
    let t ← expressions g .inner
    mark ')'
    return .other [t]
  else
    let c ← here
    let name ← dotted
    let typed ← attempt do
      let ts ← optionalTypeArguments g
      guard (← atMark '(')
      return ts
    match typed with
    | some types =>
      let args ← arguments g
      return .other [.call c.row name types args]
    | none => return .other [name]

/-- Reads decorators. -/
def decorators (g : Grammar) : Reader (List Tree) :=
  many (decorator g)

/-- Words that may stand in front of a parameter. -/
def parameterModifiers : List String := ["public", "private", "protected", "override", "readonly"]

/-- Skips words in front of a parameter. -/
def skipModifiers (modifiers : List String) : Nat → Reader Unit
  | 0 => return
  | n + 1 => do
    if modifiers.contains (← nextWord) then
      let saved ← here
      let _ ← word
      let cs ← ahead
      let goesOn := startsWord cs ||
        match cs with
        | '\x7b' :: _ => true
        | '[' :: _ => true
        | _ => false
      if goesOn then skipModifiers modifiers n else back saved
    else return

/-- Reads one parameter. -/
def parameter (g : Grammar) : Reader Tree := do
  let before ← decorators g
  skipModifiers parameterModifiers 4
  let target ← do
    if ← optionalOperator "..." then
      let t ← g .pattern
      pure (Tree.other [t])
    else g .pattern
  let _ ← optionalMark '?'
  let types ← optionalAnnotation g
  let value ← optionalDefault g
  return .other (before ++ target :: types ++ value.toList)

/-- Reads the parameters of a function. -/
def parameters (g : Grammar) : Reader (List Tree) := do
  mark '('
  items (parameter g) ')'

/-- Reads type parameters, parameters and the result type of a function. -/
def signature (g : Grammar) : Reader (List Tree) := do
  let types ← optionalTypeParameters g
  let params ← parameters g
  let result ← optionalResult g
  return types ++ params ++ result

/-! ### Members of object types -/

/-- Reads what follows the brackets of an index signature: an optional mark with a sign, and the
annotation. -/
def indexAnnotation (g : Grammar) : Reader (List Tree) := do
  match ← ahead with
  | '-' :: '?' :: _ => pass 2
  | '+' :: '?' :: _ => pass 2
  | '?' :: _ => pass 1
  | _ => pure ()
  optionalAnnotation g

/-- Reads an index signature or a mapped type. -/
def indexSignature (g : Grammar) : Reader Tree := do
  match ← ahead with
  | '-' :: _ => pass 1
  | '+' :: _ => pass 1
  | _ => pure ()
  let _ ← optionalKeyword "readonly"
  mark '['
  let _ ← word
  if ← optionalMark ':' then
    let key ← g .type
    mark ']'
    let value ← indexAnnotation g
    return .other (key :: value)
  else
    keyword "in"
    let key ← g .type
    let renamed ← do
      if ← optionalKeyword "as" then
        let t ← g .type
        pure [t]
      else pure []
    mark ']'
    let value ← indexAnnotation g
    return .other (key :: renamed ++ value)

/-- Words that may stand in front of a member. -/
def memberModifiers : List String :=
  ["public", "private", "protected", "static", "override", "readonly", "abstract", "declare",
    "accessor", "async", "get", "set"]

/-- Skips words in front of a member: a word counts as a modifier if the name of a member or a star
follows it. -/
def skipMemberModifiers (modifiers : List String) : Nat → Reader Unit
  | 0 => return
  | n + 1 => do
    if modifiers.contains (← nextWord) then
      let saved ← here
      let _ ← word
      let cs ← ahead
      if startsMemberName cs || cs.head? == some '*' then skipMemberModifiers modifiers n
      else back saved
    else return

/-- Reads one member of an object type. -/
def typeMember (g : Grammar) : Reader Tree := do
  match ← attempt (indexSignature g) with
  | some t => return t
  | none =>
    match ← ahead with
    | '(' :: _ => return .other (← signature g)
    | '<' :: _ => return .other (← signature g)
    | _ =>
      let constructs ← attempt do
        let _ ← optionalKeyword "abstract"
        keyword "new"
        match ← ahead with
        | '(' :: _ => signature g
        | '<' :: _ => signature g
        | _ => fail
      match constructs with
      | some ts => return .other ts
      | none =>
        skipMemberModifiers memberModifiers 6
        let _ ← optionalOperator "*"
        let name ← memberName g
        let _ ← optionalMark '?'
        match ← ahead with
        | '(' :: _ => return .other (name.tree :: (← signature g))
        | '<' :: _ => return .other (name.tree :: (← signature g))
        | _ => return .other (name.tree :: (← optionalAnnotation g))

/-- Reads the separator between two members of an object type. -/
def memberEnd : Reader Unit := do
  if ← optionalMark ',' then return
  else statementEnd false

/-- Reads the members of an object type up to the closing brace. -/
def typeMembers (g : Grammar) : Nat → Reader (List Tree)
  | 0 => fail
  | n + 1 => do
    if ← optionalMark '\x7d' then return []
    else
      let t ← typeMember g
      memberEnd
      let ts ← typeMembers g n
      return t :: ts

/-- Reads an object type. -/
def objectType (g : Grammar) : Reader Tree := do
  mark '\x7b'
  unless ← optionalMark ',' do
    let _ ← optionalMark ';'
  let c ← here
  return .other (← typeMembers g (c.remaining + 1))

/-! ### Types -/

/-- Reads one item of a tuple type. -/
def tupleItem (g : Grammar) : Reader Tree := do
  let _ ← optionalOperator "..."
  let named ← attempt do
    let _ ← word
    let _ ← optionalMark '?'
    mark ':'
  let _ := named
  let t ← g .type
  let _ ← optionalMark '?'
  return t

/-- Reads a query of the type of something: a name with points, or an import. -/
def typeQuery (g : Grammar) : Reader Tree := do
  let base ← do
    if (← nextWord) == "import" then
      pass 6
      let args ← arguments g
      pure (Tree.other args)
    else
      let w ← word
      pure (Tree.identifier w.text)
  let c ← here
  let t ← dottedRest base c.remaining
  let types ← optionalTypeArguments g
  return .other (t :: types)

/-- Reads a function type: parameters, an arrow and the type of the result. -/
def functionType (g : Grammar) : Reader Tree := do
  let head ← attempt do
    let types ← optionalTypeParameters g
    let params ← parameters g
    operator "=>"
    return types ++ params
  match head with
  | some ts =>
    let result ← resultType g
    return .other (ts ++ result)
  | none => fail

/-- Reads the name of a type, with points and type arguments. -/
def namedType (g : Grammar) : Reader Tree := do
  let _ ← word
  let c ← here
  let _ ← dottedRest (.other []) c.remaining
  let c ← here
  if c.freshLine then return .other []
  else
    match ← attempt (optionalTypeArguments g) with
    | some ts => return .other ts
    | none => return .other []

/-- Reads a type that begins with a word. -/
def wordType (g : Grammar) : Reader Tree := do
  let saved ← here
  let w := (← word).text
  let cs ← ahead
  let startsType := startsWord cs || startsQuoted cs ||
    match cs with
    | '(' :: _ => true
    | '\x7b' :: _ => true
    | '[' :: _ => true
    | '<' :: _ => true
    | '\x60' :: _ => true
    | _ => false
  if (w == "keyof" || w == "readonly" || w == "unique") && startsType then g .type
  else if w == "infer" && startsWord cs then
    let _ ← word
    let bound ← attempt do
      keyword "extends"
      let t ← g .type
      guard !(← atMark '?')
      return t
    return .other bound.toList
  else if w == "typeof" then typeQuery g
  else if w == "import" then
    let args ← arguments g
    let c ← here
    let _ ← dottedRest (.other []) c.remaining
    let types ← optionalTypeArguments g
    return .other (args ++ types)
  else if w == "new" && startsType then functionType g
  else if w == "abstract" && startsWord cs then
    keyword "new"
    functionType g
  else
    back saved
    namedType g

/-- Reads a type without operators. -/
def simpleType (g : Grammar) : Reader Tree := do
  let cs ← ahead
  if startsWord cs then wordType g
  else if startsQuoted cs then
    let _ ← quoted
    return .other []
  else if startsNumber cs then
    let _ ← number
    return .other []
  else
    match cs with
    | '-' :: _ =>
      pass 1
      let _ ← number
      return .other []
    | '\x60' :: _ => return .other (← template (g .type))
    | '\x7b' :: _ => objectType g
    | '[' :: _ =>
      mark '['
      return .other (← items (tupleItem g) ']')
    | '<' :: _ => functionType g
    | '(' :: _ =>
      match ← attempt (functionType g) with
      | some t => return t
      | none =>
        mark '('
        let t ← g .type
        mark ')'
        return t
    | '?' :: _ =>
      pass 1
      g .type
    | '*' :: _ =>
      pass 1
      return .other []
    | _ => fail

/-- Reads brackets behind a type: a list of it, or one of its members. -/
def typeSuffixes (g : Grammar) (t : Tree) : Nat → Reader Tree
  | 0 => return t
  | n + 1 => do
    let c ← here
    if c.freshLine || !(← atMark '[') then return t
    else
      mark '['
      if ← optionalMark ']' then typeSuffixes g (.other [t]) n
      else
        let key ← g .type
        mark ']'
        typeSuffixes g (.other [t, key]) n

/-- Reads a type without unions. -/
def suffixedType (g : Grammar) : Reader Tree := do
  let t ← simpleType g
  let c ← here
  typeSuffixes g t c.remaining

/-- Reads the further members of a union or an intersection. -/
def unionRest (g : Grammar) : Reader (List Tree) :=
  many do
    let op ← nextOperator
    guard (op == "|" || op == "&")
    pass 1
    suffixedType g

/-- Reads a type. -/
def typeExpression (g : Grammar) : Reader Tree := do
  let op ← nextOperator
  if op == "|" || op == "&" then pass 1
  let t ← suffixedType g
  let ts ← unionRest g
  let c ← here
  let conditional ← do
    if c.freshLine then pure none
    else
      attempt do
        keyword "extends"
        let bound ← g .type
        mark '?'
        return bound
  match conditional with
  | some bound =>
    let yes ← g .type
    mark ':'
    let no ← g .type
    return .other (t :: ts ++ [bound, yes, no])
  | none =>
    if ts.isEmpty then return t else return .other (t :: ts)

end RouteAtlas.Script
