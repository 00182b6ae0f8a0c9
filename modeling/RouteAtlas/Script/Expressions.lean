import RouteAtlas.Script.Functions
import RouteAtlas.Script.Markup

/-!
# Expressions

Operands with their prefixes and suffixes, and chains of binary operators, which are kept flat
because nothing in the library depends on their precedence. A parenthesis is read as an expression
first; if an arrow follows, or if that fails, it is read as the head of a function.
-/

namespace RouteAtlas.Script

open Reader

/-- An operand, and whether something can be assigned to it. -/
structure Operand where
  /-- The operand. -/
  tree : Tree
  /-- Whether it may stand on the left of an assignment. -/
  assignable : Bool

/-! ### Primary expressions -/

/-- Reads an expression in parentheses. -/
def parenthesized (g : Grammar) : Reader Tree := do
  mark '('
  let t ← g (.expression .inner)
  if ← atMark ':' then
    let types ← optionalAnnotation g
    mark ')'
    return .other (t :: types)
  else
    let ts ← moreItems (g (.expression .inner))
    mark ')'
    return .other (t :: ts)

/-- Reads a function with an arrow whose head has been tried before. -/
def arrow (g : Grammar) (mode : Mode) : Reader Operand := do
  let head ← arrowHead g
  let body ← arrowBody g mode
  return ⟨.function (head ++ [body]), false⟩

/-- Reads what begins with a parenthesis: an expression, or a function with an arrow. -/
def parenthesis (g : Grammar) (mode : Mode) : Reader Operand := do
  let saved ← here
  match ← attempt (parenthesized g) with
  | none => arrow g mode
  | some t =>
    let cs ← ahead
    if operatorAhead cs == "=>" then
      back saved
      arrow g mode
    else if cs.head? == some ':' && mode.typedArrows then
      let after ← here
      back saved
      match ← attempt (arrowHead g) with
      | some head =>
        let body ← arrowBody g mode
        return ⟨.function (head ++ [body]), false⟩
      | none =>
        back after
        return ⟨t, true⟩
    else return ⟨t, true⟩

/-- Reads what begins with an angle bracket: a function with type parameters, or an element. -/
def angle (g : Grammar) (mode : Mode) : Reader Operand := do
  match ← attempt (arrowHead g) with
  | some head =>
    let body ← arrowBody g mode
    return ⟨.function (head ++ [body]), false⟩
  | none =>
    let t ← g .element
    skipTrivia
    return ⟨t, false⟩

/-- Reads an object or a list literal, or a pattern that is assigned to. -/
def literalOrTarget (g : Grammar) (literal : Reader Tree) : Reader Operand := do
  match ← attempt literal with
  | some t => return ⟨t, true⟩
  | none =>
    let t ← g .pattern
    guard (operatorAhead (← ahead) == "=")
    return ⟨t, true⟩

/-- Reads what begins with the word `async`: a function, or a name. -/
def asyncOperand (g : Grammar) (mode : Mode) : Reader Operand := do
  keyword "async"
  if ← optionalKeyword "function" then
    let f ← functionRest g
    return ⟨f.tree, false⟩
  else
    let single ← attempt do
      let w ← word
      operator "=>"
      return w
    match single with
    | some w =>
      let body ← arrowBody g mode
      return ⟨.function [.identifier w.text, body], false⟩
    | none =>
      let head ← attempt do
        guard (startsSignature (← ahead))
        arrowHead g
      match head with
      | some head =>
        let body ← arrowBody g mode
        return ⟨.function (head ++ [body]), false⟩
      | none =>
        if ← optionalOperator "=>" then
          let body ← arrowBody g mode
          return ⟨.function [.identifier "async", body], false⟩
        else return ⟨.identifier "async", true⟩

/-- Reads a name, or a function whose only parameter it is. -/
def nameOrArrow (g : Grammar) (mode : Mode) : Reader Operand := do
  let w ← word
  if ← optionalOperator "=>" then
    let body ← arrowBody g mode
    return ⟨.function [.identifier w.text, body], false⟩
  else if w.text == "undefined" then return ⟨.other [], true⟩
  else return ⟨.identifier w.text, true⟩

/-- Reads what begins with the word `import`. -/
def importOperand : Reader Operand := do
  keyword "import"
  if ← optionalOperator "." then
    let _ ← word
    return ⟨.other [], false⟩
  else
    guard (← atMark '(')
    return ⟨.other [], false⟩

/-- Reads what begins with a decorator: a class. -/
def decoratedClass (g : Grammar) : Reader Tree := do
  let before ← decorators g
  keyword "class"
  let t ← classRest g
  return .other (before ++ [t])

/-- Reads a primary expression, apart from object creation. -/
def primary (g : Grammar) (mode : Mode) : Reader Operand := do
  let cs ← ahead
  if startsWord cs then
    let w := wordAhead cs
    if w == "function" then
      keyword "function"
      let f ← functionRest g
      return ⟨f.tree, false⟩
    else if w == "async" then asyncOperand g mode
    else if w == "class" then
      keyword "class"
      let t ← classRest g
      return ⟨t, false⟩
    else if w == "this" || w == "super" || w == "null" then
      let _ ← word
      return ⟨.other [], false⟩
    else if w == "true" || w == "false" then
      let _ ← word
      return ⟨.truth, false⟩
    else if w == "import" then importOperand
    else nameOrArrow g mode
  else if startsQuoted cs then
    let s ← quoted
    return ⟨.text s, false⟩
  else if startsNumber cs then
    let n ← number
    return ⟨.number n, false⟩
  else
    match cs with
    | '(' :: _ => parenthesis g mode
    | '[' :: _ => literalOrTarget g (arrayLiteral g)
    | '\x7b' :: _ => literalOrTarget g (objectLiteral g)
    | '\x60' :: _ =>
      let ts ← template (expressions g .inner)
      return ⟨.other ts, false⟩
    | '/' :: _ =>
      regularExpression
      return ⟨.other [], false⟩
    | '<' :: _ => angle g mode
    | '@' :: _ =>
      let t ← decoratedClass g
      return ⟨t, false⟩
    | '#' :: rest =>
      if startsWord rest then
        advance 1
        let _ ← word
        guard ((← nextWord) == "in")
        return ⟨.other [], false⟩
      else fail
    | _ => fail

/-! ### Object creation -/

/-- Reads the accesses behind the constructor of an object creation. -/
def constructorRest (g : Grammar) (t : Tree) : Nat → Reader Tree
  | 0 => return t
  | n + 1 => do
    match ← ahead with
    | '.' :: '.' :: _ => return t
    | '.' :: _ =>
      pass 1
      let name ← memberName g
      constructorRest g (.member t name.word) n
    | '[' :: _ =>
      mark '['
      let key ← expressions g .inner
      mark ']'
      constructorRest g (.other [t, key]) n
    | '\x60' :: _ =>
      let c ← here
      let ts ← template (expressions g .inner)
      constructorRest g (.call c.row t [] ts) n
    | '!' :: cs =>
      if cs.head? == some '=' then return t
      else
        pass 1
        constructorRest g (.other [t]) n
    | _ => return t

/-- Reads the creation of an object. -/
def creationUpTo (g : Grammar) (mode : Mode) : Nat → Reader Operand
  | 0 => fail
  | n + 1 => do
    keyword "new"
    if ← optionalOperator "." then
      let _ ← word
      return ⟨.other [], false⟩
    else
      let base ← if (← nextWord) == "new" then creationUpTo g mode n else primary g .inner
      let c ← here
      let callee ← constructorRest g base.tree c.remaining
      let types ← attempt do
        guard (operatorAhead (← ahead) == "<")
        let ts ← typeArguments g
        return ts
      let args ← if ← atMark '(' then arguments g else pure []
      return ⟨.other (callee :: types.getD [] ++ args), false⟩

/-- Reads the creation of an object, or the word for it used as a name. -/
def creation (g : Grammar) (mode : Mode) : Reader Operand := do
  let c ← here
  match ← attempt (creationUpTo g mode c.remaining) with
  | some t => return t
  | none =>
    keyword "new"
    let c ← here
    guard (mode.enclosed || endsStatement true c || [';', ',', ')', ']'].any (c.rest.head? == some ·))
    return ⟨.identifier "new", true⟩

/-! ### Suffixes -/

/-- Whether an expression can begin where type arguments have ended, so that the angle brackets
were comparisons. -/
def startsOperand (cs : List Char) : Bool :=
  startsWord cs || startsQuoted cs || startsNumber cs ||
    match cs with
    | c :: _ => ['[', '\x7b', '<', '/', '+', '-', '!', '~', '#', '@'].contains c
    | [] => false

/-- Reads type arguments behind an operand, if this reading makes sense: a call follows, or
nothing that could be the right side of a comparison. -/
def callTypes (g : Grammar) : Reader (List Tree) := do
  let ts ← typeArguments g
  let c ← here
  guard (c.freshLine || !startsOperand c.rest)
  guard (c.rest.head? != some '\x60')
  return ts

/-- Reads the suffixes of an operand: accesses, calls, assertions and increments. -/
def suffixes (g : Grammar) (mode : Mode) (row : Nat) (t : Operand) : Nat → Reader Operand
  | 0 => return t
  | n + 1 => do
    let c ← here
    if !mode.enclosed && endsStatement true c then return t
    else
      match c.rest with
      | '.' :: '.' :: _ => return t
      | '.' :: _ =>
        pass 1
        match ← ahead with
        | '[' :: _ => fail
        | cs =>
          if startsWord cs || cs.head? == some '#' then
            let name ← memberName g
            suffixes g mode row ⟨.member t.tree name.word, true⟩ n
          else fail
      | '?' :: '.' :: _ =>
        pass 2
        match ← ahead with
        | '(' :: _ =>
          let args ← arguments g
          suffixes g mode row ⟨.call row t.tree [] args, false⟩ n
        | '<' :: _ =>
          let types ← typeArguments g
          let args ← arguments g
          suffixes g mode row ⟨.call row t.tree types args, false⟩ n
        | '[' :: _ =>
          mark '['
          let key ← expressions g .inner
          mark ']'
          suffixes g mode row ⟨.other [t.tree, key], true⟩ n
        | cs =>
          if startsWord cs || cs.head? == some '#' then
            let name ← memberName g
            suffixes g mode row ⟨.member t.tree name.word, true⟩ n
          else fail
      | '[' :: _ =>
        mark '['
        let key ← expressions g .inner
        mark ']'
        suffixes g mode row ⟨.other [t.tree, key], true⟩ n
      | '(' :: _ =>
        let args ← arguments g
        suffixes g mode row ⟨.call row t.tree [] args, false⟩ n
      | '\x60' :: _ =>
        let ts ← template (expressions g .inner)
        suffixes g mode row ⟨.call row t.tree [] ts, false⟩ n
      | '!' :: cs =>
        if cs.head? == some '=' then return t
        else
          pass 1
          suffixes g mode row ⟨.other [t.tree], true⟩ n
      | '+' :: '+' :: _ =>
        pass 2
        return ⟨.other [t.tree], false⟩
      | '-' :: '-' :: _ =>
        pass 2
        return ⟨.other [t.tree], false⟩
      | '<' :: _ =>
        if operatorAhead c.rest == "<" then
          match ← attempt (callTypes g) with
          | some types =>
            if ← atMark '(' then
              let args ← arguments g
              suffixes g mode row ⟨.call row t.tree types args, false⟩ n
            else suffixes g mode row ⟨.other (t.tree :: types), false⟩ n
          | none => return t
        else return t
      | _ => return t

/-- Reads an operand with its suffixes. -/
def suffixed (g : Grammar) (mode : Mode) : Reader Operand := do
  let start ← here
  let base ← if wordAhead start.rest == "new" then creation g mode else primary g mode
  let c ← here
  suffixes g mode start.row base (c.remaining + 1)

/-! ### Prefixes and assignments -/

/-- The operators that change a variable by means of its old value. -/
def updatingOperators : List String :=
  ["+=", "-=", "*=", "/=", "%=", "^=", "&=", "|=", ">>=", ">>>=", "<<=", "**=", "&&=", "||=", "??="]

/-- Words that are prefixes of an operand. -/
def prefixWords : List String := ["typeof", "void", "delete", "await"]

/-- Reads the rest of a `yield`: a star, an operand, or nothing. -/
def yielded (g : Grammar) (mode : Mode) : Reader Tree := do
  keyword "yield"
  if ← optionalOperator "*" then
    let t ← g (.expression mode)
    return .other [t]
  else
    let c ← here
    if !mode.enclosed && endsStatement false c then return .other []
    else
      match ← attempt (g (.expression mode)) with
      | some t => return .other [t]
      | none => return .other []

/-- Reads an operand with its prefixes, or an assignment to it. -/
def operand (g : Grammar) (mode : Mode) : Reader Tree := do
  let cs ← ahead
  let w := wordAhead cs
  if prefixWords.contains w then
    let _ ← word
    let t ← g (.operand mode)
    return .other [t]
  else if w == "yield" then yielded g mode
  else
    let op := operatorAhead cs
    if ["!", "~", "+", "-", "++", "--"].contains op then
      pass op.length
      let t ← g (.operand mode)
      return .other [t]
    else
      let t ← suffixed g mode
      let c ← here
      if !t.assignable || (!mode.enclosed && endsStatement true c) then return t.tree
      else
        let op := operatorAhead c.rest
        if op == "=" || updatingOperators.contains op then
          pass op.length
          let value ← g (.expression mode)
          return .other [t.tree, value]
        else return t.tree

/-! ### Binary operators -/

/-- The binary operators that are not words. -/
def binaryOperators : List String :=
  ["&&", "||", ">>", ">>>", "<<", "&", "^", "|", "+", "-", "*", "/", "%", "**", "<", "<=", "==",
    "===", "!=", "!==", ">=", ">", "??"]

/-- Whether a question mark begins a choice: another question mark, a point or, behind blanks, the
end of a parameter may not follow. -/
def startsChoice (cs : List Char) : Bool :=
  match cs with
  | '?' :: rest =>
    match rest with
    | '?' :: _ => false
    | '.' :: _ => false
    | _ =>
      match rest.dropWhile isSpace with
      | c :: _ => !(c == ':' || c == ')' || c == ',')
      | [] => true
  | _ => false

/-- Reads the two branches of a choice. If the first branch took its colon for the annotation of a
function, it is read again without such annotations. -/
def choice (g : Grammar) (mode : Mode) : Reader (List Tree) := do
  pass 1
  let saved ← here
  let first ← g (.expression .inner)
  let yes ← do
    if ← atMark ':' then pure first
    else
      back saved
      g (.expression ⟨true, false⟩)
  mark ':'
  let no ← g (.expression mode)
  return [yes, no]

/-- Reads the rest of an expression after its first operand, and collects the operands. -/
def expressionRest (g : Grammar) (mode : Mode) : Nat → Reader (List Tree)
  | 0 => return []
  | n + 1 => do
    let c ← here
    if !mode.enclosed && endsStatement true c then return []
    else
      let op := operatorAhead c.rest
      if binaryOperators.contains op then
        pass op.length
        let t ← g (.operand mode)
        return t :: (← expressionRest g mode n)
      else if startsChoice c.rest then choice g mode
      else
        let w := wordAhead c.rest
        if w == "in" || w == "instanceof" then
          let _ ← word
          let t ← g (.operand mode)
          return t :: (← expressionRest g mode n)
        else if w == "as" || w == "satisfies" then
          let _ ← word
          let t ← g .type
          return t :: (← expressionRest g mode n)
        else return []

/-- Reads an expression without commas. -/
def expression (g : Grammar) (mode : Mode) : Reader Tree := do
  let t ← g (.operand mode)
  let c ← here
  let ts ← expressionRest g mode (c.remaining + 1)
  if ts.isEmpty then return t else return .other (t :: ts)

end RouteAtlas.Script
