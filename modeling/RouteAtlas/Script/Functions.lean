import RouteAtlas.Script.Types

/-!
# Functions and classes

Functions with their parameters and bodies, methods, object literals and the members of classes.
-/

namespace RouteAtlas.Script

open Reader

/-! ### Functions -/

/-- Whether a function is a generator, and its parts. -/
structure FunctionParts where
  /-- Whether it is a generator. -/
  generator : Bool
  /-- Signature and body. -/
  parts : List Tree

/-- The tree of a function written as an expression. -/
def FunctionParts.tree (f : FunctionParts) : Tree :=
  if f.generator then .other f.parts else .function f.parts

/-- Reads a function after its keyword. -/
def functionRest (g : Grammar) : Reader FunctionParts := do
  let star ← optionalOperator "*"
  if startsWord (← ahead) then
    let _ ← word
  let head ← signature g
  let body ← block g
  return ⟨star, head ++ [body]⟩

/-- Reads the body of a function behind its arrow. -/
def arrowBody (g : Grammar) (mode : Mode) : Reader Tree := do
  if ← atMark '\x7b' then block g else g (.expression mode)

/-- Reads the head of a function with an arrow, from the type parameters up to the arrow. -/
def arrowHead (g : Grammar) : Reader (List Tree) := do
  let head ← signature g
  operator "=>"
  return head

/-! ### Object literals -/

/-- Reads the rest of a method after its name. -/
def methodRest (g : Grammar) (name : MemberName) : Reader Tree := do
  let _ ← optionalMark '?'
  let head ← signature g
  let body ← block g
  return .other (name.tree :: head ++ [body])

/-- Whether a text goes on with a signature. -/
def startsSignature : List Char → Bool
  | '(' :: _ => true
  | '<' :: _ => true
  | _ => false

/-- Reads one entry of an object literal. -/
def objectEntry (g : Grammar) : Reader Tree := do
  if ← optionalOperator "..." then
    let t ← g (.expression .inner)
    return .other [t]
  else
    let saved ← here
    skipMemberModifiers memberModifiers 6
    let passed ← here
    let star ← optionalOperator "*"
    let modified := passed.remaining < saved.remaining || star
    let name ← memberName g
    let cs ← ahead
    if startsSignature cs || (cs.head? == some '?' && startsSignature (cs.drop 1)) then
      methodRest g name
    else if modified then fail
    else if ← optionalMark ':' then
      let value ← g (.expression .inner)
      return .pair name.word name.tree value
    else
      match name.word with
      | some w => return .shorthand w
      | none => fail

/-- Reads an object literal. -/
def objectLiteral (g : Grammar) : Reader Tree := do
  mark '\x7b'
  let entries ← looseItems (objectEntry g) '\x7d'
  return .object entries

/-- Reads a list literal. -/
def arrayLiteral (g : Grammar) : Reader Tree := do
  mark '['
  let ts ← looseItems (spreadable g) ']'
  return .array ts

/-! ### Classes -/

/-- Reads an initial value if it is there. -/
def optionalInitializer (g : Grammar) : Reader (Option Tree) := do
  if ← optionalOperator "=" then
    let t ← g (.expression .outer)
    return some t
  else return none

/-- Reads the end of a member of a class. -/
def classMemberEnd (inExpression : Bool) : Reader Unit := do
  if ← optionalMark ',' then return
  else statementEnd inExpression

/-- Reads a field or a method of a class, after its modifiers. -/
def fieldOrMethod (g : Grammar) : Reader Tree := do
  let _ ← optionalOperator "*"
  let name ← memberName g
  match ← ahead with
  | '?' :: _ => pass 1
  | '!' :: _ => pass 1
  | _ => pure ()
  if startsSignature (← ahead) then
    let head ← signature g
    if ← atMark '\x7b' then
      let body ← block g
      let _ ← optionalMark ';'
      return .other (name.tree :: head ++ [body])
    else
      classMemberEnd false
      return .other (name.tree :: head)
  else
    let types ← optionalAnnotation g
    let value ← optionalInitializer g
    classMemberEnd value.isSome
    return .other (name.tree :: types ++ value.toList)

/-- Reads one member of a class. -/
def classMember (g : Grammar) : Reader Tree := do
  match ← ahead with
  | '@' :: _ => decorator g
  | ';' :: _ =>
    pass 1
    return .other []
  | _ =>
    let initializer ← attempt do
      keyword "static"
      guard (← atMark '\x7b')
    match initializer with
    | some _ => block g
    | none =>
      let index ← attempt do
        skipMemberModifiers memberModifiers 6
        let t ← indexSignature g
        classMemberEnd false
        return t
      match index with
      | some t => return t
      | none =>
        skipMemberModifiers memberModifiers 6
        fieldOrMethod g

/-- Reads the body of a class. -/
def classBody (g : Grammar) : Reader Tree := do
  mark '\x7b'
  let ts ← many do
    guard !(← atMark '\x7d')
    classMember g
  mark '\x7d'
  return .other ts

/-- Reads the base class. -/
def baseClass (g : Grammar) : Reader (List Tree) := do
  if ← optionalKeyword "extends" then
    let t ← g (.operand .inner)
    let types ← optionalTypeArguments g
    return t :: types
  else return []

/-- Reads the implemented interfaces. -/
def implemented (g : Grammar) : Reader (List Tree) := do
  if ← optionalKeyword "implements" then commaItems (g .type)
  else return []

/-- Reads a class after its keyword. -/
def classRest (g : Grammar) : Reader Tree := do
  let w ← nextWord
  if w != "" && w != "extends" && w != "implements" then
    let _ ← word
  let types ← optionalTypeParameters g
  let base ← baseClass g
  let interfaces ← implemented g
  let body ← classBody g
  return .other (types ++ base ++ interfaces ++ [body])

end RouteAtlas.Script
