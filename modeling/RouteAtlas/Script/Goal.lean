import RouteAtlas.Script.Lexical

/-!
# The parts of the grammar

The grammar is recursive: expressions hold functions, functions hold statements, statements hold
expressions. Each production is an ordinary function that takes a `Grammar`, a reader for every
`Goal`, as an argument and uses it wherever the grammar refers to itself. This module has the
goals and the productions that everything else is built from.
-/

namespace RouteAtlas.Script

/-- Where an expression stands. -/
structure Mode where
  /-- It is enclosed in brackets, so that a line end cannot end it. -/
  enclosed : Bool
  /-- A colon behind a parenthesis may begin the result type of a function. -/
  typedArrows : Bool

/-- The mode of an expression in brackets. -/
def Mode.inner : Mode := ⟨true, true⟩

/-- The mode of an expression that a line end may end. -/
def Mode.outer : Mode := ⟨false, true⟩

/-- What can be asked of the grammar. -/
inductive Goal
  /-- An expression without commas. -/
  | expression (mode : Mode)
  /-- An expression without binary operators. -/
  | operand (mode : Mode)
  /-- A type. -/
  | type
  /-- What a declaration or a parameter binds. -/
  | pattern
  /-- A statement. -/
  | statement
  /-- An element written in tags. -/
  | element

/-- A reader for every goal. -/
abbrev Grammar := Goal → Reader Tree

open Reader

/-! ### Lists -/

/-- Reads items with commas between them, at most a given number; items may be left out. -/
def looseItemsUpTo (item : Reader Tree) (closing : Char) : Nat → Reader (List Tree)
  | 0 => fail
  | n + 1 => do
    if ← optionalMark closing then return []
    else if ← optionalMark ',' then looseItemsUpTo item closing n
    else
      let t ← item
      if ← optionalMark closing then return [t]
      else
        mark ','
        let ts ← looseItemsUpTo item closing n
        return t :: ts

/-- Reads items with commas between them up to a closing bracket; items may be left out. -/
def looseItems (item : Reader Tree) (closing : Char) : Reader (List Tree) := do
  let c ← here
  looseItemsUpTo item closing (c.remaining + 1)

/-- Reads items with commas between them up to a closing bracket, which a comma may precede. -/
def itemsUpTo (item : Reader Tree) (closing : Char) : Nat → Reader (List Tree)
  | 0 => fail
  | n + 1 => do
    if ← optionalMark closing then return []
    else
      let t ← item
      if ← optionalMark closing then return [t]
      else
        mark ','
        let ts ← itemsUpTo item closing n
        return t :: ts

/-- Reads items with commas between them up to a closing bracket. -/
def items (item : Reader Tree) (closing : Char) : Reader (List Tree) := do
  let c ← here
  itemsUpTo item closing (c.remaining + 1)

/-- Reads further items, each after a comma. -/
def moreItems (item : Reader Tree) : Reader (List Tree) :=
  many do
    mark ','
    item

/-- Reads one or more items with commas between them. -/
def commaItems (item : Reader Tree) : Reader (List Tree) := do
  let t ← item
  let ts ← moreItems item
  return t :: ts

/-! ### Expressions in brackets -/

/-- Reads one or more expressions with commas between them. -/
def expressions (g : Grammar) (mode : Mode) : Reader Tree := do
  let t ← g (.expression mode)
  if ← atMark ',' then
    let ts ← moreItems (g (.expression mode))
    return .other (t :: ts)
  else return t

/-- Reads an expression or, after three points, an expression whose items are spread. -/
def spreadable (g : Grammar) : Reader Tree := do
  if ← optionalOperator "..." then
    let t ← g (.expression .inner)
    return .other [t]
  else g (.expression .inner)

/-- Reads the arguments of a call. -/
def arguments (g : Grammar) : Reader (List Tree) := do
  mark '('
  looseItems (spreadable g) ')'

/-- Reads statements in braces. -/
def block (g : Grammar) : Reader Tree := do
  mark '\x7b'
  let ts ← many do
    guard !(← atMark '\x7d')
    g .statement
  mark '\x7d'
  return .other ts

/-! ### Templates -/

/-- The length of literal characters of a template. -/
def templateTextLength : List Char → Nat
  | [] => 0
  | '$' :: '\x7b' :: _ => 0
  | c :: cs => if c == '\x60' || c == '\\' then 0 else templateTextLength cs + 1

/-- Reads the fragments of a template up to its end; `hole` reads what stands between braces. -/
def templateRest (hole : Reader Tree) : Nat → Reader (List Tree)
  | 0 => fail
  | n + 1 => do
    match ← ahead with
    | '\x60' :: _ =>
      pass 1
      return []
    | '$' :: '\x7b' :: _ =>
      advance 2
      skipTrivia
      let t ← hole
      guard (← atMark '\x7d')
      advance 1
      let ts ← templateRest hole n
      return .other [t] :: ts
    | '\\' :: cs =>
      let k := escapeLength ('\\' :: cs)
      if k == 0 then fail
      else
        advance k
        let ts ← templateRest hole n
        return .other [] :: ts
    | cs =>
      let k := templateTextLength cs
      if k == 0 then fail
      else
        advance k
        let ts ← templateRest hole n
        return .other [] :: ts

/-- Reads a template: its fragments and the expressions between them. -/
def template (hole : Reader Tree) : Reader (List Tree) := do
  guard (← atMark '\x60')
  advance 1
  let c ← here
  templateRest hole (c.remaining + 1)

/-! ### Names of members -/

/-- The name of a member: plain words are told apart from other names. -/
structure MemberName where
  /-- The word, if the name is a plain word. -/
  word : Option Word
  /-- The name as a tree. -/
  tree : Tree

/-- Whether a text begins with the name of a member. -/
def startsMemberName (cs : List Char) : Bool :=
  startsWord cs || startsQuoted cs || startsNumber cs ||
    match cs with
    | '[' :: _ => true
    | '#' :: cs => startsWord cs
    | _ => false

/-- Reads the name of a member: a word, a private name, a text, a number or an expression in
brackets. -/
def memberName (g : Grammar) : Reader MemberName := do
  let cs ← ahead
  if startsWord cs then
    let w ← word
    return ⟨some w, .other []⟩
  else if startsQuoted cs then
    let s ← quoted
    return ⟨none, .text s⟩
  else if startsNumber cs then
    let n ← number
    return ⟨none, .number n⟩
  else
    match cs with
    | '#' :: rest =>
      if startsWord rest then
        advance 1
        let _ ← word
        return ⟨none, .other []⟩
      else fail
    | '[' :: _ =>
      mark '['
      let t ← g (.expression .inner)
      mark ']'
      return ⟨none, .other [t]⟩
    | _ => fail

end RouteAtlas.Script
