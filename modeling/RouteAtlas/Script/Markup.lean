import RouteAtlas.Script.Types

/-!
# Elements written in tags

An element is an opening tag with attributes, children and a closing tag, or a tag closed at once.
Children are texts, character references, elements and expressions in braces. A tag name with
points counts as a member access.
-/

namespace RouteAtlas.Script

open Reader

/-- The length of a character reference, zero if there is none. -/
def referenceLength : List Char → Nat
  | '&' :: '#' :: x :: cs =>
    if x == 'x' || x == 'X' then
      let n := (cs.takeWhile fun c => (Text.hexDigit? c).isSome).length
      if 1 ≤ n && n ≤ 6 && (cs.drop n).head? == some ';' then n + 4 else 0
    else
      let n := ((x :: cs).takeWhile Char.isDigit).length
      if 1 ≤ n && n ≤ 5 && ((x :: cs).drop n).head? == some ';' then n + 3 else 0
  | '&' :: cs =>
    let n := (cs.takeWhile Char.isAlpha).length
    if 1 ≤ n && n ≤ 30 && (cs.drop n).head? == some ';' then n + 2 else 0
  | _ => 0

/-- The length of the inside of a quoted attribute, `none` if it is not closed. Such a text may go
over several lines; an ampersand in front of a letter has to begin a character reference. -/
def attributeLength? (mark : Char) : Nat → List Char → Option Nat
  | 0, _ => none
  | _, [] => none
  | fuel + 1, c :: cs =>
    if c == mark then some 0
    else if c == '&' then
      let n := referenceLength (c :: cs)
      if n == 0 then
        match cs with
        | d :: _ =>
          if d.isAlpha || d == '#' then none else (attributeLength? mark fuel cs).map (1 + ·)
        | [] => none
      else (attributeLength? mark fuel ((c :: cs).drop n)).map (n + ·)
    else (attributeLength? mark fuel cs).map (1 + ·)

/-- Reads a quoted attribute. -/
def quotedAttribute : Reader Tree := do
  match ← ahead with
  | c :: cs =>
    if c == '\'' || c == '"' then
      match attributeLength? c (cs.length + 1) cs with
      | some n =>
        pass (n + 2)
        return .text (String.ofList (cs.take n))
      | none => fail
    else fail
  | [] => fail

/-- A character inside the name of a tag or an attribute. -/
def isTagPart (c : Char) : Bool := isWordPart c || c == '-'

/-- Reads the name of a tag or an attribute, which may hold hyphens. -/
def tagWord : Reader String := do
  let cs ← ahead
  if startsWord cs then
    let w := cs.takeWhile isTagPart
    if w.isEmpty then fail
    else
      pass w.length
      return String.ofList w
  else fail

/-- Reads the name of a tag. -/
def tagName : Reader Tree := do
  let w ← tagWord
  if ← optionalMark ':' then
    let _ ← tagWord
    return .other []
  else
    let c ← here
    dottedRest (.identifier w) c.remaining

/-- Reads what stands between braces inside an element; the last brace is left. -/
def braced (g : Grammar) : Reader Tree := do
  mark '\x7b'
  if ← atMark '\x7d' then return .other []
  else if ← optionalOperator "..." then
    let t ← g (.expression .inner)
    return .other [t]
  else
    let t ← expressions g .inner
    return .other [t]

/-- Reads one attribute of a tag. -/
def tagAttribute (g : Grammar) : Reader Tree := do
  if ← atMark '\x7b' then
    let t ← braced g
    mark '\x7d'
    return t
  else
    let _ ← tagWord
    if ← optionalMark ':' then
      let _ ← tagWord
    if ← optionalMark '=' then
      match ← ahead with
      | '\x7b' :: _ =>
        let t ← braced g
        mark '\x7d'
        return .other [t]
      | '<' :: _ =>
        let t ← g .element
        skipTrivia
        return .other [t]
      | _ =>
        let t ← quotedAttribute
        return .other [t]
    else return .other []

/-- The length of literal characters between elements. -/
def markupTextLength : List Char → Nat
  | [] => 0
  | c :: cs =>
    if c == '<' || c == '>' || c == '\x7b' || c == '\x7d' || c == '&' then 0
    else markupTextLength cs + 1

/-- Reads the children of an element up to the closing tag. -/
def children (g : Grammar) : Nat → Reader (List Tree)
  | 0 => fail
  | n + 1 => do
    let cs ← ahead
    let k := markupTextLength cs
    if k != 0 then
      advance k
      children g n
    else
      match cs with
      | '\x7b' :: _ =>
        let t ← braced g
        guard (← atMark '\x7d')
        advance 1
        return t :: (← children g n)
      | '&' :: _ =>
        let k := referenceLength cs
        if k == 0 then fail
        else
          advance k
          children g n
      | '<' :: _ =>
        let closing ← attempt do
          mark '<'
          guard (← atMark '/')
        match closing with
        | some _ => return []
        | none =>
          let t ← g .element
          return t :: (← children g n)
      | _ => fail

/-- Reads an element. What follows its last bracket is left as it is. -/
def element (g : Grammar) : Reader Tree := do
  mark '<'
  let fragment ← atMark '>'
  let name ← if fragment then pure (Tree.other []) else tagName
  let types ← if fragment then pure [] else optionalTypeArguments g
  let attributes ← if fragment then pure [] else many (tagAttribute g)
  match ← ahead with
  | '/' :: _ =>
    pass 1
    guard (← atMark '>')
    advance 1
    return .other (name :: types ++ attributes)
  | '>' :: _ =>
    advance 1
    let c ← here
    let inside ← children g (c.remaining + 1)
    mark '/'
    let closing ← if ← atMark '>' then pure (Tree.other []) else tagName
    guard (← atMark '>')
    advance 1
    return .other (name :: types ++ attributes ++ inside ++ [closing])
  | _ => fail

end RouteAtlas.Script
