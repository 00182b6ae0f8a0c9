import RouteAtlas.Script.Statements

/-!
# Parsing a source text

`grammarOf` ties the productions of the grammar together, with a bound on the depth of recursion
that a text cannot reach; `parse` reads a whole text. A text that cannot be read is at fault on
some line: where reading got stuck furthest or, if that is the very end, where the text begins.
-/

namespace RouteAtlas.Script

open Reader

/-- The grammar, with recursion bounded. -/
def grammarOf : Nat → Grammar
  | 0 => fun _ => fail
  | n + 1 => fun goal =>
    match goal with
    | .expression mode => expression (grammarOf n) mode
    | .operand mode => operand (grammarOf n) mode
    | .type => typeExpression (grammarOf n)
    | .pattern => pattern (grammarOf n)
    | .statement => statement (grammarOf n)
    | .element => element (grammarOf n)

/-- A source text that cannot be read: the line at fault, counted from one. -/
structure SourceError where
  /-- The line. -/
  line : Nat
deriving DecidableEq

/-- The wording of a source error. -/
def SourceError.message (e : SourceError) : String :=
  "syntax error near line " ++ Text.decimal e.line

/-- The row of the first character that is not blank. -/
def firstRow : List Char → Nat
  | [] => 0
  | c :: cs => if c == '\n' then firstRow cs + 1 else if isSpace c then firstRow cs else 0

/-- Skips the line that names the interpreter of a script. -/
def skipInterpreterLine : Reader Unit := do
  match ← ahead with
  | '#' :: '!' :: cs => pass (2 + (cs.takeWhile fun c => c != '\n').length)
  | _ => return

/-- Reads a whole source text. -/
def program (g : Grammar) : Reader Tree := do
  skipTrivia
  skipInterpreterLine
  let ts ← many (g .statement)
  guard (← ahead).isEmpty
  return .other ts

/-- Parses a source text. -/
def parse (source : String) : Except SourceError Tree :=
  let cs := source.toList
  let n := cs.length
  let start : Cursor := ⟨cs, n, 0, false, ⟨n + 1, 0⟩⟩
  match program (grammarOf (4 * n + 16)) start with
  | .done t _ => .ok t
  | .stuck place =>
    .error ⟨(if place.remaining == 0 then firstRow cs else place.row) + 1⟩

end RouteAtlas.Script
