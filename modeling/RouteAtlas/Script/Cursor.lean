import RouteAtlas.Text.Basic

/-!
# Reading a source text

A `Cursor` is a place in a source text. After each token it stands at the next one: blanks and
comments in between have been skipped, and `freshLine` says whether a line end was among them. A
`Reader` moves the cursor or gets stuck; both outcomes remember the furthest place at which any
attempt got stuck, which is where the text is at fault if no reading of it succeeds.
-/

namespace RouteAtlas.Script

/-- A place at which reading got stuck: how much of the text was left, and the row. -/
structure Place where
  /-- The number of characters left. -/
  remaining : Nat
  /-- The row, counted from zero. -/
  row : Nat

/-- The further one of two places. -/
def Place.further (a b : Place) : Place :=
  if b.remaining < a.remaining then b else a

/-- A place in a source text. -/
structure Cursor where
  /-- The characters left. -/
  rest : List Char
  /-- Their number. -/
  remaining : Nat
  /-- The row, counted from zero. -/
  row : Nat
  /-- Whether a line end was skipped since the last token. -/
  freshLine : Bool
  /-- The furthest place at which an attempt got stuck. -/
  furthest : Place

/-! ### Blanks and comments -/

/-- A blank between tokens. -/
def isSpace (c : Char) : Bool :=
  (Text.isBlank c && !(28 ≤ c.toNat && c.toNat ≤ 31)) || c == '\uFEFF' || c == '\u2060' ||
    c == '\u200B'

/-- A character that ends a line comment. -/
def isLineEnd (c : Char) : Bool :=
  c == '\n' || c == '\r' || c == '\u2028' || c == '\u2029'

/-- Moves over one character. -/
def Cursor.step (c : Cursor) : Cursor :=
  match c.rest with
  | [] => c
  | x :: xs =>
    { c with rest := xs, remaining := c.remaining - 1, row := if x == '\n' then c.row + 1 else c.row }

/-- Moves over several characters. -/
def Cursor.advance : Nat → Cursor → Cursor
  | 0, c => c
  | n + 1, c => c.step.advance n

/-- The length of a block comment, counted from after its opening; `none` if it is not closed. -/
def blockCommentLength? : List Char → Nat → Option Nat
  | [], _ => none
  | '*' :: '/' :: _, n => some (n + 2)
  | _ :: cs, n => blockCommentLength? cs (n + 1)

/-- Skips blanks and comments. A line end inside a block comment does not count. -/
def Cursor.skipTrivia : Nat → Cursor → Cursor
  | 0, c => c
  | fuel + 1, c =>
    match c.rest with
    | [] => c
    | '/' :: '/' :: _ =>
      (c.advance (c.rest.takeWhile fun x => !isLineEnd x).length).skipTrivia fuel
    | '/' :: '*' :: cs =>
      match blockCommentLength? cs 2 with
      | some n => (c.advance n).skipTrivia fuel
      | none => c
    | x :: _ =>
      if isSpace x then
        ({ c.step with freshLine := c.freshLine || x == '\n' } : Cursor).skipTrivia fuel
      else c

/-- Moves over the characters of a token and over the blanks and comments behind it. -/
def Cursor.pass (n : Nat) (c : Cursor) : Cursor :=
  let c := { c.advance n with freshLine := false }
  c.skipTrivia c.remaining

/-! ### Readers -/

/-- The outcome of reading. -/
inductive Outcome (α : Type)
  /-- Something was read. -/
  | done (value : α) (rest : Cursor)
  /-- Reading got stuck. -/
  | stuck (furthest : Place)

/-- A reader of a part of a source text. -/
def Reader (α : Type) := Cursor → Outcome α

namespace Reader

variable {α β : Type}

/-- Reads nothing. -/
def value (a : α) : Reader α := fun c => .done a c

/-- Reads one part and then another that may depend on it. -/
def bind (p : Reader α) (f : α → Reader β) : Reader β := fun c =>
  match p c with
  | .done a c => f a c
  | .stuck place => .stuck place

instance : Monad Reader where
  pure := value
  bind := bind

/-- Gets stuck. -/
def fail : Reader α := fun c => .stuck (c.furthest.further ⟨c.remaining, c.row⟩)

/-- Tries one reader, and another one from the same place if the first gets stuck. -/
def orElse (p : Reader α) (q : Unit → Reader α) : Reader α := fun c =>
  match p c with
  | .done a c => .done a c
  | .stuck place => q () { c with furthest := place }

instance : OrElse (Reader α) := ⟨orElse⟩

/-- Tries a reader, and reads nothing if it gets stuck. -/
def attempt (p : Reader α) : Reader (Option α) :=
  orElse (p >>= fun a => value (some a)) fun _ => value none

/-- The place of the cursor. -/
def here : Reader Cursor := fun c => .done c c

/-- Goes back to an earlier place, without forgetting where attempts got stuck. -/
def back (place : Cursor) : Reader Unit := fun c => .done () { place with furthest := c.furthest }

/-- The characters at the cursor. -/
def ahead : Reader (List Char) := fun c => .done c.rest c

/-- Goes on only if a condition holds. -/
def guard (b : Bool) : Reader Unit := if b then value () else fail

/-- Moves over the characters of a token. -/
def pass (n : Nat) : Reader Unit := fun c => .done () (c.pass n)

/-- Moves over characters without skipping what follows them. -/
def advance (n : Nat) : Reader Unit := fun c => .done () (c.advance n)

/-- Skips blanks and comments. -/
def skipTrivia : Reader Unit := fun c =>
  .done () (({ c with freshLine := false } : Cursor).skipTrivia c.remaining)

/-- Reads parts one after the other as long as possible, at most a given number. -/
def manyUpTo (p : Reader α) : Nat → Reader (List α)
  | 0 => value []
  | n + 1 => do
    match ← attempt p with
    | none => return []
    | some a =>
      let as ← manyUpTo p n
      return a :: as

/-- Reads parts one after the other as long as possible. -/
def many (p : Reader α) : Reader (List α) := fun c => manyUpTo p c.remaining c

end Reader

end RouteAtlas.Script
