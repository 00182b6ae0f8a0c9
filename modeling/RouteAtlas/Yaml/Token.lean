import RouteAtlas.Text.Utf8

/-!
# YAML tokens

The tokens of a YAML text, and a `Spot`, a place in the text with its line and column. A mapping key
is recognized only when the colon behind it is met, so its token is put in front of tokens that were
read before; `Lexer` does that.
-/

namespace RouteAtlas.Yaml

/-- A token. -/
inductive Token
  /-- A directive with its name and its parameters. -/
  | directive (name : String) (parameters : List String)
  | documentStart
  | documentEnd
  | blockSequenceStart
  | blockMappingStart
  | blockEnd
  | flowSequenceStart
  | flowSequenceEnd
  | flowMappingStart
  | flowMappingEnd
  | blockEntry
  | flowEntry
  | key
  | value
  | aliasOf (name : String)
  | anchor (name : String)
  /-- A tag: its handle, if it has one, and the rest. -/
  | tag (handle : Option String) (rest : String)
  /-- A scalar, and whether it is written without quotes. -/
  | scalar (text : String) (plain : Bool)
deriving DecidableEq

/-- Why a text cannot be read. -/
inductive Flaw
  /-- It does not follow the grammar. -/
  | malformed
  /-- An alias stands inside the node that it refers to. -/
  | selfContaining
  /-- An escape names a character that does not exist. -/
  | noCharacter
  /-- An escape names a number that no machine word for characters holds. -/
  | hugeCharacter
deriving DecidableEq

/-! ### Places -/

/-- A place in a text. -/
structure Spot where
  /-- The characters left. -/
  rest : List Char
  /-- The number of characters before. -/
  index : Nat := 0
  /-- The line. -/
  line : Nat := 0
  /-- The column. -/
  column : Nat := 0

/-- A character that ends a line. -/
def isLineEnd (c : Char) : Bool :=
  c == '\n' || c == '\r' || c == '\x85' || c == '\u2028' || c == '\u2029'

/-- A blank or the end of a line. -/
def isWhite (c : Char) : Bool := c == ' ' || c == '\t' || isLineEnd c

/-- Whether a text is at its end or at a character of a class. -/
def endsOr (p : Char → Bool) : List Char → Bool
  | [] => true
  | c :: _ => p c

namespace Spot

/-- Moves over one character. -/
def step (s : Spot) : Spot :=
  match s.rest with
  | [] => s
  | c :: cs =>
    if c == '\r' && cs.head? == some '\n' then
      { rest := cs, index := s.index + 1, line := s.line, column := s.column + 1 }
    else if isLineEnd c then { rest := cs, index := s.index + 1, line := s.line + 1, column := 0 }
    else if c == '\uFEFF' then { s with rest := cs, index := s.index + 1 }
    else { s with rest := cs, index := s.index + 1, column := s.column + 1 }

/-- Moves over several characters. -/
def advance : Nat → Spot → Spot
  | 0, s => s
  | n + 1, s => s.step.advance n

/-- Moves over the characters of a class. -/
def skipWhile (p : Char → Bool) (s : Spot) : Spot :=
  s.advance (s.rest.takeWhile p).length

/-- The characters of a class at a place, and the place behind them. -/
def span (p : Char → Bool) (s : Spot) : List Char × Spot :=
  let cs := s.rest.takeWhile p
  (cs, s.advance cs.length)

/-- Moves over a line end; the first component is what it stands for, empty if there is none. -/
def lineBreak (s : Spot) : List Char × Spot :=
  match s.rest with
  | '\r' :: '\n' :: _ => (['\n'], s.advance 2)
  | c :: _ =>
    if c == '\r' || c == '\n' || c == '\x85' then (['\n'], s.step)
    else if c == '\u2028' || c == '\u2029' then ([c], s.step)
    else ([], s)
  | [] => ([], s)

/-- Whether a place is at the end of a line or of the text. -/
def atLineEnd (s : Spot) : Bool := endsOr isLineEnd s.rest

/-- Whether a mark between documents stands at a place: three hyphens or three points, and nothing
or white space behind them. -/
def atSeparator (s : Spot) : Bool :=
  match s.rest with
  | '-' :: '-' :: '-' :: rest => endsOr isWhite rest
  | '.' :: '.' :: '.' :: rest => endsOr isWhite rest
  | _ => false

/-- Skips blanks and a comment up to the end of the line. -/
def skipComment (s : Spot) : Spot :=
  let s := s.skipWhile (· == ' ')
  match s.rest with
  | '#' :: _ => s.skipWhile fun c => !isLineEnd c
  | _ => s

end Spot

/-- Characters of the names of anchors, directives and handles. -/
def isNameChar (c : Char) : Bool := c.isAlphanum || c == '-' || c == '_'

end RouteAtlas.Yaml
