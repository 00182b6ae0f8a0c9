import RouteAtlas.Decimal.Reading
import RouteAtlas.Text.Utf8
import RouteAtlas.Value.Basic

/-!
# Reading JSON

A reader for JSON texts that keeps the order of members; of a repeated member the first place and
the last value count. Besides JSON proper it takes the names `NaN`, `Infinity` and `-Infinity`. A
refused text is described by a `Problem` and the place where it was noticed. The readers work on
the characters still to be read, and a place is kept as the number of those characters.
-/

namespace RouteAtlas.Json

/-- What is wrong with a text. -/
inductive Problem
  | byteOrderMark
  | value
  | memberName
  | colon
  | comma
  | extraData
  | unterminated
  | controlCharacter
  | escape
  | unicodeEscape
deriving DecidableEq

/-- The wording of a problem. -/
def Problem.message : Problem → String
  | .byteOrderMark => "Unexpected UTF-8 BOM (decode using utf-8-sig)"
  | .value => "Expecting value"
  | .memberName => "Expecting property name enclosed in double quotes"
  | .colon => "Expecting ':' delimiter"
  | .comma => "Expecting ',' delimiter"
  | .extraData => "Extra data"
  | .unterminated => "Unterminated string starting at"
  | .controlCharacter => "Invalid control character at"
  | .escape => "Invalid \\escape"
  | .unicodeEscape => "Invalid \\uXXXX escape"

/-- A refused text: the problem and the number of characters that were left when it was
noticed. -/
structure Refusal where
  /-- What is wrong. -/
  problem : Problem
  /-- How many characters were left. -/
  remaining : Nat

/-- White space between the tokens of JSON. -/
def isSpace (c : Char) : Bool :=
  c == ' ' || c == '\t' || c == '\n' || c == '\r'

/-- Drops white space. -/
def skipSpace (cs : List Char) : List Char :=
  cs.dropWhile isSpace

/-- A refusal at the present place. -/
def refuse {α : Type} (p : Problem) (cs : List Char) : Except Refusal α :=
  .error ⟨p, cs.length⟩

/-! ### Texts -/

/-- The character of a one-letter escape. -/
def simpleEscape? (c : Char) : Option Char :=
  match c with
  | '"' => some '"'
  | '\\' => some '\\'
  | '/' => some '/'
  | 'b' => some '\x08'
  | 'f' => some '\x0c'
  | 'n' => some '\n'
  | 'r' => some '\r'
  | 't' => some '\t'
  | _ => none

/-- The number written by the next four hexadecimal digits, and what follows. At least one further
character has to follow, since the text still has to be closed. -/
def hex4? (cs : List Char) : Option (Nat × List Char) :=
  match cs with
  | a :: b :: c :: d :: e :: rest => (Text.hexValue? [a, b, c, d]).map fun n => (n, e :: rest)
  | _ => none

/-- Whether a number is the first half of a surrogate pair. -/
def isHighSurrogate (n : Nat) : Bool := 0xD800 ≤ n && n ≤ 0xDBFF

/-- Whether a number is the second half of a surrogate pair. -/
def isLowSurrogate (n : Nat) : Bool := 0xDC00 ≤ n && n ≤ 0xDFFF

/-- Reads the code of an escape `\uXXXX`, given what follows the letter `u`; a second escape that
completes a surrogate pair belongs to it. -/
def unicodeEscape (cs : List Char) : Except Refusal (Char × List Char) :=
  match hex4? cs with
  | none => .error ⟨.unicodeEscape, cs.length + 1⟩
  | some (high, rest) =>
    if isHighSurrogate high then
      match rest with
      | '\\' :: 'u' :: more =>
        if more.length < 5 then .ok (Text.charOfCode high, rest)
        else
          match hex4? more with
          | none => .error ⟨.unicodeEscape, more.length + 1⟩
          | some (low, after) =>
            if isLowSurrogate low then
              .ok (Char.ofNat (0x10000 + (high - 0xD800) * 0x400 + (low - 0xDC00)), after)
            else .ok (Text.charOfCode high, rest)
      | _ => .ok (Text.charOfCode high, rest)
    else .ok (Text.charOfCode high, rest)

/-- Reads a text up to its closing quote. `opening` is the number of characters that were left at
the opening quote. -/
def readText (opening : Nat) : Nat → List Char → List Char → Except Refusal (String × List Char)
  | 0, _, _ => .error ⟨.unterminated, opening⟩
  | fuel + 1, done, cs =>
    match cs with
    | [] => .error ⟨.unterminated, opening⟩
    | '"' :: rest => .ok (String.ofList done.reverse, rest)
    | ['\\'] => .error ⟨.unterminated, opening⟩
    | '\\' :: 'u' :: rest =>
      match unicodeEscape rest with
      | .ok (c, after) => readText opening fuel (c :: done) after
      | .error e => .error e
    | '\\' :: c :: rest =>
      match simpleEscape? c with
      | some d => readText opening fuel (d :: done) rest
      | none => refuse .escape cs
    | c :: rest =>
      if c.toNat < 32 then refuse .controlCharacter cs
      else readText opening fuel (c :: done) rest

/-! ### Numbers -/

/-- Splits off the digits at the beginning. -/
def spanDigits (cs : List Char) : List Char × List Char :=
  (cs.takeWhile Char.isDigit, cs.dropWhile Char.isDigit)

/-- The integer part of a number: a zero, or digits that begin with another one. -/
def integerPart? (cs : List Char) : Option (List Char × List Char) :=
  match cs with
  | '0' :: rest => some (['0'], rest)
  | c :: _ => if c.isDigit then some (spanDigits cs) else none
  | [] => none

/-- The fraction of a number, if a point and a digit follow. -/
def fractionPart (cs : List Char) : Option (List Char) × List Char :=
  match cs with
  | '.' :: c :: rest =>
    if c.isDigit then
      let (ds, rest) := spanDigits (c :: rest)
      (some ds, rest)
    else (none, cs)
  | _ => (none, cs)

/-- The exponent of a number, if a mark, an optional sign and a digit follow. -/
def exponentPart (cs : List Char) : Option Int × List Char :=
  match cs with
  | e :: rest =>
    if e == 'e' || e == 'E' then
      let (negative, ds) := Decimal.splitSign rest
      let (digits, after) := spanDigits ds
      if digits.isEmpty then (none, cs)
      else
        let n : Int := Decimal.natOfDigits digits
        (some (if negative then -n else n), after)
    else (none, cs)
  | [] => (none, cs)

/-- Reads a number. A number with neither fraction nor exponent is an integer. -/
def readNumber (cs : List Char) : Except Refusal (Value × List Char) :=
  let (negative, unsigned) :=
    match cs with
    | '-' :: rest => (true, rest)
    | _ => (false, cs)
  match integerPart? unsigned with
  | none => refuse .value cs
  | some (whole, rest) =>
    let (fraction?, rest) := fractionPart rest
    let (scale?, rest) := exponentPart rest
    match fraction?, scale? with
    | none, none =>
      let n : Int := Decimal.natOfDigits whole
      .ok (.int (if negative then -n else n), rest)
    | _, _ =>
      let fraction := fraction?.getD []
      let exponent := scale?.getD 0 - fraction.length
      .ok (.float (Decimal.Parts.toFloat ⟨negative, Decimal.natOfDigits (whole ++ fraction), exponent⟩),
        rest)

/-! ### Values -/

/-- The names that stand for a value. -/
def names : List (String × Value) := [
  ("null", .null), ("true", .bool true), ("false", .bool false),
  ("NaN", .float (0.0 / 0.0)), ("Infinity", .float (1.0 / 0.0)), ("-Infinity", .float (-(1.0 / 0.0)))]

/-- The value that a name at the beginning stands for, and what follows. -/
def name? (cs : List Char) : Option (Value × List Char) :=
  names.findSome? fun (name, v) => (Text.after? name.toList cs).map fun rest => (v, rest)

mutual

/-- Reads a value that begins at once. -/
def readValue : Nat → List Char → Except Refusal (Value × List Char)
  | 0, cs => refuse .value cs
  | fuel + 1, cs =>
    match cs with
    | '"' :: rest => do
      let (s, rest) ← readText cs.length (rest.length + 1) [] rest
      return (.text s, rest)
    | '[' :: rest =>
      match skipSpace rest with
      | ']' :: rest => .ok (.list [], rest)
      | rest => do
        let (items, rest) ← readItems fuel [] rest
        return (.list items, rest)
    | '\x7b' :: rest =>
      match skipSpace rest with
      | '\x7d' :: rest => .ok (.map [], rest)
      | rest => do
        let (members, rest) ← readMembers fuel [] rest
        return (.map (Members.ofList members), rest)
    | _ =>
      match name? cs with
      | some found => .ok found
      | none => readNumber cs

/-- Reads the items of a list up to the closing bracket. -/
def readItems : Nat → List Value → List Char → Except Refusal ((List Value) × List Char)
  | 0, _, cs => refuse .value cs
  | fuel + 1, done, cs => do
    let (v, rest) ← readValue fuel cs
    match skipSpace rest with
    | ']' :: rest => return ((v :: done).reverse, rest)
    | ',' :: rest => readItems fuel (v :: done) (skipSpace rest)
    | rest => refuse .comma rest

/-- Reads the members of a map up to the closing brace. -/
def readMembers : Nat → List (Scalar × Value) → List Char → Except Refusal ((List (Scalar × Value)) × List Char)
  | 0, _, cs => refuse .value cs
  | fuel + 1, done, cs =>
    match cs with
    | '"' :: rest => do
      let (name, rest) ← readText cs.length (rest.length + 1) [] rest
      match skipSpace rest with
      | ':' :: rest =>
        let (v, rest) ← readValue fuel (skipSpace rest)
        let done := (.text name, v) :: done
        match skipSpace rest with
        | '\x7d' :: rest => return (done.reverse, rest)
        | ',' :: rest => readMembers fuel done (skipSpace rest)
        | rest => refuse .comma rest
      | rest => refuse .colon rest
    | _ => refuse .memberName cs

end

/-- Reads a whole text. -/
def readAll (cs : List Char) : Except Refusal Value :=
  match cs with
  | '\uFEFF' :: _ => refuse .byteOrderMark cs
  | _ => do
    let (v, rest) ← readValue (cs.length + 1) (skipSpace cs)
    match skipSpace rest with
    | [] => return v
    | rest => refuse .extraData rest

/-! ### Places -/

/-- The wording of a refusal, with line, column and position of the place. -/
def Refusal.message (r : Refusal) (source : String) : String :=
  let cs := source.toList
  let position := cs.length - r.remaining
  let before := cs.take position
  let line := before.count '\n' + 1
  let column := (before.reverse.takeWhile (· != '\n')).length + 1
  r.problem.message ++ ": line " ++ Text.decimal line ++ " column " ++ Text.decimal column ++
    " (char " ++ Text.decimal position ++ ")"

/-- Reads a JSON text. -/
def parse (source : String) : Except Refusal Value :=
  readAll source.toList

end RouteAtlas.Json
