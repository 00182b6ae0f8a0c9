import RouteAtlas.Text.Basic

/-!
# Reading numbers

An integer literal in base `b` is digits of that base, where single underscores may stand between
digits, with optional white space around and an optional sign. A decimal number adds a fraction
and an exponent. These are the grammars of number conversion; what a data format accepts as a
number is decided by the format.
-/

namespace RouteAtlas.Decimal

/-- The value of a digit in a base. -/
def digit? (base : Nat) (c : Char) : Option Nat :=
  let value? : Option Nat :=
    if '0' ≤ c && c ≤ '9' then some (c.toNat - 48)
    else if 'a' ≤ c && c ≤ 'z' then some (c.toNat - 87)
    else if 'A' ≤ c && c ≤ 'Z' then some (c.toNat - 55)
    else none
  value?.filter (· < base)

/-- Reads digits with single underscores between them. `afterDigit` says whether the previous
character was a digit. -/
def digits? (base : Nat) (value : Nat) (afterDigit : Bool) : List Char → Option Nat
  | [] => if afterDigit then some value else none
  | c :: cs =>
    if c == '_' then if afterDigit then digits? base value false cs else none
    else
      match digit? base c with
      | some d => digits? base (value * base + d) true cs
      | none => none

/-- Splits off a sign; `true` means negative. -/
def splitSign : List Char → Bool × List Char
  | '-' :: cs => (true, cs)
  | '+' :: cs => (false, cs)
  | cs => (false, cs)

/-- The marks that may introduce the digits of a base. -/
def baseMarks (base : Nat) : List Char :=
  if base == 2 then ['b', 'B'] else if base == 8 then ['o', 'O'] else if base == 16 then ['x', 'X'] else []

/-- Drops a mark such as `0x`, after which one underscore may stand. -/
def dropMark (base : Nat) : List Char → List Char
  | '0' :: m :: '_' :: cs => if (baseMarks base).contains m then cs else '0' :: m :: '_' :: cs
  | '0' :: m :: cs => if (baseMarks base).contains m then cs else '0' :: m :: cs
  | cs => cs

/-- Reads an integer literal in a base. -/
def integer? (base : Nat) (s : String) : Option Int :=
  let (negative, cs) := splitSign (Text.trimChars s.toList)
  (digits? base 0 false (dropMark base cs)).map fun n => if negative then -(n : Int) else n

/-- A decimal number taken apart: sign, digits as an integer, and decimal exponent. -/
structure Parts where
  /-- Whether the number is negative. -/
  negative : Bool
  /-- All digits before and after the point, read as an integer. -/
  digits : Nat
  /-- The power of ten the digits are multiplied by. -/
  exponent : Int

/-- The double nearest to a decimal number. -/
def Parts.toFloat (p : Parts) : Float :=
  let size : Int := (Nat.toDigits 10 p.digits).length + p.exponent
  let magnitude :=
    if p.digits == 0 || size < -400 then (0.0 : Float)
    else if 400 < size then 1.0 / 0.0
    else
      match p.exponent with
      | .ofNat k => Float.ofScientific p.digits false k
      | .negSucc k => Float.ofScientific p.digits true (k + 1)
  if p.negative then -magnitude else magnitude

/-- The number written by a list of decimal digits. -/
def natOfDigits (cs : List Char) : Nat :=
  cs.foldl (fun n c => n * 10 + (c.toNat - 48)) 0

/-- Whether a list is one or more decimal digits, with single underscores between digits. -/
def isDigitRun (cs : List Char) : Bool :=
  (digits? 10 0 false cs).isSome

/-- Removes underscores. -/
def plainDigits (cs : List Char) : List Char :=
  cs.filter (· != '_')

/-- Reads an exponent such as `+05`. -/
def exponent? (cs : List Char) : Option Int :=
  let (negative, ds) := splitSign cs
  if isDigitRun ds then
    let n : Int := natOfDigits (plainDigits ds)
    some (if negative then -n else n)
  else none

/-- Reads an unsigned decimal number: digits, an optional fraction and an optional exponent, with
at least one digit before or after the point. -/
def unsigned? (cs : List Char) : Option (Nat × Int) :=
  let isMark := fun c => c == 'e' || c == 'E'
  let body := cs.takeWhile (fun c => !isMark c)
  let tail := cs.dropWhile (fun c => !isMark c)
  let scale? : Option Int :=
    match tail with
    | [] => some 0
    | _ :: ds => exponent? ds
  let whole := body.takeWhile (· != '.')
  let rest := body.dropWhile (· != '.')
  let okPart := fun ds => ds.isEmpty || isDigitRun ds
  match scale?, rest with
  | some scale, [] => if isDigitRun whole then some (natOfDigits (plainDigits whole), scale) else none
  | some scale, _ :: fraction =>
    if okPart whole && okPart fraction && !(whole.isEmpty && fraction.isEmpty) then
      let ds := plainDigits (whole ++ fraction)
      some (natOfDigits ds, scale - (plainDigits fraction).length)
    else none
  | none, _ => none

/-- Reads a floating-point literal, including the words for infinity and not-a-number. -/
def float? (s : String) : Option Float :=
  let (negative, cs) := splitSign (Text.trimChars s.toList)
  let word := String.ofList (cs.map Char.toLower)
  if word == "inf" || word == "infinity" then
    some (if negative then -(1.0 / 0.0) else 1.0 / 0.0)
  else if word == "nan" then some (0.0 / 0.0)
  else (unsigned? cs).map fun (n, e) => Parts.toFloat ⟨negative, n, e⟩

end RouteAtlas.Decimal
