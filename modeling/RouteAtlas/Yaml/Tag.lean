import RouteAtlas.Text.Basic

/-!
# What a plain scalar means

A scalar without quotes and without an explicit tag is taken for a truth value, a number, a date or
the absent value if it is written like one, and for a text otherwise. `Tag.ofPlain` decides this by
the shapes below; they are tried in a fixed order. Writing uses the same decision: a text that would
be taken for something else needs quotes.
-/

namespace RouteAtlas.Yaml

/-- The tag of a node. -/
inductive Tag
  | null | bool | int | float | timestamp | binary | text
  | seq | map | set | omap | pairs
  /-- The key that merges another map. -/
  | merge
  /-- The key that stands for the value of a map. -/
  | value
  /-- Any other tag. -/
  | other (name : String)
deriving DecidableEq

/-- The beginning of the names of the known tags. -/
def Tag.family : String := "tag:yaml.org,2002:"

/-- The short names of the known tags. -/
def Tag.names : List (String × Tag) := [
  ("null", .null), ("bool", .bool), ("int", .int), ("float", .float), ("timestamp", .timestamp),
  ("binary", .binary), ("str", .text), ("seq", .seq), ("map", .map), ("set", .set),
  ("omap", .omap), ("pairs", .pairs), ("merge", .merge), ("value", .value)]

/-- The tag of a full name. -/
def Tag.ofName (name : String) : Tag :=
  match Text.after? Tag.family.toList name.toList with
  | some short => (Tag.names.lookup (String.ofList short)).getD (.other name)
  | none => .other name

/-! ### Shapes -/

/-- A shape: the possible rests of a text after a beginning of that shape. -/
abbrev Shape := List Char → List (List Char)

namespace Shape

/-- One character of a class. -/
def one (p : Char → Bool) : Shape
  | [] => []
  | c :: cs => if p c then [cs] else []

/-- Any number of characters of a class. -/
def many (p : Char → Bool) : Shape
  | [] => [[]]
  | c :: cs => (if p c then many p cs else []) ++ [c :: cs]

/-- One shape after another. -/
def seq (a b : Shape) : Shape := fun cs => (a cs).flatMap b

/-- One shape or another. -/
def either (a b : Shape) : Shape := fun cs => a cs ++ b cs

/-- A shape or nothing. -/
def optional (a : Shape) : Shape := fun cs => a cs ++ [cs]

/-- A given character. -/
def char (c : Char) : Shape := one (· == c)

/-- A given text. -/
def word (w : String) : Shape := fun cs => (Text.after? w.toList cs).toList

/-- One of several texts. -/
def words (ws : List String) : Shape := fun cs => ws.flatMap fun w => word w cs

/-- Several shapes in order. -/
def all : List Shape → Shape
  | [] => fun cs => [cs]
  | a :: as => seq a (all as)

/-- One of several shapes. -/
def any (as : List Shape) : Shape := fun cs => as.flatMap fun a => a cs

/-- A shape repeated at least once, with a bound on the number of repetitions. -/
def repeatedUpTo (a : Shape) : Nat → Shape
  | 0 => fun _ => []
  | n + 1 => seq a (optional (repeatedUpTo a n))

/-- A shape repeated at least once. -/
def repeated (a : Shape) : Shape := fun cs => repeatedUpTo a cs.length cs

/-- Whether a whole text has a shape. -/
def fits (a : Shape) (cs : List Char) : Bool := (a cs).any List.isEmpty

end Shape

open Shape

/-- A decimal digit. -/
def digit : Shape := one Char.isDigit

/-- Decimal digits and underscores. -/
def digitsAndBars : Shape := many fun c => c.isDigit || c == '_'

/-- An optional sign. -/
def sign : Shape := optional (one fun c => c == '-' || c == '+')

/-- The words for truth values. -/
def boolShape : Shape := words
  ["yes", "Yes", "YES", "no", "No", "NO", "true", "True", "TRUE", "false", "False", "FALSE",
    "on", "On", "ON", "off", "Off", "OFF"]

/-- A base-sixty group behind a colon. -/
def sixtyGroup : Shape :=
  all [char ':', optional (one fun c => '0' ≤ c && c ≤ '5'), digit]

/-- An exponent, which has to have a sign. -/
def exponent : Shape :=
  all [one fun c => c == 'e' || c == 'E', one fun c => c == '-' || c == '+', digit,
    many Char.isDigit]

/-- Numbers with a point. -/
def floatShape : Shape := any [
  all [sign, digit, digitsAndBars, char '.', digitsAndBars, optional exponent],
  all [char '.', digit, digitsAndBars, optional exponent],
  all [sign, digit, digitsAndBars, repeated sixtyGroup, char '.', digitsAndBars],
  all [sign, char '.', words ["inf", "Inf", "INF"]],
  all [char '.', words ["nan", "NaN", "NAN"]]]

/-- Integers in base two, eight, ten, sixteen and sixty. -/
def intShape : Shape := any [
  all [sign, word "0b", one fun c => c == '0' || c == '1' || c == '_',
    many fun c => c == '0' || c == '1' || c == '_'],
  all [sign, char '0', one fun c => ('0' ≤ c && c ≤ '7') || c == '_',
    many fun c => ('0' ≤ c && c ≤ '7') || c == '_'],
  all [sign, char '0'],
  all [sign, one fun c => '1' ≤ c && c ≤ '9', digitsAndBars],
  all [sign, word "0x", one fun c => (Text.hexDigit? c).isSome || c == '_',
    many fun c => (Text.hexDigit? c).isSome || c == '_'],
  all [sign, one fun c => '1' ≤ c && c ≤ '9', digitsAndBars, repeated sixtyGroup]]

/-- The ways to write the absent value. -/
def nullShape : Shape := words ["~", "null", "Null", "NULL", ""]

/-- A blank between a day and a time. -/
def isStampBlank (c : Char) : Bool := c == ' ' || c == '\t'

/-- Days, and days with a time. -/
def timestampShape : Shape := any [
  all [digit, digit, digit, digit, char '-', digit, digit, char '-', digit, digit],
  all [digit, digit, digit, digit, char '-', digit, optional digit, char '-', digit, optional digit,
    either (one fun c => c == 'T' || c == 't') (seq (one isStampBlank) (many isStampBlank)),
    digit, optional digit, char ':', digit, digit, char ':', digit, digit,
    optional (seq (char '.') (many Char.isDigit)),
    optional (seq (many isStampBlank) (either (char 'Z')
      (all [one fun c => c == '-' || c == '+', digit, optional digit,
        optional (all [char ':', digit, digit])])))]]

/-- The shapes in the order in which they are tried. -/
def plainShapes : List (Tag × Shape) := [
  (.bool, boolShape), (.float, floatShape), (.int, intShape), (.merge, word "<<"),
  (.null, nullShape), (.timestamp, timestampShape), (.value, word "="),
  (.other "tag:yaml.org,2002:yaml", words ["!", "&", "*"])]

/-- The tag of a plain scalar. -/
def Tag.ofPlain (s : String) : Tag :=
  let cs := s.toList
  match plainShapes.find? fun p => p.2.fits cs with
  | some (tag, _) => tag
  | none => .text

end RouteAtlas.Yaml
