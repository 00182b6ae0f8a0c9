import RouteAtlas.Text.Basic

/-!
# Regular expressions

`Regex` is a regular expression over classes of characters, `Regex.accepts` decides by derivatives
whether a whole text belongs to it. A `Pattern` is a regular expression that is searched for in a
text; it may be tied to the beginning or to the end, and it keeps the text it is written as. The end
of a text is also in front of its last line end.
-/

namespace RouteAtlas

/-- A regular expression. -/
inductive Regex
  /-- Nothing at all. -/
  | none
  /-- The empty text. -/
  | empty
  /-- One character of a class. -/
  | one (p : Char → Bool)
  /-- One after the other. -/
  | seq (a b : Regex)
  /-- One or the other. -/
  | alt (a b : Regex)
  /-- Any number of times. -/
  | many (a : Regex)

namespace Regex

/-- Whether the empty text belongs to an expression. -/
def nullable : Regex → Bool
  | .none => false
  | .empty => true
  | .one _ => false
  | .seq a b => a.nullable && b.nullable
  | .alt a b => a.nullable || b.nullable
  | .many _ => true

/-- One after the other, simplified. -/
def followedBy : Regex → Regex → Regex
  | .none, _ => .none
  | .empty, b => b
  | a, b => .seq a b

/-- One or the other, simplified. -/
def or : Regex → Regex → Regex
  | .none, b => b
  | a, .none => a
  | a, b => .alt a b

/-- What may follow a character. -/
def derive (c : Char) : Regex → Regex
  | .none => .none
  | .empty => .none
  | .one p => if p c then .empty else .none
  | .seq a b =>
    let first := (a.derive c).followedBy b
    if a.nullable then first.or (b.derive c) else first
  | .alt a b => (a.derive c).or (b.derive c)
  | .many a => (a.derive c).followedBy (.many a)

/-- Whether a text belongs to an expression. -/
def accepts (r : Regex) : List Char → Bool
  | [] => r.nullable
  | c :: cs => (r.derive c).accepts cs

/-- Whether some beginning of a text belongs to an expression. -/
def acceptsBeginning (r : Regex) : List Char → Bool
  | [] => r.nullable
  | c :: cs => r.nullable || (r.derive c).acceptsBeginning cs

/-- One given character. -/
def char (c : Char) : Regex := .one (· == c)

/-- A given text. -/
def text (s : String) : Regex := (s.toList.map char).foldr followedBy .empty

/-- One of several texts. -/
def oneOf (ss : List String) : Regex := (ss.map text).foldr or .none

/-- At least once. -/
def some (a : Regex) : Regex := .seq a (.many a)

/-- At most once. -/
def optional (a : Regex) : Regex := .alt a .empty

/-- Several expressions one after the other. -/
def all (rs : List Regex) : Regex := rs.foldr followedBy .empty

/-- A character within a line. -/
def inLine : Regex := .one (· != '\n')

/-- An ASCII digit. -/
def digit : Regex := .one Char.isDigit

end Regex

/-- A regular expression that is searched for in a text. -/
structure Pattern where
  /-- How the pattern is written. -/
  source : String
  /-- The expression. -/
  body : Regex
  /-- Whether it has to be at the beginning. -/
  fromStart : Bool := true
  /-- Whether it has to be at the end. -/
  toEnd : Bool := true

namespace Pattern

/-- Whether a pattern fits at the beginning of a text. -/
def fits (p : Pattern) (cs : List Char) : Bool :=
  if p.toEnd then
    p.body.accepts cs || (cs.getLast? == some '\n' && p.body.accepts cs.dropLast)
  else p.body.acceptsBeginning cs

/-- Whether a pattern is found in a list of characters. -/
def foundIn (p : Pattern) : List Char → Bool
  | [] => p.fits []
  | c :: cs => p.fits (c :: cs) || (!p.fromStart && p.foundIn cs)

/-- Whether a pattern is found in a text. -/
def found (p : Pattern) (s : String) : Bool := p.foundIn s.toList

end Pattern

end RouteAtlas
