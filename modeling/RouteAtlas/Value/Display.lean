import RouteAtlas.Value.Basic
import RouteAtlas.Text.Quoted

/-!
# The text of a value

`Value.quoted` is the unambiguous text of a value inside messages and inside containers;
`Value.display` differs from it at the top only, where a text stands for itself and dates are
written in ISO form.
-/

namespace RouteAtlas

/-- The unambiguous text of a scalar. -/
def Scalar.quoted : Scalar → String
  | .null => "None"
  | .bool true => "True"
  | .bool false => "False"
  | .int n => Text.integer n
  | .float x => Decimal.floatText x
  | .text s => Text.quoted s
  | .date d => d.call
  | .stamp t => t.call
  | .bytes b => Text.quotedBytes b

/-- The text of a scalar. -/
def Scalar.display : Scalar → String
  | .text s => s
  | .date d => d.iso
  | .stamp t => t.isoWith " "
  | s => s.quoted

mutual

/-- The unambiguous text of a value. -/
def Value.quoted : Value → String
  | .scalar s => s.quoted
  | .set [] => "set()"
  | .set (x :: xs) => "\x7b" ++ Text.join ", " ((x :: xs).map Scalar.quoted) ++ "\x7d"
  | .pair a b => "(" ++ a.quoted ++ ", " ++ b.quoted ++ ")"
  | .list xs => "[" ++ Text.join ", " (Value.quotedItems xs) ++ "]"
  | .map ms => "\x7b" ++ Text.join ", " (Value.quotedMembers ms) ++ "\x7d"

/-- The unambiguous texts of the items of a list. -/
def Value.quotedItems : List Value → List String
  | [] => []
  | x :: xs => x.quoted :: Value.quotedItems xs

/-- The unambiguous texts of the members of a map. -/
def Value.quotedMembers : List (Scalar × Value) → List String
  | [] => []
  | (k, v) :: ms => (k.quoted ++ ": " ++ v.quoted) :: Value.quotedMembers ms

end

/-- The text of a value. -/
def Value.display : Value → String
  | .scalar s => s.display
  | v => v.quoted

end RouteAtlas
