import RouteAtlas.Value.Access

/-!
# Writing JSON

`Json.render` writes a value over several lines, each level indented by two more spaces, with every
character that JSON allows written as itself. Numbers, truth values and the absent value may also
be member names and are then written as texts. Dates, byte strings and sets have no JSON form.
-/

namespace RouteAtlas.Json

/-- One character of a JSON text. -/
def escapeChar (c : Char) : String :=
  if c == '"' then "\\\""
  else if c == '\\' then "\\\\"
  else if c == '\n' then "\\n"
  else if c == '\r' then "\\r"
  else if c == '\t' then "\\t"
  else if c == '\x08' then "\\b"
  else if c == '\x0c' then "\\f"
  else if c.toNat < 32 then "\\u" ++ Text.hex 4 c.toNat
  else c.toString

/-- A JSON text. -/
def quote (s : String) : String :=
  "\"" ++ String.join (s.toList.map escapeChar) ++ "\""

/-- A JSON number. Infinities and not-a-number have names of their own. -/
def floatText (x : Float) : String :=
  if x.isNaN then "NaN"
  else if x.isInf then if x < 0.0 then "-Infinity" else "Infinity"
  else Decimal.floatText x

/-- The JSON form of a scalar. -/
def scalarText : Scalar → Except Fault String
  | .null => .ok "null"
  | .bool true => .ok "true"
  | .bool false => .ok "false"
  | .int n => .ok (Text.integer n)
  | .float x => .ok (floatText x)
  | .text s => .ok (quote s)
  | s => .error (.notSerializable s.kind)

/-- The JSON form of a member name. -/
def memberName : Scalar → Except Fault String
  | .text s => .ok (quote s)
  | .null => .ok (quote "null")
  | .bool true => .ok (quote "true")
  | .bool false => .ok (quote "false")
  | .int n => .ok (quote (Text.integer n))
  | .float x => .ok (quote (floatText x))
  | s => .error (.badMemberName s.kind)

/-- A line end followed by the indentation of a level. -/
def newline (level : Nat) : String :=
  "\n" ++ Text.repeated level "  "

/-- Puts written parts between brackets, one part a line. -/
def bracket (level : Nat) (opening closing : String) (parts : List String) : String :=
  if parts.isEmpty then opening ++ closing
  else
    opening ++ newline (level + 1) ++ Text.join ("," ++ newline (level + 1)) parts ++
      newline level ++ closing

mutual

/-- Writes a value at a level of indentation. -/
def write (level : Nat) : Value → Except Fault String
  | .scalar s => scalarText s
  | .set _ => .error (.notSerializable .set)
  | .pair a b => do
    let x ← write (level + 1) a
    let y ← write (level + 1) b
    return bracket level "[" "]" [x, y]
  | .list xs => do
    let parts ← writeItems (level + 1) xs
    return bracket level "[" "]" parts
  | .map ms => do
    let parts ← writeMembers (level + 1) ms
    return bracket level "\x7b" "\x7d" parts

/-- Writes the items of a list. -/
def writeItems (level : Nat) : List Value → Except Fault (List String)
  | [] => .ok []
  | x :: xs => do
    let part ← write level x
    let parts ← writeItems level xs
    return part :: parts

/-- Writes the members of a map. -/
def writeMembers (level : Nat) : List (Scalar × Value) → Except Fault (List String)
  | [] => .ok []
  | (k, v) :: ms => do
    let name ← memberName k
    let part ← write level v
    let parts ← writeMembers level ms
    return (name ++ ": " ++ part) :: parts

end

/-- Writes a document. -/
def render (v : Value) : Except Fault String :=
  write 0 v

end RouteAtlas.Json
