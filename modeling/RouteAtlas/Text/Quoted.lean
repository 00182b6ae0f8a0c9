import RouteAtlas.Text.Basic
import RouteAtlas.Text.Printable

/-!
# Quoted text

A text inside a message is put between quotation marks: single ones, unless the text has a single
and no double one. Backslashes, the chosen mark, line ends, tabs and everything that is not
printable are escaped.
-/

namespace RouteAtlas.Text

/-- The mark put around a text: a double quote iff the text has a single quote and no double
one. -/
def quoteMark (cs : List Char) : Char :=
  if cs.contains '\'' && !cs.contains '"' then '"' else '\''

/-- One character of a quoted text. -/
def quoteChar (mark c : Char) : String :=
  if c == mark || c == '\\' then String.ofList ['\\', c]
  else if c == '\n' then "\\n"
  else if c == '\r' then "\\r"
  else if c == '\t' then "\\t"
  else if isPrintable c then c.toString
  else if c.toNat < 0x100 then "\\x" ++ hex 2 c.toNat
  else if c.toNat < 0x10000 then "\\u" ++ hex 4 c.toNat
  else "\\U" ++ hex 8 c.toNat

/-- A text between quotation marks. -/
def quoted (s : String) : String :=
  let mark := quoteMark s.toList
  mark.toString ++ String.join (s.toList.map (quoteChar mark)) ++ mark.toString

/-- One byte of a quoted byte string. -/
def quoteByte (mark : Char) (b : UInt8) : String :=
  let c := Char.ofNat b.toNat
  if c == mark || c == '\\' then String.ofList ['\\', c]
  else if c == '\n' then "\\n"
  else if c == '\r' then "\\r"
  else if c == '\t' then "\\t"
  else if 32 ≤ b.toNat && b.toNat < 127 then c.toString
  else "\\x" ++ hex 2 b.toNat

/-- A byte string between quotation marks, with a `b` in front. -/
def quotedBytes (bytes : List UInt8) : String :=
  let mark := quoteMark (bytes.map fun b => Char.ofNat b.toNat)
  "b" ++ mark.toString ++ String.join (bytes.map (quoteByte mark)) ++ mark.toString

end RouteAtlas.Text
