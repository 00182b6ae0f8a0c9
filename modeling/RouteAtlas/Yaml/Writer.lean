import RouteAtlas.Yaml.Tag
import RouteAtlas.Value.Display

/-!
# Writing YAML

`Yaml.render` writes a value in block style: one member or item a line, members indented by two
spaces, the items of a list at the column of the key they belong to. A scalar is written plain if it
can be read back that way, else in single quotes, else in double quotes with escapes. A key that is
empty, has several lines or is too long gets a line of its own behind a question mark.
-/

namespace RouteAtlas.Yaml

/-! ### The page -/

/-- What has been written, and where the pen is. -/
structure Page where
  /-- The text, last piece first. -/
  pieces : List String := []
  /-- The column of the pen. -/
  column : Nat := 0
  /-- Whether a blank or nothing is in front of the pen. -/
  blank : Bool := true
  /-- Whether only indentation and indicators stand on the line. -/
  indenting : Bool := true

namespace Page

/-- Writes a piece of a line. -/
def put (p : Page) (s : String) : Page :=
  { p with pieces := s :: p.pieces, column := p.column + s.length }

/-- Ends the line. -/
def newline (p : Page) (lineEnd : String := "\n") : Page :=
  { pieces := lineEnd :: p.pieces, column := 0, blank := true, indenting := true }

/-- Writes an indicator, with a blank in front if one is needed. -/
def indicator (p : Page) (s : String) (needsBlank : Bool) (keepsBlank keepsIndent : Bool := false) :
    Page :=
  let q := p.put (if p.blank || !needsBlank then s else " " ++ s)
  { q with blank := keepsBlank, indenting := p.indenting && keepsIndent }

/-- Moves to a column, on a new line unless only indentation stands on this one. -/
def indentTo (p : Page) (n : Nat) : Page :=
  let p :=
    if !p.indenting || n < p.column || (p.column == n && !p.blank) then p.newline else p
  if p.column < n then
    { p.put (String.ofList (List.replicate (n - p.column) ' ')) with blank := true }
  else p

/-- Everything written. -/
def text (p : Page) : String := String.join p.pieces.reverse

end Page

/-! ### Scalars -/

/-- A character that ends a line of a scalar. -/
def isBreak (c : Char) : Bool :=
  c == '\n' || c == '\x85' || c == '\u2028' || c == '\u2029'

/-- A blank or the end of a line. -/
def isGap (c : Char) : Bool :=
  c == ' ' || c == '\t' || c == '\r' || c == '\x00' || isBreak c

/-- A character that can be written as itself. -/
def isOrdinary (c : Char) : Bool :=
  let n := c.toNat
  c == '\n' || (0x20 ≤ n && n ≤ 0x7E) ||
    ((n == 0x85 || (0xA0 ≤ n && n ≤ 0xD7FF) || (0xE000 ≤ n && n ≤ 0xFFFD) ||
      (0x10000 ≤ n && n < 0x10FFFF)) && n != 0xFEFF)

/-- Whether the next character is a gap or missing. -/
def gapAhead : List Char → Bool
  | [] => true
  | c :: _ => isGap c

/-- Whether characters after the first one hold an indicator: a colon in front of a gap or a number
sign behind one. -/
def innerIndicator (afterGap : Bool) : List Char → Bool
  | [] => false
  | c :: cs =>
    (c == ':' && gapAhead cs) || (c == '#' && afterGap) || innerIndicator (isGap c) cs

/-- Whether a text holds an indicator that would be taken for structure. -/
def hasIndicator (cs : List Char) : Bool :=
  ['-', '-', '-'].isPrefixOf cs || ['.', '.', '.'].isPrefixOf cs ||
    match cs with
    | [] => false
    | c :: rest =>
      "#,[]\x7b\x7d&*!|>'\"%@\x60".toList.contains c ||
        ((c == '?' || c == ':' || c == '-') && gapAhead rest) || innerIndicator (isGap c) rest

/-- Whether two neighbouring characters fulfil two conditions. -/
def hasNeighbours (p q : Char → Bool) : List Char → Bool
  | a :: b :: cs => (p a && q b) || hasNeighbours p q (b :: cs)
  | _ => false

/-- How a scalar is written. -/
inductive Style
  | plain | single | double | literal
deriving DecidableEq

/-- Whether a text has several lines. -/
def isMultiline (cs : List Char) : Bool := cs.any isBreak

/-- Whether a text may be written without quotes. -/
def allowsPlain (cs : List Char) : Bool :=
  match cs with
  | [] => true
  | c :: _ =>
    !(c == ' ' || cs.getLast? == some ' ' || isMultiline cs || !cs.all isOrdinary ||
      hasIndicator cs)

/-- Whether a text may be written in single quotes: all characters stand for themselves, and no
blank stands next to a line end. -/
def allowsSingle (cs : List Char) : Bool :=
  cs.all isOrdinary && !hasNeighbours (· == ' ') isBreak cs && !hasNeighbours isBreak (· == ' ') cs

/-- A scalar to be written: its text, whether it may be plain (reading it plain gives the tag it
has), whether quotes need no tag, its tag, and whether several lines are preferred. -/
structure Form where
  /-- The text. -/
  text : String
  /-- The short name of the tag. -/
  tag : String
  /-- Whether reading the text plain gives this tag. -/
  plainTag : Bool
  /-- Whether reading the text in quotes gives this tag. -/
  quotedTag : Bool
  /-- Whether it is written as a block of lines where possible. -/
  block : Bool := false

/-- The style of a scalar. A key on the same line as its value has no line ends. -/
def Form.style (f : Form) (simpleKey : Bool) : Style :=
  let cs := f.text.toList
  if !f.block && f.plainTag && !(simpleKey && (cs.isEmpty || isMultiline cs)) && allowsPlain cs then
    .plain
  else if f.block then
    if !simpleKey && !cs.isEmpty then .literal else .double
  else if allowsSingle cs && !(simpleKey && isMultiline cs) then .single
  else .double

/-- Escapes of single letters in double quotes. -/
def letterEscapes : List (Char × String) := [
  ('\x00', "0"), ('\x07', "a"), ('\x08', "b"), ('\t', "t"), ('\n', "n"), ('\x0b', "v"),
  ('\x0c', "f"), ('\r', "r"), ('\x1b', "e"), ('"', "\""), ('\\', "\\"), ('\x85', "N"),
  ('\xa0', "_"), ('\u2028', "L"), ('\u2029', "P")]

/-- Hexadecimal digits in upper case. -/
def upperHex (width n : Nat) : String :=
  Text.padLeft width '0' (String.ofList ((Nat.toDigits 16 n).map Char.toUpper))

/-- One character in double quotes. -/
def doubleQuoted (c : Char) : String :=
  let n := c.toNat
  let itself := ((0x20 ≤ n && n ≤ 0x7E) || (0xA0 ≤ n && n ≤ 0xD7FF) || (0xE000 ≤ n && n ≤ 0xFFFD)) &&
    !(['"', '\\', '\u2028', '\u2029', '\uFEFF'].contains c)
  if itself then c.toString
  else
    match letterEscapes.lookup c with
    | some e => "\\" ++ e
    | none =>
      if n ≤ 0xFF then "\\x" ++ upperHex 2 n
      else if n ≤ 0xFFFF then "\\u" ++ upperHex 4 n
      else "\\U" ++ upperHex 8 n

/-- Ends the line with the given line end. -/
def Page.breakLine (p : Page) (c : Char) : Page :=
  if c == '\n' then p.newline else p.newline c.toString

/-- Writes the inside of single quotes. The first line end of a run is written twice; after a run
comes the indentation. -/
def singleQuoted (indent : Nat) (afterBreak : Bool) (p : Page) : List Char → Page
  | [] => if afterBreak then p.indentTo indent else p
  | c :: cs =>
    if isBreak c then
      let p := if !afterBreak && c == '\n' then p.newline else p
      singleQuoted indent true (p.breakLine c) cs
    else
      let p := if afterBreak then p.indentTo indent else p
      singleQuoted indent false (p.put (if c == '\'' then "''" else c.toString)) cs

/-- Writes a block of lines, each at the indentation; the text ends with a line end. -/
def literalLines (indent : Nat) (afterBreak : Bool) (p : Page) : List Char → Page
  | [] => if afterBreak then p else p.newline
  | c :: cs =>
    if isBreak c then literalLines indent true (p.breakLine c) cs
    else
      let p := if afterBreak then p.indentTo indent else p
      literalLines indent false (p.put c.toString) cs

/-- The indicator in front of a block of lines. -/
def literalHeader (cs : List Char) : String :=
  let lead := match cs with
    | c :: _ => if c == ' ' || isBreak c then "2" else ""
    | [] => ""
  let tail := match cs.reverse with
    | [] => ""
    | c :: rest =>
      if !isBreak c then "-"
      else match rest with
        | [] => "+"
        | d :: _ => if isBreak d then "+" else ""
  "|" ++ lead ++ tail

/-- Writes a plain scalar. -/
def Page.plain (p : Page) (s : String) : Page :=
  if s == "" then p
  else
    let p := if p.blank then p else p.put " "
    { p.put s with blank := false, indenting := false }

/-- Writes a scalar; line ends inside it are followed by the given indentation. -/
def Form.write (f : Form) (indent : Nat) (simpleKey : Bool) (p : Page) : Page :=
  let style := f.style simpleKey
  let tagged := if style == .plain then !f.plainTag else !f.quotedTag
  let p := if tagged then p.indicator ("!!" ++ f.tag) true else p
  let cs := f.text.toList
  match style with
  | .plain => p.plain f.text
  | .single => (singleQuoted indent false (p.indicator "'" true) cs).indicator "'" false
  | .double =>
    ((p.indicator "\"" true).put (String.join (cs.map doubleQuoted))).indicator "\"" false
  | .literal => literalLines indent true ((p.indicator (literalHeader cs) true).newline) cs

/-- Whether a scalar may be a key on the same line as its value. -/
def Form.isSimpleKey (f : Form) : Bool :=
  let cs := f.text.toList
  f.tag.length + 2 + cs.length < 128 && !cs.isEmpty && !isMultiline cs

/-! ### Scalars of each kind -/

/-- The text of a floating-point number, which has to have a point. -/
def floatText (x : Float) : String :=
  if x.isNaN then ".nan"
  else if x.isInf then if x < 0.0 then "-.inf" else ".inf"
  else
    let s := Decimal.floatText x
    if s.toList.contains '.' || !s.toList.contains 'e' then s
    else String.ofList (Text.replaceChar 'e' ".0e".toList s.toList)

/-- The letters of base sixty-four. -/
def base64Letters : List Char :=
  "ABCDEFGHIJKLMNOPQRSTUVWXYZabcdefghijklmnopqrstuvwxyz0123456789+/".toList

/-- One letter of base sixty-four. -/
def base64Letter (n : Nat) : Char := base64Letters.getD (n % 64) 'A'

/-- Bytes in base sixty-four. -/
def base64 : List UInt8 → List Char
  | a :: b :: c :: rest =>
    let n := a.toNat * 65536 + b.toNat * 256 + c.toNat
    base64Letter (n / 262144) :: base64Letter (n / 4096) :: base64Letter (n / 64) ::
      base64Letter n :: base64 rest
  | [a, b] =>
    let n := a.toNat * 1024 + b.toNat * 4
    [base64Letter (n / 4096), base64Letter (n / 64), base64Letter n, '=']
  | [a] =>
    let n := a.toNat * 16
    [base64Letter (n / 64), base64Letter n, '=', '=']
  | [] => []

/-- Lines of seventy-six characters, each with a line end. -/
def inLines : Nat → List Char → List Char
  | 0, cs => cs
  | _, [] => []
  | fuel + 1, cs => cs.take 76 ++ '\n' :: inLines fuel (cs.drop 76)

/-- The form of a scalar that is not a text. -/
def Form.tagged (tag : Tag) (name text : String) : Form :=
  ⟨text, name, Tag.ofPlain text == tag, false, false⟩

/-- The form of a scalar. -/
def Form.ofScalar : Scalar → Form
  | .null => .tagged .null "null" "null"
  | .bool b => .tagged .bool "bool" (if b then "true" else "false")
  | .int n => .tagged .int "int" (Text.integer n)
  | .float x => .tagged .float "float" (floatText x)
  | .text s => ⟨s, "str", Tag.ofPlain s == .text, true, false⟩
  | .date d => .tagged .timestamp "timestamp" d.iso
  | .stamp t => .tagged .timestamp "timestamp" (t.isoWith " ")
  | .bytes b =>
    let cs := base64 b
    ⟨String.ofList (inLines (cs.length + 1) cs), "binary", false, false, true⟩

/-! ### Values -/

/-- The indentation of what is inside something at an indentation. -/
def deeper : Option Nat → Nat
  | none => 0
  | some n => n + 2

/-- The indentation of the further lines of a scalar. -/
def scalarIndent : Option Nat → Nat
  | none => 2
  | some n => n + 2

/-- Writes a key and what separates it from its value. -/
def writeKey (indent : Nat) (key : Scalar) (p : Page) : Page :=
  let f := Form.ofScalar key
  let p := p.indentTo indent
  if f.isSimpleKey then (f.write (indent + 2) true p).indicator ":" false
  else
    let p := f.write (indent + 2) false (p.indicator "?" true false true)
    (p.indentTo indent).indicator ":" true false true

/-- Writes the members of a set, which have no values. -/
def writeSet (indent : Nat) (p : Page) : List Scalar → Page
  | [] => p
  | k :: ks =>
    writeSet indent ((Form.ofScalar .null).write (indent + 2) false (writeKey indent k p)) ks

/-- The indentation of the items of a list: that of the key it belongs to, if it stands on the line
of the key. -/
def listIndent (indent : Option Nat) (asMember : Bool) (p : Page) : Nat :=
  if asMember && !p.indenting then indent.getD 0 else deeper indent

/-- Begins an item of a list. -/
def openItem (indent : Nat) (p : Page) : Page :=
  (p.indentTo indent).indicator "-" true false true

mutual

/-- Writes a value. The indentation is that of the collection around it, `none` at the top;
`asMember` says that it is the value of a key. -/
def write (indent : Option Nat) (asMember : Bool) (p : Page) : Value → Page
  | .scalar s => (Form.ofScalar s).write (scalarIndent indent) false p
  | .set [] => ((p.indicator "!!set" true).indicator "\x7b" true true).indicator "\x7d" false
  | .set (k :: ks) => writeSet (deeper indent) (p.indicator "!!set" true) (k :: ks)
  | .pair a b =>
    let n := listIndent indent asMember p
    let p := write (some n) false (openItem n p) a
    write (some n) false (openItem n p) b
  | .list [] => (p.indicator "[" true true).indicator "]" false
  | .list (x :: xs) => writeItems (listIndent indent asMember p) p (x :: xs)
  | .map [] => (p.indicator "\x7b" true true).indicator "\x7d" false
  | .map (m :: ms) => writeMembers (deeper indent) p (m :: ms)

/-- Writes the items of a list. -/
def writeItems (indent : Nat) (p : Page) : List Value → Page
  | [] => p
  | x :: xs => writeItems indent (write (some indent) false (openItem indent p) x) xs

/-- Writes the members of a map. -/
def writeMembers (indent : Nat) (p : Page) : List (Scalar × Value) → Page
  | [] => p
  | (k, v) :: ms => writeMembers indent (write (some indent) true (writeKey indent k p) v) ms

end

/-- Writes a document. -/
def render (v : Value) : String :=
  ((write none false {} v).indentTo 0).text

end RouteAtlas.Yaml
