import RouteAtlas.Yaml.Scalar

/-!
# Splitting a YAML text into tokens

The lexer keeps track of the indentation of the open block collections and of the places where a
mapping key may have begun. When a colon shows that one has, the token for the key, and if need be
the one for a new mapping, are put at that place. A candidate for a key must be on one line and at
most 1024 characters long.
-/

namespace RouteAtlas.Yaml

/-- A place where a mapping key may have begun. -/
structure Candidate where
  /-- The number of tokens before it. -/
  tokens : Nat
  /-- Whether there has to be a key. -/
  required : Bool
  /-- Its place in the text. -/
  index : Nat
  /-- Its line. -/
  line : Nat
  /-- Its column. -/
  column : Nat

/-- The state of the lexer. -/
structure Lexer where
  /-- The place in the text. -/
  spot : Spot
  /-- The tokens so far, last first. -/
  tokens : List Token := []
  /-- Their number. -/
  count : Nat := 0
  /-- The number of open flow collections. -/
  flow : Nat := 0
  /-- The indentation of the innermost block collection. -/
  indent : Int := -1
  /-- The indentations of the block collections around it. -/
  outer : List Int := []
  /-- Whether a key may begin here. -/
  keyAllowed : Bool := true
  /-- The candidates for keys, by the number of open flow collections. -/
  candidates : List (Nat × Candidate) := []

namespace Lexer

/-- Adds a token. -/
def emit (l : Lexer) (t : Token) : Lexer :=
  { l with tokens := t :: l.tokens, count := l.count + 1 }

/-- Puts a token in front of all but the given number of first tokens. -/
def emitAt (l : Lexer) (place : Nat) (t : Token) : Lexer :=
  let behind := l.count - place
  { l with tokens := l.tokens.take behind ++ t :: l.tokens.drop behind, count := l.count + 1 }

/-- Drops candidates that can no longer be keys; none of them may be required. -/
def dropStale (l : Lexer) : Except Flaw Lexer :=
  let stale (c : Candidate) : Bool := c.line != l.spot.line || 1024 < l.spot.index - c.index
  if l.candidates.any fun c => stale c.2 && c.2.required then .error .malformed
  else .ok { l with candidates := l.candidates.filter fun c => !stale c.2 }

/-- Drops the candidate of the current level; it may not be required. -/
def dropCandidate (l : Lexer) : Except Flaw Lexer :=
  match l.candidates.lookup l.flow with
  | some c =>
    if c.required then .error .malformed
    else .ok { l with candidates := l.candidates.filter fun c => c.1 != l.flow }
  | none => .ok l

/-- Makes the current place a candidate, if a key may begin here. -/
def addCandidate (l : Lexer) : Except Flaw Lexer := do
  if l.keyAllowed then
    let required := l.flow == 0 && l.indent == l.spot.column
    let l ← l.dropCandidate
    let c : Candidate := ⟨l.count, required, l.spot.index, l.spot.line, l.spot.column⟩
    return { l with candidates := (l.flow, c) :: l.candidates }
  else return l

/-- Closes block collections that are indented deeper than a column. -/
def unwind (column : Int) : Nat → Lexer → Lexer
  | 0, l => l
  | fuel + 1, l =>
    if l.flow != 0 || l.indent ≤ column then l
    else
      unwind column fuel
        { l.emit .blockEnd with indent := l.outer.headD (-1), outer := l.outer.drop 1 }

/-- Closes block collections that are indented deeper than a column. -/
def unwindTo (l : Lexer) (column : Int) : Lexer := l.unwind column (l.outer.length + 1)

/-- Opens a block collection at a column if it is deeper than the innermost one. -/
def openAt (l : Lexer) (column : Nat) (place : Nat) (t : Token) : Lexer :=
  if l.indent < column then
    { l.emitAt place t with outer := l.indent :: l.outer, indent := column }
  else l

/-- Moves over the characters of a token and adds it. -/
def take (l : Lexer) (n : Nat) (t : Token) : Lexer :=
  { l.emit t with spot := l.spot.advance n }

/-! ### Blanks and comments -/

/-- Skips blanks, comments and line ends. A new line allows a key outside flow collections. -/
def skip : Nat → Lexer → Lexer
  | 0, l => l
  | fuel + 1, l =>
    let s := l.spot.skipComment
    let (b, s') := s.lineBreak
    if b.isEmpty then { l with spot := s }
    else skip fuel { l with spot := s', keyAllowed := l.keyAllowed || l.flow == 0 }

/-! ### Directives, anchors and tags -/

/-- Reads the number of a version. -/
def versionNumber (s : Spot) : Except Flaw (String × Spot) :=
  let (ds, s) := s.span Char.isDigit
  if ds.isEmpty then .error .malformed else .ok (String.ofList ds, s)

/-- Reads a tag handle: an exclamation mark, or a word between two. -/
def handle (s : Spot) : Except Flaw (String × Spot) :=
  match s.rest with
  | '!' :: ' ' :: _ => .ok ("!", s.step)
  | '!' :: cs =>
    let name := cs.takeWhile isNameChar
    match cs.drop name.length with
    | '!' :: _ => .ok (String.ofList ('!' :: name ++ ['!']), s.advance (name.length + 2))
    | _ => .error .malformed
  | _ => .error .malformed

/-- A character that stands for itself in a tag. -/
def isTagChar (c : Char) : Bool :=
  c.isAlphanum || "-;/?:@&=+$,_.!~*'()[]".toList.contains c

/-- Reads the escaped bytes of a tag. -/
def tagEscapes : Nat → List UInt8 → Spot → Except Flaw (List UInt8 × Spot)
  | 0, _, _ => .error .malformed
  | fuel + 1, done, s =>
    match s.rest with
    | '%' :: a :: b :: _ =>
      match Text.hexValue? [a, b] with
      | some n => tagEscapes fuel (done ++ [n.toUInt8]) (s.advance 3)
      | none => .error .malformed
    | '%' :: _ => .error .malformed
    | _ => .ok (done, s)

/-- Reads the characters of a tag. -/
def tagChars : Nat → List Char → Spot → Except Flaw (List Char × Spot)
  | 0, done, s => .ok (done, s)
  | fuel + 1, done, s =>
    match s.rest with
    | '%' :: _ => do
      let (bytes, s) ← tagEscapes (s.rest.length + 1) [] s
      match Text.decodeUtf8 bytes with
      | .ok text => tagChars fuel (done ++ text.toList) s
      | .error _ => .error .malformed
    | c :: _ =>
      if isTagChar c then
        let (cs, s) := s.span isTagChar
        tagChars fuel (done ++ cs) s
      else .ok (done, s)
    | [] => .ok (done, s)

/-- Reads the address of a tag, which may not be empty. -/
def address (s : Spot) : Except Flaw (String × Spot) := do
  let start := s.index
  let (cs, s) ← tagChars (s.rest.length + 1) [] s
  if s.index == start then throw .malformed
  return (String.ofList cs, s)

/-- Whether what is here may follow a directive's parameter. -/
def endsParameter (s : Spot) : Bool := endsOr (fun c => c == ' ' || isLineEnd c) s.rest

/-- Reads the parameters of a directive. -/
def parameters (name : String) (s : Spot) : Except Flaw (List String × Spot) := do
  if name == "YAML" then
    let (major, s) ← versionNumber (s.skipWhile (· == ' '))
    match s.rest with
    | '.' :: _ =>
      let (minor, s) ← versionNumber s.step
      if !endsParameter s then throw .malformed
      return ([major, minor], s)
    | _ => throw .malformed
  else if name == "TAG" then
    let (h, s) ← handle (s.skipWhile (· == ' '))
    if s.rest.head? != some ' ' then throw .malformed
    let (a, s) ← address (s.skipWhile (· == ' '))
    if !endsParameter s then throw .malformed
    return ([h, a], s)
  else return ([], s.skipWhile fun c => !isLineEnd c)

/-- Reads a directive behind its percent sign. -/
def directive (s : Spot) : Except Flaw (Token × Spot) := do
  let (name, s) := s.span isNameChar
  if name.isEmpty || !endsParameter s then throw .malformed
  let name := String.ofList name
  let (ps, s) ← parameters name s
  let s := s.skipComment
  if !s.atLineEnd then throw .malformed
  return (.directive name ps, s.lineBreak.2)

/-- Reads the name of an anchor or an alias. -/
def anchorName (s : Spot) : Except Flaw (String × Spot) :=
  let (name, s) := s.span isNameChar
  if name.isEmpty || !endsOr (fun c => isWhite c || "?:,]\x7d%@\x60".toList.contains c) s.rest then
    .error .malformed
  else .ok (String.ofList name, s)

/-- Reads a tag behind its exclamation mark; the place is that of the mark. -/
def tag (s : Spot) : Except Flaw (Token × Spot) := do
  let (t, s) ← match s.rest.drop 1 with
    | '<' :: _ => do
      let (a, s) ← address (s.advance 2)
      match s.rest with
      | '>' :: _ => pure (Token.tag none a, s.step)
      | _ => throw .malformed
    | rest =>
      if endsOr isWhite rest then pure (Token.tag none "!", s.step)
      else
        let word := rest.takeWhile fun c => !(c == ' ' || isLineEnd c)
        let (h, s) ← if word.contains '!' then handle s else pure ("!", s.step)
        let (a, s) ← address s
        pure (Token.tag (some h) a, s)
  if !endsParameter s then throw .malformed
  return (t, s)

/-! ### Tokens -/

/-- Ends all block collections in front of a directive or a mark between documents. -/
def endDocument (l : Lexer) : Except Flaw Lexer := do
  let l ← (l.unwindTo (-1)).dropCandidate
  return { l with keyAllowed := false }

/-- Opens a flow collection. -/
def openFlow (l : Lexer) (t : Token) : Except Flaw Lexer := do
  let l ← l.addCandidate
  return { l.take 1 t with flow := l.flow + 1, keyAllowed := true }

/-- Closes a flow collection. -/
def closeFlow (l : Lexer) (t : Token) : Except Flaw Lexer := do
  if l.flow == 0 then throw .malformed
  let l ← l.dropCandidate
  return { l.take 1 t with flow := l.flow - 1, keyAllowed := false }

/-- Reads the hyphen of a block sequence. -/
def blockEntry (l : Lexer) : Except Flaw Lexer := do
  if l.flow == 0 && !l.keyAllowed then throw .malformed
  let l := if l.flow == 0 then l.openAt l.spot.column l.count .blockSequenceStart else l
  let l ← l.dropCandidate
  return { l.take 1 .blockEntry with keyAllowed := true }

/-- Reads the question mark of a key. -/
def explicitKey (l : Lexer) : Except Flaw Lexer := do
  if l.flow == 0 && !l.keyAllowed then throw .malformed
  let l := if l.flow == 0 then l.openAt l.spot.column l.count .blockMappingStart else l
  let l ← l.dropCandidate
  return { l.take 1 .key with keyAllowed := l.flow == 0 }

/-- Reads the colon of a value. -/
def mappingValue (l : Lexer) : Except Flaw Lexer := do
  match l.candidates.lookup l.flow with
  | some c =>
    let l := { l with candidates := l.candidates.filter fun d => d.1 != l.flow }
    let l := l.emitAt c.tokens .key
    let l := if l.flow == 0 then l.openAt c.column c.tokens .blockMappingStart else l
    return { l.take 1 .value with keyAllowed := false }
  | none =>
    if l.flow == 0 && !l.keyAllowed then throw .malformed
    let l := if l.flow == 0 then l.openAt l.spot.column l.count .blockMappingStart else l
    return { l.take 1 .value with keyAllowed := l.flow == 0 }

/-- Adds a token that may be a key. -/
def node (l : Lexer) (r : Except Flaw (Token × Spot)) : Except Flaw Lexer := do
  let l ← l.addCandidate
  let (t, s) ← r
  return { l.emit t with spot := s, keyAllowed := false }

/-- Reads a block scalar. -/
def block (l : Lexer) (folded : Bool) : Except Flaw Lexer := do
  let l ← l.dropCandidate
  let (text, s) ← blockScalar folded l.indent l.spot.step
  return { l.emit (.scalar (String.ofList text) false) with spot := s, keyAllowed := true }

/-- Reads a scalar in quotes. -/
def quoted (double : Bool) (s : Spot) : Except Flaw (Token × Spot) := do
  let (text, s) ← quotedScalar double (s.rest.length + 1) [] s.step
  return (.scalar (String.ofList text) false, s)

/-- Reads a plain scalar. -/
def plain (l : Lexer) : Except Flaw Lexer := do
  let l ← l.addCandidate
  let p := plainScalar (l.flow != 0) (l.indent + 1) (l.spot.rest.length + 1) [] [] false l.spot
  return { l.emit (.scalar (String.ofList p.text) true) with spot := p.spot, keyAllowed := p.freshLine }

/-- Whether a plain scalar may begin here. -/
def startsPlain (inFlow : Bool) : List Char → Bool
  | [] => false
  | c :: cs =>
    !(isWhite c || "-?:,[]\x7b\x7d#&*!|>'\"%@\x60".toList.contains c) ||
      (!endsOr isWhite cs && (c == '-' || (!inFlow && (c == '?' || c == ':'))))

/-- Reads the next token; `none` at the end of the text. -/
def next (l : Lexer) : Except Flaw (Option Lexer) := do
  let l ← (l.skip (l.spot.rest.length + 1)).dropStale
  let l := l.unwindTo l.spot.column
  let named (make : String → Token) (s : Spot) : Except Flaw (Token × Spot) := do
    let (name, s) ← anchorName s
    return (make name, s)
  match l.spot.rest with
  | [] => return none
  | c :: cs =>
    let inFlow := l.flow != 0
    if c == '%' && l.spot.column == 0 then
      let l ← l.endDocument
      let (t, s) ← directive l.spot.step
      return some { l.emit t with spot := s }
    else if (c == '-' || c == '.') && l.spot.column == 0 && l.spot.atSeparator then
      let l ← l.endDocument
      return some (l.take 3 (if c == '-' then .documentStart else .documentEnd))
    else if c == '[' then return some (← l.openFlow .flowSequenceStart)
    else if c == '\x7b' then return some (← l.openFlow .flowMappingStart)
    else if c == ']' then return some (← l.closeFlow .flowSequenceEnd)
    else if c == '\x7d' then return some (← l.closeFlow .flowMappingEnd)
    else if c == ',' then
      let l ← l.dropCandidate
      return some { l.take 1 .flowEntry with keyAllowed := true }
    else if c == '-' && endsOr isWhite cs then return some (← l.blockEntry)
    else if c == '?' && (inFlow || endsOr isWhite cs) then return some (← l.explicitKey)
    else if c == ':' && (inFlow || endsOr isWhite cs) then return some (← l.mappingValue)
    else if c == '*' then return some (← l.node (named .aliasOf l.spot.step))
    else if c == '&' then return some (← l.node (named .anchor l.spot.step))
    else if c == '!' then return some (← l.node (tag l.spot))
    else if c == '|' && !inFlow then return some (← l.block false)
    else if c == '>' && !inFlow then return some (← l.block true)
    else if c == '\'' then return some (← l.node (quoted false l.spot))
    else if c == '"' then return some (← l.node (quoted true l.spot))
    else if startsPlain inFlow l.spot.rest then return some (← l.plain)
    else throw .malformed

/-- Reads all tokens. -/
def run : Nat → Lexer → Except Flaw (List Token)
  | 0, _ => .error .malformed
  | fuel + 1, l => do
    match ← l.next with
    | some l => run fuel l
    | none =>
      let l ← (l.skip (l.spot.rest.length + 1)).dropStale
      let l ← (l.unwindTo (-1)).dropCandidate
      return l.tokens.reverse

/-- Whether an escape in the text of a scalar in double quotes is for half of a surrogate pair. -/
def escapesHalfPair : List Char → Bool
  | '\\' :: c :: cs =>
    match (codeDigits? c).bind fun n => Text.hexValue? (cs.take n) with
    | some code => Text.isSurrogate code || escapesHalfPair cs
    | none => escapesHalfPair cs
  | _ :: cs => escapesHalfPair cs
  | [] => false

/-- Whether an escape for half of a surrogate pair stands in a scalar that the lexer reads. -/
def readsHalfPair : Nat → Lexer → Bool
  | 0, _ => false
  | fuel + 1, l =>
    match l.next with
    | .ok (some next) =>
      let s := (l.skip (l.spot.rest.length + 1)).spot
      let word := s.rest.take (next.spot.index - s.index)
      (word.head? == some '"' && escapesHalfPair word) || readsHalfPair fuel next
    | _ => false

end Lexer

/-- A character that may stand in a YAML text. -/
def isAllowed (c : Char) : Bool :=
  let n := c.toNat
  n == 9 || n == 10 || n == 13 || (0x20 ≤ n && n ≤ 0x7E) || n == 0x85 ||
    (0xA0 ≤ n && n ≤ 0xD7FF) || (0xE000 ≤ n && n ≤ 0xFFFD) || 0x10000 ≤ n

/-- The start of a text, behind a byte order mark. -/
def Spot.ofText (cs : List Char) : Spot :=
  let start : Spot := { rest := cs }
  if cs.head? == some '\uFEFF' then start.step else start

/-- The tokens of a YAML text. -/
def tokens (source : String) : Except Flaw (List Token) :=
  let cs := source.toList
  if !cs.all isAllowed then .error .malformed
  else Lexer.run (cs.length + 2) { spot := .ofText cs }

/-- Whether an escape in a YAML text is for half of a surrogate pair. -/
def hasHalfPair (source : String) : Bool :=
  let cs := source.toList
  Lexer.readsHalfPair (cs.length + 2) { spot := .ofText cs }

end RouteAtlas.Yaml
