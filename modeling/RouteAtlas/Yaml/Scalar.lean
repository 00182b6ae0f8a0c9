import RouteAtlas.Yaml.Token

/-!
# Scalars in YAML texts

The three ways to write a scalar over one or several lines: plain, in quotes, and as a block. Each
reader takes the place where the scalar begins and gives its text and the place behind it. Inside a
scalar a single line end stands for a blank and further line ends for themselves.
-/

namespace RouteAtlas.Yaml

/-- The text for a run of line ends: a first plain line end is a blank if no other follows. -/
def foldBreaks (first : List Char) (more : List Char) : List Char :=
  if first != ['\n'] then first ++ more
  else if more.isEmpty then [' ']
  else more

/-! ### Plain scalars -/

/-- The number of characters of a plain scalar up to the next gap or indicator. -/
def plainLength (inFlow : Bool) : List Char → Nat
  | [] => 0
  | c :: cs =>
    if isWhite c then 0
    else if c == ':' && endsOr (fun d => isWhite d || (inFlow && ",[]\x7b\x7d".toList.contains d)) cs
    then 0
    else if inFlow && ",?[]\x7b\x7d".toList.contains c then 0
    else plainLength inFlow cs + 1

/-- The line ends after the first one in a plain scalar; `none` if a mark between documents comes.
The first component collects what the line ends stand for. -/
def plainBreaks : Nat → List Char → Spot → Option (List Char) × Spot
  | 0, done, s => (some done, s)
  | fuel + 1, done, s =>
    match s.rest with
    | [] => (some done, s)
    | c :: _ =>
      if c == ' ' then plainBreaks fuel done s.step
      else if isLineEnd c then
        let (b, s) := s.lineBreak
        if s.atSeparator then (none, s) else plainBreaks fuel (done ++ b) s
      else (some done, s)

/-- What a gap inside a plain scalar stands for, the place behind it, and whether a line end was in
it. Nothing is left if the scalar ends here. -/
def plainGap (s : Spot) : List Char × Spot × Bool :=
  let (blanks, s) := s.span (· == ' ')
  if s.rest.isEmpty || !s.atLineEnd then (blanks, s, false)
  else
    let (first, s) := s.lineBreak
    if s.atSeparator then ([], s, true)
    else
      match plainBreaks s.rest.length [] s with
      | (some more, s) => (foldBreaks first more, s, true)
      | (none, s) => ([], s, true)

/-- A plain scalar that has been read: its text, the place behind it, and whether a line end was the
last thing before that place. -/
structure PlainScalar where
  /-- The text. -/
  text : List Char
  /-- The place behind it. -/
  spot : Spot
  /-- Whether a line end stands before that place. -/
  freshLine : Bool

/-- Reads a plain scalar whose further lines are indented at least as given. -/
def plainScalar (inFlow : Bool) (indent : Int) :
    Nat → List Char → List Char → Bool → Spot → PlainScalar
  | 0, done, _, fresh, s => ⟨done, s, fresh⟩
  | fuel + 1, done, gap, fresh, s =>
    if s.rest.head? == some '#' then ⟨done, s, fresh⟩
    else
      let n := plainLength inFlow s.rest
      if n == 0 then ⟨done, s, fresh⟩
      else
        let done := done ++ gap ++ s.rest.take n
        let (gap, s, fresh) := plainGap (s.advance n)
        if gap.isEmpty || s.rest.head? == some '#' || (!inFlow && (s.column : Int) < indent) then
          ⟨done, s, fresh⟩
        else plainScalar inFlow indent fuel done gap fresh s

/-! ### Quoted scalars -/

/-- Line ends inside quotes; a mark between documents may not come. -/
def quotedBreaks : Nat → List Char → Spot → Except Flaw (List Char × Spot)
  | 0, _, _ => .error .malformed
  | fuel + 1, done, s =>
    if s.atSeparator then .error .malformed
    else
      let s := s.skipWhile fun c => c == ' ' || c == '\t'
      if !s.rest.isEmpty && s.atLineEnd then
        let (b, s) := s.lineBreak
        quotedBreaks fuel (done ++ b) s
      else .ok (done, s)

/-- What a gap inside quotes stands for. -/
def quotedGap (s : Spot) : Except Flaw (List Char × Spot) :=
  let (blanks, s) := s.span fun c => c == ' ' || c == '\t'
  if s.rest.isEmpty then .error .malformed
  else if s.atLineEnd then do
    let (first, s) := s.lineBreak
    let (more, s) ← quotedBreaks (s.rest.length + 1) [] s
    return (foldBreaks first more, s)
  else .ok (blanks, s)

/-- Characters written by an escape of one letter. -/
def letterEscape? (c : Char) : Option Char :=
  match c with
  | '0' => some '\x00'
  | 'a' => some '\x07'
  | 'b' => some '\x08'
  | 't' => some '\t'
  | '\t' => some '\t'
  | 'n' => some '\n'
  | 'v' => some '\x0b'
  | 'f' => some '\x0c'
  | 'r' => some '\r'
  | 'e' => some '\x1b'
  | ' ' => some ' '
  | '"' => some '"'
  | '\\' => some '\\'
  | '/' => some '/'
  | 'N' => some '\x85'
  | '_' => some '\xa0'
  | 'L' => some '\u2028'
  | 'P' => some '\u2029'
  | _ => none

/-- The number of digits of an escape by number. -/
def codeDigits? (c : Char) : Option Nat :=
  match c with
  | 'x' => some 2
  | 'u' => some 4
  | 'U' => some 8
  | _ => none

/-- The character of an escape, behind its backslash; half of a surrogate pair is replaced. -/
def escape (s : Spot) : Except Flaw (List Char × Spot) :=
  match s.rest with
  | [] => .error .malformed
  | c :: cs =>
    match letterEscape? c with
    | some d => .ok ([d], s.step)
    | none =>
      match codeDigits? c with
      | some n =>
        let digits := cs.take n
        if digits.length < n then .error .malformed
        else
          match Text.hexValue? digits with
          | none => .error .malformed
          | some code =>
            if code < 0x110000 then .ok ([Text.charOfCode code], s.advance (n + 1))
            else if code < 0x80000000 then .error .noCharacter
            else .error .hugeCharacter
      | none =>
        if isLineEnd c then do
          let (_, s) := s.lineBreak
          quotedBreaks (s.rest.length + 1) [] s
        else .error .malformed

/-- Characters that end a run inside quotes. -/
def isQuotedStop (c : Char) : Bool := c == '\'' || c == '"' || c == '\\' || isWhite c

/-- Reads a scalar in quotes, behind the opening one. -/
def quotedScalar (double : Bool) : Nat → List Char → Spot → Except Flaw (List Char × Spot)
  | 0, _, _ => .error .malformed
  | fuel + 1, done, s =>
    match s.rest with
    | [] => .error .malformed
    | c :: cs =>
      if !isQuotedStop c then
        let (run, s) := s.span fun d => !isQuotedStop d
        quotedScalar double fuel (done ++ run) s
      else if !double && c == '\'' && cs.head? == some '\'' then
        quotedScalar double fuel (done ++ ['\'']) (s.advance 2)
      else if c == (if double then '"' else '\'') then .ok (done, s.step)
      else if double && c == '\\' then
        match escape s.step with
        | .ok (text, s) => quotedScalar double fuel (done ++ text) s
        | .error f => .error f
      else if c == '\'' || c == '"' || c == '\\' then
        quotedScalar double fuel (done ++ [c]) s.step
      else
        match quotedGap s with
        | .ok (text, s) => quotedScalar double fuel (done ++ text) s
        | .error f => .error f

/-! ### Block scalars -/

/-- What happens to the line ends at the end of a block. -/
inductive Chomping
  | strip | clip | keep
deriving DecidableEq

/-- The header of a block: chomping and, if given, the indentation. -/
def blockHeader (s : Spot) : Except Flaw (Chomping × Option Nat × Spot) := do
  let chomp (c : Char) : Option Chomping :=
    if c == '+' then some .keep else if c == '-' then some .strip else none
  let digit (c : Char) : Option Nat := if c.isDigit then some (c.toNat - 48) else none
  let (chomping, increment, s) : Chomping × Option Nat × Spot :=
    match s.rest with
    | c :: cs =>
      match chomp c with
      | some k =>
        match cs.head?.bind digit with
        | some n => (k, some n, s.advance 2)
        | none => (k, none, s.step)
      | none =>
        match digit c with
        | some n =>
          match cs.head?.bind chomp with
          | some k => (k, some n, s.advance 2)
          | none => (.clip, some n, s.step)
        | none => (.clip, none, s)
    | [] => (.clip, none, s)
  if increment == some 0 then throw .malformed
  if !endsOr (fun c => c == ' ' || isLineEnd c) s.rest then throw .malformed
  let s := s.skipComment
  if !s.atLineEnd then throw .malformed
  return (chomping, increment, s.lineBreak.2)

/-- Leading blank lines of a block, and the deepest indentation among them. -/
def blockIndentation : Nat → List Char → Nat → Spot → List Char × Nat × Spot
  | 0, done, deepest, s => (done, deepest, s)
  | fuel + 1, done, deepest, s =>
    match s.rest with
    | [] => (done, deepest, s)
    | c :: _ =>
      if c == ' ' then
        let s := s.step
        blockIndentation fuel done (max deepest s.column) s
      else if isLineEnd c then
        let (b, s) := s.lineBreak
        blockIndentation fuel (done ++ b) deepest s
      else (done, deepest, s)

/-- Skips blanks up to an indentation. -/
def skipIndent (indent : Nat) (s : Spot) : Spot :=
  s.advance ((s.rest.take (indent - s.column)).takeWhile (· == ' ')).length

/-- Blank lines inside a block. -/
def blockBreaks (indent : Nat) : Nat → List Char → Spot → List Char × Spot
  | 0, done, s => (done, s)
  | fuel + 1, done, s =>
    let s := skipIndent indent s
    if !s.rest.isEmpty && s.atLineEnd then
      let (b, s) := s.lineBreak
      blockBreaks indent fuel (done ++ b) s
    else (done, s)

/-- The lines of a block: the text so far, the last line end, the blank lines behind it, and the
place. -/
def blockLines (folded : Bool) (indent : Nat) :
    Nat → List Char → List Char → List Char → Spot → List Char × List Char × List Char × Spot
  | 0, done, last, breaks, s => (done, last, breaks, s)
  | fuel + 1, done, last, breaks, s =>
    if s.column != indent || s.rest.isEmpty then (done, last, breaks, s)
    else
      let startsText := !endsOr (fun c => c == ' ' || c == '\t') s.rest
      let (line, s) := s.span fun c => !isLineEnd c
      let done := done ++ breaks ++ line
      let (last, s) := s.lineBreak
      let (breaks, s) := blockBreaks indent (s.rest.length + 1) [] s
      if s.column == indent && !s.rest.isEmpty then
        let goesOn := !endsOr (fun c => c == ' ' || c == '\t') s.rest
        let between :=
          if folded && last == ['\n'] && startsText && goesOn then
            if breaks.isEmpty then [' '] else []
          else last
        blockLines folded indent fuel (done ++ between) last breaks s
      else (done, last, breaks, s)

/-- Reads a block scalar behind its indicator, inside a collection of the given indentation. -/
def blockScalar (folded : Bool) (outer : Int) (s : Spot) : Except Flaw (List Char × Spot) := do
  let (chomping, increment, s) ← blockHeader s
  let least : Nat := (max (outer + 1) 1).toNat
  let (breaks, indent, s) : List Char × Nat × Spot :=
    match increment with
    | none =>
      let (breaks, deepest, s) := blockIndentation (s.rest.length + 1) [] 0 s
      (breaks, max least deepest, s)
    | some n =>
      let indent := least + n - 1
      let (breaks, s) := blockBreaks indent (s.rest.length + 1) [] s
      (breaks, indent, s)
  let (text, last, breaks, s) := blockLines folded indent (s.rest.length + 1) [] [] breaks s
  let text := match chomping with
    | .strip => text
    | .clip => text ++ last
    | .keep => text ++ last ++ breaks
  return (text, s)

end RouteAtlas.Yaml
