import RouteAtlas.Script.Cursor
import RouteAtlas.Script.Tree

/-!
# Tokens

Words, numbers, quoted texts, regular expressions and punctuation. There is no separate list of
tokens: what a slash or a less-than sign means depends on where it stands, so each reader of the
grammar asks for the token it expects. A word is a keyword only where the grammar asks for it.
-/

namespace RouteAtlas.Script

/-! ### Words -/

/-- The length of a Unicode escape at the beginning of a text, zero if there is none. -/
def unicodeEscapeLength : List Char → Nat
  | '\\' :: 'u' :: '\x7b' :: cs =>
    let digits := cs.takeWhile fun c => (Text.hexDigit? c).isSome
    match cs.drop digits.length with
    | '\x7d' :: _ => if digits.isEmpty then 0 else digits.length + 4
    | _ => 0
  | '\\' :: 'u' :: a :: b :: c :: d :: _ =>
    if [a, b, c, d].all fun x => (Text.hexDigit? x).isSome then 6 else 0
  | _ => 0

/-- The length of the rest of a word. -/
def wordRestLength : Nat → List Char → Nat
  | 0, _ => 0
  | _, [] => 0
  | fuel + 1, c :: cs =>
    if isWordPart c then wordRestLength fuel cs + 1
    else
      let n := unicodeEscapeLength (c :: cs)
      if n == 0 then 0 else n + wordRestLength fuel ((c :: cs).drop n)

/-- The length of the word at the beginning of a text, zero if there is none. -/
def wordLength (cs : List Char) : Nat :=
  match cs with
  | [] => 0
  | c :: _ => if c.isDigit then 0 else wordRestLength cs.length cs

/-- Whether a text begins with a word. -/
def startsWord (cs : List Char) : Bool :=
  match cs with
  | [] => false
  | c :: _ => !c.isDigit && (isWordPart c || unicodeEscapeLength cs != 0)

/-- The word at the beginning of a text, empty if there is none. -/
def wordAhead (cs : List Char) : String :=
  match cs with
  | [] => ""
  | c :: _ =>
    if c.isDigit then ""
    else if c == '\\' then String.ofList (cs.take (wordLength cs))
    else
      let plain := cs.takeWhile isWordPart
      match cs.drop plain.length with
      | '\\' :: _ => String.ofList (cs.take (wordLength cs))
      | _ => String.ofList plain

/-- A word that begins a text has a length. -/
theorem wordLength_pos {cs : List Char} (h : startsWord cs = true) : 0 < wordLength cs := by
  cases cs with
  | nil => cases h
  | cons c cs =>
    simp only [startsWord, Bool.and_eq_true, Bool.not_eq_true', Bool.or_eq_true, bne_iff_ne] at h
    obtain ⟨hdigit, hfirst⟩ := h
    rw [wordLength, if_neg (by simp [hdigit]), List.length_cons, wordRestLength]
    cases hpart : isWordPart c with
    | true => simp
    | false =>
      have hescape : unicodeEscapeLength (c :: cs) ≠ 0 :=
        hfirst.resolve_left (by simp [hpart])
      simp only [Bool.false_eq_true, if_false, beq_iff_eq, hescape]
      omega

theorem wordAhead_ne_empty {cs : List Char} (h : startsWord cs = true) : wordAhead cs ≠ "" := by
  have hpos := wordLength_pos h
  cases cs with
  | nil => cases h
  | cons c cs =>
    have hdigit : c.isDigit = false := by
      simp only [startsWord, Bool.and_eq_true, Bool.not_eq_true'] at h
      exact h.1
    have htake : String.ofList ((c :: cs).take (wordLength (c :: cs))) ≠ "" := by
      obtain ⟨n, hn⟩ := Nat.exists_eq_succ_of_ne_zero (Nat.ne_of_gt hpos)
      rw [hn, List.take_succ_cons]
      simp
    rw [wordAhead, if_neg (by simp [hdigit])]
    by_cases hslash : c = '\\'
    · rw [if_pos (beq_iff_eq.mpr hslash)]
      exact htake
    · -- No escape begins here, so the first character is an ordinary one.
      have hescape : unicodeEscapeLength (c :: cs) = 0 := by
        rw [unicodeEscapeLength.eq_def]
        split
        · simp_all
        · simp_all
        · rfl
      have hpart : isWordPart c = true := by
        simpa [startsWord, hdigit, hescape] using h
      rw [if_neg (by simp [hslash])]
      simp only [List.takeWhile_cons, hpart, if_true]
      split
      · exact htake
      · simp

/-- The hexadecimal digits are ASCII characters. -/
theorem toNat_lt_of_hexDigit {c : Char} (h : (Text.hexDigit? c).isSome) : c.toNat < 128 := by
  have hbelow : ∀ {a b : Char}, (decide (a ≤ c) && decide (c ≤ b)) = true → b.toNat < 128 →
      c.toNat < 128 := fun hd hb =>
    Nat.lt_of_le_of_lt (decide_eq_true_eq.mp (Bool.and_eq_true_iff.mp hd).2) hb
  rw [Text.hexDigit?] at h
  split at h
  · rename_i hd
    exact hbelow hd (by decide)
  · split at h
    · rename_i hd
      exact hbelow hd (by decide)
    · split at h
      · rename_i hd
        exact hbelow hd (by decide)
      · cases h

/-- A hexadecimal digit is a character inside a word. -/
theorem isWordPart_of_hexDigit {c : Char} (h : (Text.hexDigit? c).isSome) :
    isWordPart c = true := by
  exact Text.of_toNat_lt (P := fun x => (Text.hexDigit? x).isSome → isWordPart x = true)
    (by decide +kernel) (toNat_lt_of_hexDigit h) h

/-- A Unicode escape is made of hexadecimal digits and of what marks it as an escape. -/
theorem mem_of_mem_escape {cs : List Char} {c : Char} (h : c ∈ cs.take (unicodeEscapeLength cs)) :
    c ∈ ['\\', 'u', '\x7b', '\x7d'] ∨ (Text.hexDigit? c).isSome = true := by
  rw [unicodeEscapeLength.eq_def] at h
  split at h
  · rename_i cs
    dsimp only at h
    split at h
    · rename_i rest hclose
      split at h
      · simp at h
      · -- In braces, with as many digits as there are.
        have hcs := List.prefix_iff_eq_append.mp
          (List.takeWhile_prefix (l := cs) fun x => (Text.hexDigit? x).isSome)
        rw [hclose] at hcs
        generalize hdigits : (cs.takeWhile fun x => (Text.hexDigit? x).isSome) = digits at h hcs
        have hc : c ∈ ['\\', 'u', '\x7b', '\x7d'] ∨ c ∈ digits := by
          rw [← hcs] at h
          simp [List.take_append, List.take_of_length_le] at h ⊢
          grind
        refine hc.imp_right fun hc => ?_
        rw [← hdigits] at hc
        exact List.all_eq_true.mp List.all_takeWhile c hc
    · simp at h
  · split at h
    · rename_i a b c' d _ _ hall
      have hc : c ∈ ['\\', 'u', '\x7b', '\x7d'] ∨ c ∈ [a, b, c', d] := by
        simp only [List.take_succ_cons, List.take_zero, List.mem_cons, List.not_mem_nil] at h ⊢
        grind
      exact hc.imp_right fun hc => List.all_eq_true.mp hall c hc
    · simp at h
  · simp at h

/-- The characters of a Unicode escape are characters of words. -/
theorem isWordChar_of_mem_escape {cs : List Char} {c : Char}
    (h : c ∈ cs.take (unicodeEscapeLength cs)) : isWordChar c = true := by
  rcases mem_of_mem_escape h with hmark | hdigit
  · have hall : ['\\', 'u', '\x7b', '\x7d'].all isWordChar = true := by decide +kernel
    exact List.all_eq_true.mp hall c hmark
  · rw [isWordChar, isWordPart_of_hexDigit hdigit]
    rfl

/-- The rest of a word is made of characters of words. -/
theorem isWordChar_of_mem_rest {fuel : Nat} {cs : List Char} {c : Char}
    (h : c ∈ cs.take (wordRestLength fuel cs)) : isWordChar c = true := by
  induction fuel generalizing cs with
  | zero => simp [wordRestLength] at h
  | succ fuel ih =>
    cases cs with
    | nil => simp at h
    | cons x cs =>
      rw [wordRestLength] at h
      split at h
      · rename_i hpart
        rcases List.mem_cons.mp h with rfl | h
        · simp [isWordChar, hpart]
        · exact ih h
      · dsimp only at h
        split at h
        · simp at h
        · rw [List.take_add] at h
          rcases List.mem_append.mp h with h | h
          · exact isWordChar_of_mem_escape h
          · exact ih h

theorem isWordChar_of_mem_wordAhead {cs : List Char} {c : Char}
    (h : c ∈ (wordAhead cs).toList) : isWordChar c = true := by
  have htake : ∀ {cs : List Char}, c ∈ cs.take (wordLength cs) → isWordChar c = true := by
    intro cs hc
    rw [wordLength.eq_def] at hc
    split at hc
    · simp at hc
    · split at hc
      · simp at hc
      · exact isWordChar_of_mem_rest hc
  rw [wordAhead.eq_def] at h
  split at h
  · simp at h
  · rename_i x xs
    split at h
    · simp at h
    · split at h
      · rw [String.toList_ofList] at h
        exact htake h
      · dsimp only at h
        split at h
        · rw [String.toList_ofList] at h
          exact htake h
        · rw [String.toList_ofList] at h
          rw [isWordChar, List.all_eq_true.mp List.all_takeWhile c h]
          rfl

namespace Reader

/-- Reads a word. -/
def word : Reader Word := do
  let cs ← ahead
  if h : startsWord cs then
    pass (wordAhead cs).length
    return ⟨wordAhead cs, wordAhead_ne_empty h, fun _ => isWordChar_of_mem_wordAhead⟩
  else fail

/-- The word at the cursor, empty if there is none. -/
def nextWord : Reader String := do
  return wordAhead (← ahead)

/-- Reads a given word. -/
def keyword (name : String) : Reader Unit := do
  if (← nextWord) == name then pass name.length else fail

/-- Reads a given word if it is there, and says whether it was. -/
def optionalKeyword (name : String) : Reader Bool := do
  if (← nextWord) == name then
    pass name.length
    return true
  else return false

/-! ### Punctuation -/

/-- Reads a single character that is a token by itself. -/
def mark (c : Char) : Reader Unit := do
  match ← ahead with
  | x :: _ => if x == c then pass 1 else fail
  | [] => fail

/-- Whether the next character is a given one. -/
def atMark (c : Char) : Reader Bool := do
  match ← ahead with
  | x :: _ => return x == c
  | [] => return false

/-- Reads a single character if it is there, and says whether it was. -/
def optionalMark (c : Char) : Reader Bool := do
  if ← atMark c then
    pass 1
    return true
  else return false

end Reader

/-- Operators of several characters, longer ones first. -/
def longOperators : List (List Char) :=
  [">>>=", "...", "===", "!==", "**=", "<<=", ">>=", ">>>", "&&=", "||=", "??=", "=>", "==", "!=",
    "<=", ">=", "&&", "||", "??", "?.", "++", "--", "+=", "-=", "*=", "/=", "%=", "&=", "|=", "^=",
    "<<", ">>", "**"].map String.toList

/-- Characters that operators begin with. -/
def operatorStarts : List Char := "=!<>&|?+-*/%^.~".toList

/-- The operator at the beginning of a text, empty if there is none. The longest one counts. -/
def operatorAhead (cs : List Char) : String :=
  match cs with
  | [] => ""
  | c :: _ =>
    if operatorStarts.contains c then
      match longOperators.find? fun op => op.isPrefixOf cs with
      | some op => String.ofList op
      | none => c.toString
    else ""

namespace Reader

/-- The operator at the cursor, empty if there is none. -/
def nextOperator : Reader String := do
  return operatorAhead (← ahead)

/-- Reads a given operator. -/
def operator (op : String) : Reader Unit := do
  if (← nextOperator) == op then pass op.length else fail

/-- Reads a given operator if it is there, and says whether it was. -/
def optionalOperator (op : String) : Reader Bool := do
  if (← nextOperator) == op then
    pass op.length
    return true
  else return false

end Reader

/-! ### Quoted texts -/

/-- The length of an escape at the beginning of a text, zero if it is not complete. -/
def escapeLength : List Char → Nat
  | '\\' :: 'x' :: a :: b :: _ =>
    if (Text.hexDigit? a).isSome && (Text.hexDigit? b).isSome then 4 else 0
  | '\\' :: 'u' :: cs => unicodeEscapeLength ('\\' :: 'u' :: cs)
  | '\\' :: 'x' :: _ => 0
  | '\\' :: '\r' :: '\n' :: _ => 3
  | '\\' :: _ :: _ => 2
  | _ => 0

/-- The length of the inside of a quoted text, `none` if it is not closed on its line. -/
def quotedLength? (mark : Char) : Nat → List Char → Option Nat
  | 0, _ => none
  | _, [] => none
  | fuel + 1, c :: cs =>
    if c == mark then some 0
    else if c == '\n' || c == '\r' then none
    else if c == '\\' then
      let n := escapeLength (c :: cs)
      if n == 0 then none else (quotedLength? mark fuel ((c :: cs).drop n)).map (n + ·)
    else (quotedLength? mark fuel cs).map (1 + ·)

namespace Reader

/-- Reads a quoted text. -/
def quoted : Reader String := do
  match ← ahead with
  | c :: cs =>
    if c == '\'' || c == '"' then
      match quotedLength? c (cs.length + 1) cs with
      | some n =>
        pass (n + 2)
        return String.ofList (cs.take n)
      | none => fail
    else fail
  | [] => fail

end Reader

/-- Whether a text begins with a quotation mark. -/
def startsQuoted : List Char → Bool
  | c :: _ => c == '\'' || c == '"'
  | [] => false

/-! ### Numbers -/

/-- The length of a run of digits of a class with single underscores between them. -/
def digitRun (isDigit : Char → Bool) : List Char → Nat
  | [] => 0
  | '_' :: c :: cs => if isDigit c then digitRun isDigit cs + 2 else 0
  | c :: cs => if isDigit c then digitRun isDigit cs + 1 else 0

/-- The length of a run that begins with a digit. -/
def digitsLength (isDigit : Char → Bool) (cs : List Char) : Nat :=
  match cs with
  | c :: _ => if isDigit c then digitRun isDigit cs else 0
  | [] => 0

/-- The length of an exponent, zero if there is none. -/
def exponentLength (cs : List Char) : Nat :=
  match cs with
  | e :: cs =>
    if e == 'e' || e == 'E' then
      let (signed, digits) : Nat × List Char := match cs with
        | '+' :: ds => (1, ds)
        | '-' :: ds => (1, ds)
        | ds => (0, ds)
      let n := digitsLength Char.isDigit digits
      if n == 0 then 0 else n + signed + 1
    else 0
  | [] => 0

/-- The length of a number with a base mark, zero if there is none. -/
def basedLength (cs : List Char) : Nat :=
  let go (isDigit : Char → Bool) (ds : List Char) : Nat :=
    let n := digitsLength isDigit ds
    if n == 0 then 0
    else
      match ds.drop n with
      | 'n' :: _ => n + 3
      | _ => n + 2
  match cs with
  | '0' :: b :: ds =>
    if b == 'x' || b == 'X' then go (fun c => (Text.hexDigit? c).isSome) ds
    else if b == 'o' || b == 'O' then go (fun c => '0' ≤ c && c ≤ '7') ds
    else if b == 'b' || b == 'B' then go (fun c => c == '0' || c == '1') ds
    else 0
  | _ => 0

/-- Whether digits may stand in front of a point or an exponent: a zero alone, or digits with at
most one zero in front. -/
def isWholePart (cs : List Char) : Bool :=
  match cs with
  | ['0'] => true
  | '0' :: c :: _ => c != '0' && c != '_'
  | _ => true

/-- The length of a decimal number, zero if there is none. -/
def decimalLength (cs : List Char) : Nat :=
  match cs with
  | '.' :: ds =>
    let n := digitsLength Char.isDigit ds
    if n == 0 then 0 else 1 + n + exponentLength (ds.drop n)
  | _ =>
    let n := digitsLength Char.isDigit cs
    if n == 0 then 0
    else
      match cs.drop n with
      | 'n' :: _ => n + 1
      | '.' :: ds =>
        if isWholePart (cs.take n) then
          let m := digitsLength Char.isDigit ds
          n + 1 + m + exponentLength (ds.drop m)
        else n
      | rest => if isWholePart (cs.take n) then n + exponentLength rest else n

/-- The length of a number, zero if there is none. -/
def numberLength (cs : List Char) : Nat :=
  let n := basedLength cs
  if n == 0 then decimalLength cs else n

/-- Whether a text begins with a number. -/
def startsNumber : List Char → Bool
  | '.' :: c :: _ => c.isDigit
  | c :: _ => c.isDigit
  | [] => false

namespace Reader

/-- Reads a number as it is written. -/
def number : Reader String := do
  let cs ← ahead
  let n := numberLength cs
  if n == 0 then fail
  else
    pass n
    return String.ofList (cs.take n)

end Reader

/-! ### Regular expressions -/

/-- The length of a regular expression between its slashes, `none` if it is not closed on its
line. A slash inside a character class does not close it. -/
def patternLength? (inClass : Bool) : List Char → Option Nat
  | [] => none
  | '\\' :: c :: cs => if c == '\n' then none else (patternLength? inClass cs).map (2 + ·)
  | c :: cs =>
    if c == '\n' then none
    else if c == '/' && !inClass then some 0
    else if c == '[' then (patternLength? true cs).map (1 + ·)
    else if c == ']' then (patternLength? false cs).map (1 + ·)
    else (patternLength? inClass cs).map (1 + ·)

namespace Reader

/-- Reads a regular expression with its flags. -/
def regularExpression : Reader Unit := do
  match ← ahead with
  | '/' :: cs =>
    match patternLength? false cs with
    | some n =>
      if n == 0 then fail
      else
        let flags := ((cs.drop (n + 1)).takeWhile fun c => 'a' ≤ c && c ≤ 'z').length
        pass (n + 2 + flags)
    | none => fail
  | _ => fail

/-! ### The end of a statement -/

end Reader

/-- Whether the text goes on with a word after which no letter follows. -/
def startsOperatorWord (name : String) (cs : List Char) : Bool :=
  match Text.after? name.toList cs with
  | some (c :: _) => !(c.isAlpha || 128 ≤ c.toNat)
  | some [] => true
  | none => false

/-- Whether a semicolon may be left out at a place: at the end of the text, before a closing brace,
and at a line end unless the next line goes on with something that continues the statement. Inside
an expression a bracket continues it. -/
def endsStatement (inExpression : Bool) (c : Cursor) : Bool :=
  match c.rest with
  | [] => true
  | x :: xs =>
    if x == '\x7d' then true
    else if !c.freshLine then false
    else if "\x60,.;*%><=?^|&/:".toList.contains x then false
    else if x == '(' || x == '[' then !inExpression
    else if x == '+' then xs.head? == some '+'
    else if x == '-' then xs.head? == some '-'
    else if x == '!' then xs.head? != some '='
    else
      !(startsOperatorWord "in" c.rest || startsOperatorWord "instanceof" c.rest)

namespace Reader

/-- Reads the end of a statement: a semicolon, or nothing where it may be left out. -/
def statementEnd (inExpression : Bool) : Reader Unit := do
  if ← optionalMark ';' then return
  guard (endsStatement inExpression (← here))

end Reader

end RouteAtlas.Script
