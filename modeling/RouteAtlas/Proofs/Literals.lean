import RouteAtlas.Proofs.Script.Calling
import RouteAtlas.Proofs.Yaml.Quoted
import RouteAtlas.Route.Extract

/-!
# Paths written as literals

A route path is written as a string literal, and the request handler is registered for the value
of the literal. `Denotes mark body us` says that what stands between the marks of a literal has the
value with the UTF-16 code units `us`, by the lexical grammar of string literals: characters that
stand for themselves, and escapes (`IsEscape`), among them line ends that stand for nothing.

Every literal is read to its end (`Denotes.quotedLength?_eq`), so a registration with a literal path
gives exactly one route (`extractRoutes_registrationText`). Its path is what is written between the
marks. That is the value exactly if there is no escape (`exists_extractRoutes_literal`), because
every escape is written with more code units than it stands for (`IsEscape.length_lt`).
-/

namespace RouteAtlas.Script

/-! ### UTF-16 -/

/-- The UTF-16 code units of a code point. -/
def codeUnits (n : Nat) : List Nat :=
  if n < 0x10000 then [n] else [0xD800 + (n - 0x10000) / 0x400, 0xDC00 + (n - 0x10000) % 0x400]

/-- The UTF-16 code units of a text. -/
def utf16 (cs : List Char) : List Nat :=
  cs.flatMap fun c => codeUnits c.toNat

theorem length_codeUnits (n : Nat) : (codeUnits n).length = 1 ∨ (codeUnits n).length = 2 := by
  rw [codeUnits]
  split
  · exact .inl rfl
  · exact .inr rfl

theorem utf16_cons (c : Char) (cs : List Char) : utf16 (c :: cs) = codeUnits c.toNat ++ utf16 cs :=
  List.flatMap_cons

theorem utf16_append (cs ds : List Char) : utf16 (cs ++ ds) = utf16 cs ++ utf16 ds :=
  List.flatMap_append

theorem length_le_length_utf16 (cs : List Char) : cs.length ≤ (utf16 cs).length := by
  induction cs with
  | nil => exact Nat.le_refl 0
  | cons c cs ih =>
    have hc := length_codeUnits c.toNat
    rw [utf16_cons, List.length_append, List.length_cons]
    omega

/-! ### What a literal stands for -/

/-- The letters and marks that stand for one character behind a backslash. -/
def singleEscapes : List (Char × Nat) :=
  [('b', 0x08), ('t', 0x09), ('n', 0x0A), ('v', 0x0B), ('f', 0x0C), ('r', 0x0D), ('"', 0x22),
    ('\'', 0x27), ('\\', 0x5C)]

/-- A digit of an octal number. -/
def isOctalDigit (c : Char) : Bool :=
  '0' ≤ c && c ≤ '7'

/-- The number that octal digits write. -/
def octalValue (ds : List Char) : Nat :=
  ds.foldl (fun n d => n * 8 + (d.toNat - 48)) 0

/-- What stands behind a backslash in front of a given character, and the code units it stands
for. -/
inductive IsEscape (next : Char) : List Char → List Nat → Prop
  /-- A letter or mark with a meaning of its own. -/
  | single {c : Char} {n : Nat} (h : (c, n) ∈ singleEscapes) : IsEscape next [c] [n]
  /-- Any other character stands for itself. -/
  | self {c : Char} (hsingle : c ∉ singleEscapes.map Prod.fst) (hdigit : c.isDigit = false)
    (hx : c ≠ 'x') (hu : c ≠ 'u') (hline : isLineEnd c = false) :
    IsEscape next [c] (codeUnits c.toNat)
  /-- As many octal digits as write a number below 256, three at most. -/
  | octal {d : Char} {ds : List Char} (hdigits : ∀ x ∈ d :: ds, isOctalDigit x = true)
    (hsmall : octalValue (d :: ds) < 256) (hshort : ds.length ≤ 2)
    (hlast : ds.length = 2 ∨ isOctalDigit next = false ∨ 256 ≤ octalValue (d :: (ds ++ [next]))) :
    IsEscape next (d :: ds) [octalValue (d :: ds)]
  /-- The other digits stand for themselves. -/
  | digit {c : Char} (hdigit : c.isDigit = true) (hoctal : isOctalDigit c = false) :
    IsEscape next [c] [c.toNat]
  /-- Two hexadecimal digits. -/
  | byte {a b : Char} {n : Nat} (h : Text.hexValue? [a, b] = some n) :
    IsEscape next ['x', a, b] [n]
  /-- Four hexadecimal digits write a code unit. -/
  | unit {a b c d : Char} {n : Nat} (h : Text.hexValue? [a, b, c, d] = some n) :
    IsEscape next ['u', a, b, c, d] [n]
  /-- Hexadecimal digits in braces write a code point. -/
  | codePoint {ds : List Char} {n : Nat} (hne : ds ≠ []) (h : Text.hexValue? ds = some n)
    (hn : n < 0x110000) : IsEscape next ('u' :: '\x7b' :: (ds ++ ['\x7d'])) (codeUnits n)
  /-- A line end stands for nothing. -/
  | lineEnd {c : Char} (hline : isLineEnd c = true) (hpair : c = '\r' → next ≠ '\n') :
    IsEscape next [c] []
  /-- So does a line end of two characters. -/
  | lineEnds : IsEscape next ['\r', '\n'] []

/-- A character that stands for itself between two marks. -/
def isOrdinary (mark c : Char) : Bool :=
  c != mark && c != '\\' && c != '\n' && c != '\r'

/-- What stands between the marks of a literal, and the code units of its value. -/
inductive Denotes (mark : Char) : List Char → List Nat → Prop
  /-- An empty literal. -/
  | nil : Denotes mark [] []
  /-- A character that stands for itself. -/
  | ordinary {c : Char} {body : List Char} {us : List Nat} (hc : isOrdinary mark c = true)
    (hbody : Denotes mark body us) : Denotes mark (c :: body) (codeUnits c.toNat ++ us)
  /-- An escape. -/
  | escape {text body : List Char} {vs us : List Nat} (htext : IsEscape (body.headD mark) text vs)
    (hbody : Denotes mark body us) : Denotes mark ('\\' :: (text ++ body)) (vs ++ us)

/-! ### How much of a literal is read -/

theorem escapeLength_of_ne {c : Char} {tail : List Char} (hx : c ≠ 'x') (hu : c ≠ 'u')
    (hpair : c = '\r' → tail.head? ≠ some '\n') : escapeLength ('\\' :: c :: tail) = 2 := by
  rw [escapeLength.eq_def]
  split
  · rename_i heq
    exact absurd (List.cons.inj (List.cons.inj heq).2).1 hx
  · rename_i heq
    exact absurd (List.cons.inj (List.cons.inj heq).2).1 hu
  · rename_i heq
    exact absurd (List.cons.inj (List.cons.inj heq).2).1 hx
  · rename_i heq
    obtain ⟨rfl, rfl⟩ := List.cons.inj (List.cons.inj heq).2
    exact absurd rfl (hpair rfl)
  · rfl
  · rename_i hnone
    exact absurd rfl (hnone c tail)

theorem unicodeEscapeLength_digits {a b c d : Char}
    (hall : ∀ x ∈ [a, b, c, d], (Text.hexDigit? x).isSome = true) (tail : List Char) :
    unicodeEscapeLength ('\\' :: 'u' :: a :: b :: c :: d :: tail) = 6 := by
  have ha : a ≠ '\x7b' := by
    rintro rfl
    exact absurd (hall _ List.mem_cons_self) (by decide)
  rw [unicodeEscapeLength.eq_def]
  split
  · rename_i heq
    exact absurd (List.cons.inj (List.cons.inj (List.cons.inj heq).2).2).1 ha
  · rename_i heq
    cases heq
    rw [if_pos (List.all_eq_true.mpr hall)]
  · rename_i hnone
    exact absurd rfl (hnone a b c d tail)

theorem unicodeEscapeLength_braces {ds : List Char} (hne : ds ≠ [])
    (hall : ∀ x ∈ ds, (Text.hexDigit? x).isSome = true) (tail : List Char) :
    unicodeEscapeLength ('\\' :: 'u' :: '\x7b' :: (ds ++ '\x7d' :: tail)) = ds.length + 4 := by
  have hdigits : (ds ++ '\x7d' :: tail).takeWhile (fun c => (Text.hexDigit? c).isSome) = ds := by
    have hbrace : (Text.hexDigit? '\x7d').isSome = false := by decide
    rw [List.takeWhile_append_of_pos hall, List.takeWhile_cons, hbrace]
    exact List.append_nil ds
  rw [unicodeEscapeLength, hdigits, List.drop_left, if_neg (by simpa using hne)]
  rfl

namespace IsEscape

variable {next : Char} {text tail : List Char} {us : List Nat}

/-- An escape is as long as the reader takes it to be, but for octal digits behind the first. -/
theorem exists_escapeLength (h : IsEscape next text us) (htail : tail.head? = some next) :
    ∃ front digits, text = front ++ digits ∧ front ≠ [] ∧
      (∀ d ∈ digits, isOctalDigit d = true) ∧ escapeLength ('\\' :: (text ++ tail)) =
        front.length + 1 := by
  have hnone : ∀ d ∈ ([] : List Char), isOctalDigit d = true := fun d hd => nomatch hd
  cases h with
  | @single c n h =>
    have hall : ∀ p ∈ singleEscapes, p.1 ≠ 'x' ∧ p.1 ≠ 'u' ∧ p.1 ≠ '\r' := by decide
    obtain ⟨hx, hu, hline⟩ := hall _ h
    exact ⟨[c], [], rfl, List.cons_ne_nil _ _, hnone,
      escapeLength_of_ne hx hu fun h => absurd h hline⟩
  | @self c hsingle hdigit hx hu hline =>
    refine ⟨[c], [], rfl, List.cons_ne_nil _ _, hnone, escapeLength_of_ne hx hu fun h => ?_⟩
    exact absurd (h ▸ hline) (by decide)
  | @octal d ds hdigits hsmall hshort hlast =>
    -- The reader takes the first digit with the backslash, and the others as characters.
    have hd := hdigits d List.mem_cons_self
    have hne (x : Char) (hx : isOctalDigit x = false) : d ≠ x :=
      ne_of_apply_ne isOctalDigit (by rw [hd, hx]; decide)
    exact ⟨[d], ds, rfl, List.cons_ne_nil _ _, fun x hx => hdigits x (List.mem_cons_of_mem d hx),
      escapeLength_of_ne (hne 'x' rfl) (hne 'u' rfl) fun h => absurd h (hne '\r' rfl)⟩
  | @digit c hdigit hoctal =>
    have hne (x : Char) (hx : x.isDigit = false) : c ≠ x :=
      ne_of_apply_ne Char.isDigit (by rw [hdigit, hx]; decide)
    exact ⟨[c], [], rfl, List.cons_ne_nil _ _, hnone,
      escapeLength_of_ne (hne 'x' rfl) (hne 'u' rfl) fun h => absurd h (hne '\r' rfl)⟩
  | @byte a b n h =>
    have hall := Yaml.hexDigit?_isSome_of_hexValue? h
    refine ⟨['x', a, b], [], rfl, List.cons_ne_nil _ _, hnone, ?_⟩
    show (if _ then 4 else 0) = 4
    rw [hall a (by simp), hall b (by simp)]
    rfl
  | @unit a b c d n h =>
    have hall := Yaml.hexDigit?_isSome_of_hexValue? h
    exact ⟨['u', a, b, c, d], [], rfl, List.cons_ne_nil _ _, hnone,
      unicodeEscapeLength_digits hall tail⟩
  | @codePoint ds n hne h hn =>
    have hall := Yaml.hexDigit?_isSome_of_hexValue? h
    refine ⟨'u' :: '\x7b' :: (ds ++ ['\x7d']), [], by rw [List.append_nil],
      List.cons_ne_nil _ _, hnone, ?_⟩
    have htext : '\\' :: ('u' :: '\x7b' :: (ds ++ ['\x7d']) ++ tail) =
        '\\' :: 'u' :: '\x7b' :: (ds ++ '\x7d' :: tail) := by simp
    rw [htext, List.length_cons, List.length_cons, List.length_append]
    exact unicodeEscapeLength_braces hne hall tail
  | @lineEnd c hline hpair =>
    have hne (x : Char) (hx : isLineEnd x = false) : c ≠ x :=
      ne_of_apply_ne isLineEnd (by rw [hline, hx]; decide)
    have hnext : c = '\r' → tail.head? ≠ some '\n' := by
      rw [htail]
      simpa using hpair
    exact ⟨[c], [], rfl, List.cons_ne_nil _ _, hnone,
      escapeLength_of_ne (hne 'x' rfl) (hne 'u' rfl) hnext⟩
  | lineEnds => exact ⟨['\r', '\n'], [], rfl, List.cons_ne_nil _ _, hnone, rfl⟩

/-- An escape is spelled with more code units than it stands for. -/
theorem length_lt (h : IsEscape next text us) : us.length < (utf16 ('\\' :: text)).length := by
  have hlength := length_le_length_utf16 ('\\' :: text)
  rw [List.length_cons] at hlength
  cases h with
  | @self c hsingle hdigit hx hu hline =>
    have hslash : (codeUnits '\\'.toNat).length = 1 := by decide
    rw [utf16_cons, utf16_cons, List.length_append, List.length_append, hslash]
    omega
  | @codePoint ds n hne h hn =>
    have hn := length_codeUnits n
    simp only [List.length_cons, List.length_append] at hlength
    omega
  | _ =>
    simp only [List.length_cons, List.length_nil] at hlength ⊢
    omega

end IsEscape

section

variable {mark c : Char} {fuel : Nat}

theorem quotedLength?_cons (hc : isOrdinary mark c = true) (cs : List Char) :
    quotedLength? mark (fuel + 1) (c :: cs) = (quotedLength? mark fuel cs).map (1 + ·) := by
  simp only [isOrdinary, Bool.and_eq_true, bne_iff_ne] at hc
  obtain ⟨⟨⟨hmark, hslash⟩, hfeed⟩, hreturn⟩ := hc
  rw [quotedLength?]
  simp [hmark, hslash, hfeed, hreturn]

theorem quotedLength?_append {text : List Char} (htext : ∀ x ∈ text, isOrdinary mark x = true)
    (cs : List Char) :
    quotedLength? mark (text.length + fuel) (text ++ cs) =
      (quotedLength? mark fuel cs).map (text.length + ·) := by
  induction text with
  | nil => simp
  | cons x text ih =>
    rw [List.length_cons, Nat.add_right_comm, List.cons_append,
      quotedLength?_cons (htext x List.mem_cons_self),
      ih fun y hy => htext y (List.mem_cons_of_mem x hy), Option.map_map]
    congr 1
    funext n
    simp only [Function.comp_apply]
    omega

theorem quotedLength?_escape {text cs : List Char} (hmark : mark ≠ '\\')
    (hlength : escapeLength ('\\' :: (text ++ cs)) = text.length + 1) :
    quotedLength? mark (fuel + 1) ('\\' :: (text ++ cs)) =
      (quotedLength? mark fuel cs).map (text.length + 1 + ·) := by
  have hne : ('\\' == mark) = false := beq_eq_false_iff_ne.mpr hmark.symm
  rw [quotedLength?, hne, if_neg Bool.false_ne_true, if_neg (by decide),
    if_pos (beq_self_eq_true _), hlength]
  dsimp only
  rw [List.drop_succ_cons, List.drop_left]
  rfl

end

namespace Denotes

variable {mark : Char} {body : List Char} {us : List Nat}

/-- Characters in front that stand for themselves. -/
theorem append (h : Denotes mark body us) (text : List Char)
    (htext : text.all (isOrdinary mark) = true) :
    Denotes mark (text ++ body) (utf16 text ++ us) := by
  induction text with
  | nil => exact h
  | cons x text ih =>
    rw [List.all_cons, Bool.and_eq_true] at htext
    rw [List.cons_append, utf16_cons, List.append_assoc]
    exact .ordinary htext.1 (ih htext.2)

/-- A literal is read to its end. -/
theorem quotedLength?_eq (hmark : mark = '\'' ∨ mark = '"') (h : Denotes mark body us) {fuel : Nat}
    (hfuel : body.length < fuel) (after : List Char) :
    quotedLength? mark fuel (body ++ mark :: after) = some body.length := by
  obtain ⟨hoctal, hslash⟩ : isOctalDigit mark = false ∧ mark ≠ '\\' := by
    rcases hmark with rfl | rfl <;> decide
  induction h generalizing fuel with
  | nil =>
    obtain ⟨fuel, rfl⟩ := Nat.exists_eq_succ_of_ne_zero (Nat.ne_of_gt hfuel)
    rw [List.nil_append, quotedLength?, if_pos (beq_self_eq_true mark)]
    rfl
  | @ordinary c body us hc hbody ih =>
    rw [List.length_cons] at hfuel
    obtain ⟨fuel, rfl⟩ := Nat.exists_eq_succ_of_ne_zero (Nat.ne_of_gt (Nat.zero_lt_of_lt hfuel))
    rw [List.cons_append, quotedLength?_cons hc, ih (Nat.lt_of_succ_lt_succ hfuel)]
    exact congrArg some (Nat.add_comm 1 body.length)
  | @escape text body vs us htext hbody ih =>
    have htail : (body ++ mark :: after).head? = some (body.headD mark) := by
      cases body <;> rfl
    obtain ⟨front, digits, rfl, hfront, hdigits, hlength⟩ := htext.exists_escapeLength htail
    have hpos := List.length_pos_iff.mpr hfront
    simp only [List.length_cons, List.length_append] at hfuel
    obtain ⟨k, rfl⟩ : ∃ k, fuel = digits.length + k + 1 :=
      ⟨fuel - digits.length - 1, by omega⟩
    -- The octal digits behind the first one are taken for ordinary characters.
    have hordinary : ∀ d ∈ digits, isOrdinary mark d = true := by
      intro d hd
      have hne (x : Char) (hx : isOctalDigit x = false) : d ≠ x :=
        ne_of_apply_ne isOctalDigit (by rw [hdigits d hd, hx]; decide)
      simp [isOrdinary, hne mark hoctal, hne '\\' rfl, hne '\n' rfl, hne '\r' rfl]
    rw [List.append_assoc] at hlength
    rw [List.cons_append, List.append_assoc, List.append_assoc,
      quotedLength?_escape hslash hlength, quotedLength?_append hordinary, ih (by omega)]
    simp only [Option.map_some, List.length_cons, List.length_append]
    exact congrArg some (by omega)

theorem length_le (h : Denotes mark body us) : us.length ≤ (utf16 body).length := by
  induction h with
  | nil => exact Nat.le_refl 0
  | @ordinary c body us _ _ ih =>
    rw [utf16_cons, List.length_append, List.length_append]
    exact Nat.add_le_add_left ih _
  | @escape text body vs us htext _ ih =>
    rw [← List.cons_append, utf16_append, List.length_append, List.length_append]
    exact Nat.add_le_add (Nat.le_of_lt htext.length_lt) ih

theorem length_lt_of_mem (h : Denotes mark body us) (hmem : '\\' ∈ body) :
    us.length < (utf16 body).length := by
  induction h with
  | nil => exact absurd hmem List.not_mem_nil
  | @ordinary c body us hc _ ih =>
    have hslash : c ≠ '\\' := by
      rintro rfl
      simp [isOrdinary] at hc
    rw [utf16_cons, List.length_append, List.length_append]
    exact Nat.add_lt_add_left (ih ((List.mem_cons.mp hmem).resolve_left hslash.symm)) _
  | @escape text body vs us htext hbody _ =>
    rw [← List.cons_append, utf16_append, List.length_append, List.length_append]
    exact Nat.add_lt_add_of_lt_of_le htext.length_lt hbody.length_le

theorem utf16_eq_of_not_mem (h : Denotes mark body us) (hmem : '\\' ∉ body) : utf16 body = us := by
  induction h with
  | nil => rfl
  | @ordinary c body us _ _ ih =>
    rw [utf16_cons, ih fun h => hmem (List.mem_cons_of_mem c h)]
  | escape _ _ _ => exact absurd List.mem_cons_self hmem

/-- A literal is spelled as what it stands for exactly if it has no escapes. -/
theorem utf16_eq_iff (h : Denotes mark body us) : utf16 body = us ↔ '\\' ∉ body := by
  refine ⟨fun heq hmem => ?_, h.utf16_eq_of_not_mem⟩
  have hlt := h.length_lt_of_mem hmem
  rw [heq] at hlt
  exact Nat.lt_irrefl _ hlt

end Denotes

/-! ### Registrations -/

open Reader

/-- The text of a registration whose path is a literal and whose handler is a name. -/
def registrationText (owner method : Word) (mark : Char) (body : List Char) (handler : Word) :
    List Char :=
  owner.text.toList ++ '.' :: (method.text.toList ++ '(' :: mark :: (body ++ mark :: ',' :: ' ' ::
    (handler.text.toList ++ [')', ';'])))

/-- The call that it is. -/
def registrationCall (owner method : Word) (body : List Char) (handler : Word) : Tree :=
  .call 0 (.member (.identifier owner.text) (some method)) []
    [.text (String.ofList body), .identifier handler.text]

/-- The arguments of a registration are read as a text and a name. -/
theorem reads_registrationArguments {handler : Word} {mark : Char} {body : List Char}
    (hhandler : handler.IsName) (hmark : mark = '\'' ∨ mark = '"')
    (hlength : ∀ after, quotedLength? mark ((body ++ mark :: after).length + 1)
      (body ++ mark :: after) = some body.length) (n : Nat) :
    Reads (arguments (grammarOf (n + 2)))
      ⟨'(' :: mark :: (body ++ mark :: ',' :: ' ' :: (handler.text.toList ++ [')', ';'])), 0⟩
      [.text (String.ofList body), .identifier handler.text] ⟨[';'], 0 + body.count '\n'⟩ := by
  have hclose : EndsExpression [')', ';'] := ⟨')', [';'], rfl, by decide⟩
  have hend : EndsExpression [';'] := ⟨';', [], rfl, by decide⟩
  obtain ⟨hspace, hslash, hclosing, hcomma⟩ : isSpace mark = false ∧ mark ≠ '/' ∧ mark ≠ ')' ∧
      mark ≠ ',' := by
    rcases hmark with rfl | rfl <;> decide +kernel
  have hname (k row : Nat) : Reads (looseItemsUpTo (spreadable (grammarOf (n + 2))) ')' (k + 1))
      ⟨handler.text.toList ++ [')', ';'], row⟩ [.identifier handler.text] ⟨[';'], row⟩ :=
    reads_looseItemsUpTo_last (hhandler.head?_append_ne (by decide +kernel) _)
      (hhandler.head?_append_ne (by decide +kernel) _) (by decide)
      (reads_spreadable (hhandler.startsOperand hclose.endsWord)
        (reads_name n row hhandler hclose.startsToken.leads hclose.endsWord hclose))
      hend.startsToken.leads
  have hitems (k row : Nat) : Reads (looseItemsUpTo (spreadable (grammarOf (n + 2))) ')' (k + 2))
      ⟨mark :: (body ++ mark :: ',' :: ' ' :: (handler.text.toList ++ [')', ';'])), row⟩
      [.text (String.ofList body), .identifier handler.text]
      ⟨[';'], row + body.count '\n'⟩ := by
    have hbetween : EndsExpression (',' :: ' ' :: (handler.text.toList ++ [')', ';'])) :=
      ⟨',', _, rfl, by decide⟩
    exact reads_looseItemsUpTo_cons (by simpa using hclosing) (by simpa using hcomma) (by decide)
      (reads_spreadable (startsOperand_quoted hmark _)
        (reads_text n row hmark hlength hbetween.startsToken.leads hbetween))
      (hhandler.startsToken_append _).leads_blank (hname k _)
  exact reads_arguments (startsToken_cons hspace hslash _) (hitems _ 0)

theorem parse_registrationText {owner method handler : Word} {mark : Char} {body : List Char}
    (howner : owner.IsName) (hmethod : method.IsPlain) (hhandler : handler.IsName)
    (hmark : mark = '\'' ∨ mark = '"')
    (hlength : ∀ after, quotedLength? mark ((body ++ mark :: after).length + 1)
      (body ++ mark :: after) = some body.length) :
    parse (String.ofList (registrationText owner method mark body handler)) =
      .ok (.other [.other [registrationCall owner method body handler]]) := by
  have hend : EndsExpression [';'] := ⟨';', [], rfl, by decide⟩
  have hcall (n : Nat) : Reads (grammarOf (n + 4) (.expression .outer))
      ⟨registrationText owner method mark body handler, 0⟩
      (registrationCall owner method body handler) ⟨[';'], 0 + body.count '\n'⟩ :=
    reads_methodCall (n + 2) 0 howner hmethod
      (reads_registrationArguments hhandler hmark hlength n) hend
  have hnothing : StartsToken [] := fun x hx => nomatch hx
  have hpoint := startsToken_cons (x := '.') (by decide +kernel) (by decide)
  have hstatement (n : Nat) : Reads (grammarOf (n + 5) .statement)
      ⟨registrationText owner method mark body handler, 0⟩
      (.other [registrationCall owner method body handler]) ⟨[], 0 + body.count '\n'⟩ :=
    reads_statement howner.toIsPlain (hpoint _).leads
      (endsWord_cons (by decide +kernel) (by decide) _) howner.not_mem_statementWords (by simp)
      (reads_expressionStatement (hcall n) hnothing.leads)
  have hne : registrationText owner method mark body handler ≠ [] := fun h =>
    owner.nonempty (String.toList_eq_nil_iff.mp (List.append_eq_nil_iff.mp h).1)
  have hprogram (n : Nat) : Reads (program (grammarOf (n + 5)))
      ⟨registrationText owner method mark body handler, 0⟩
      (.other [.other [registrationCall owner method body handler]])
      ⟨[], 0 + body.count '\n'⟩ :=
    reads_program (howner.startsToken_append _) (howner.head?_append_ne (by decide +kernel) _) hne
      (hstatement n) (refuses_statement _)
  refine parse_eq_ok (s := ⟨[], 0 + body.count '\n'⟩) ?_
  rw [String.toList_ofList]
  exact hprogram _

end RouteAtlas.Script

namespace RouteAtlas

open Script

/-- The one record of a registration whose path is a literal. -/
theorem extractRoutes_registrationText {owner method handler : Word} {m : Method} {mark : Char}
    {body : List Char} {us : List Nat} (howner : owner.IsName)
    (hregistrar : owner.text ∈ Sighting.registrars) (hmethod : method.IsPlain)
    (hm : Sighting.methodOfMember? method.text = some m) (hhandler : handler.IsName)
    (hmark : mark = '\'' ∨ mark = '"') (hbody : Denotes mark body us) (filePath : String) :
    extractRoutes (String.ofList (registrationText owner method mark body handler)) filePath =
      .ok [{
        method := m.name
        path := String.ofList body
        handler := handler.text
        parameters := pathParameters (String.ofList body)
        responses := [Response.success]
        filePath := filePath
        lineNumber := some 1 }] := by
  have hlength (after : List Char) : body.length ≤ (body ++ mark :: after).length := by
    rw [List.length_append]
    exact Nat.le_add_right _ _
  have hparse := parse_registrationText howner hmethod hhandler hmark fun after =>
    hbody.quotedLength?_eq hmark (Nat.lt_succ_of_le (hlength after)) after
  have hregistration : Sighting.registration? (registrationCall owner method body handler) =
      some ⟨0, m, [.text (String.ofList body), .identifier handler.text]⟩ := by
    rw [registrationCall, Sighting.registration?, if_pos (by simpa using hregistrar), hm]
    rfl
  -- Of the seven nodes of the tree only the call is a registration.
  have hregistrations :
      (Tree.other [.other [registrationCall owner method body handler]]).nodes.filterMap
        Sighting.registration? =
      [⟨0, m, [.text (String.ofList body), .identifier handler.text]⟩] := by
    have hnodes : (Tree.other [.other [registrationCall owner method body handler]]).nodes =
        [.other [.other [registrationCall owner method body handler]],
          .other [registrationCall owner method body handler],
          registrationCall owner method body handler,
          .member (.identifier owner.text) (some method), .identifier owner.text,
          .text (String.ofList body), .identifier handler.text] := by
      simp [registrationCall, Tree.nodes, Tree.nodesAll]
    simp only [hnodes, List.filterMap_cons, hregistration]
    rfl
  rw [extractRoutes, hparse]
  show Except.ok (routesOf _ _) = _
  rw [routesOf, hregistrations]
  simp [routeOf?, handlerName, handlerParameters, handlerResponses]

/-- A registration whose path is a literal gives one route. Its path is the value of the literal
exactly if the literal has no escapes. -/
theorem exists_extractRoutes_literal {mark : Char} {body : List Char} {us : List Nat}
    (hmark : mark = '\'' ∨ mark = '"') (hbody : Denotes mark body us) (filePath : String) :
    ∃ r, extractRoutes ("router.get(" ++ String.ofList (mark :: (body ++ [mark])) ++ ", handler);")
        filePath = .ok [r] ∧
      r.path = String.ofList body ∧ (utf16 r.path.toList = us ↔ '\\' ∉ body) := by
  obtain ⟨owner, howner, hownerName⟩ := Word.exists_isName "router" (by decide) (by decide +kernel)
    (by decide +kernel) (by decide +kernel)
  obtain ⟨method, hmethod, hmethodName⟩ := Word.exists_isName "get" (by decide) (by decide +kernel)
    (by decide +kernel) (by decide +kernel)
  obtain ⟨handler, hhandler, hhandlerName⟩ := Word.exists_isName "handler" (by decide)
    (by decide +kernel) (by decide +kernel) (by decide +kernel)
  have hget : Sighting.methodOfMember? method.text = some .get := by
    rw [hmethod]
    decide +kernel
  have htext : "router.get(" ++ String.ofList (mark :: (body ++ [mark])) ++ ", handler);" =
      String.ofList (registrationText owner method mark body handler) := by
    rw [registrationText, howner, hmethod, hhandler]
    apply String.toList_inj.mp
    simp
  have hroute := extractRoutes_registrationText hownerName (by rw [howner]; decide)
    hmethodName.toIsPlain hget hhandlerName hmark hbody filePath
  refine ⟨_, htext ▸ hroute, rfl, ?_⟩
  rw [String.toList_ofList]
  exact hbody.utf16_eq_iff

/-- The backslash of a pattern for digits has to be escaped, and then it is there twice. -/
theorem exists_extractRoutes_literal_digits :
    ('\'' = '\'' ∨ '\'' = '"') ∧
      Denotes '\'' "/files/:id(\\\\d+)".toList (utf16 "/files/:id(\\d+)".toList) ∧
      ∃ r, extractRoutes "router.get('/files/:id(\\\\d+)', handler);" "routes/files.js" = .ok [r] ∧
        r.path = "/files/:id(\\\\d+)" ∧ utf16 r.path.toList ≠ utf16 "/files/:id(\\d+)".toList := by
  have hbody : Denotes '\'' "/files/:id(\\\\d+)".toList (utf16 "/files/:id(\\d+)".toList) := by
    have hdigits : Denotes '\'' "d+)".toList (utf16 "d+)".toList ++ []) :=
      Denotes.nil.append "d+)".toList (by decide)
    have hslash : IsEscape 'd' ['\\'] [0x5C] := .single (by decide)
    have hend : Denotes '\'' ('\\' :: ['\\'] ++ "d+)".toList) _ := .escape hslash hdigits
    exact hend.append "/files/:id(".toList (by decide)
  obtain ⟨r, hr, hpath, hiff⟩ := exists_extractRoutes_literal (.inl rfl) hbody "routes/files.js"
  refine ⟨.inl rfl, hbody, r, hr, hpath, fun h => ?_⟩
  exact absurd (hiff.mp h) (by decide)

end RouteAtlas
