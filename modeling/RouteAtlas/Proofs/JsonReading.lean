import Mathlib.Data.List.Forall2
import Mathlib.Data.List.Nodup
import RouteAtlas.Json.Reader
import RouteAtlas.Json.Writer
import RouteAtlas.Proofs.Table

/-!
# Reading what was written as JSON

A value is **plain** if it is made of lists, of maps whose keys are texts, of texts, truth values and
the absent value. Plain values can be written as JSON, and reading what was written gives the value
back with all members in their order (`exists_render_of_isPlain`).

`Spells text v` says that a text spells a value wherever it stands: in front of any other characters,
and with any number of steps that is not smaller than the length of the text. The writer and the
reader recurse over different things, the value and the characters, and this is what ties them
together: the texts of the parts spell the parts, so the text between brackets spells the whole
(`spells_list`, `spells_map`). The reader goes through the parts of a list and of a map in the same
way, and `ReadsParts` is what both ways have in common. Texts that spell something also have no
carriage return, so a reader that changes line ends changes nothing.
-/

namespace RouteAtlas

/-! ### Plain values -/

/-- Whether a scalar is a text, a truth value or absent. -/
def Scalar.isPlain : Scalar → Bool
  | .null | .bool _ | .text _ => true
  | _ => false

/-- Whether a scalar can be the key of a plain map in front of others. -/
def Scalar.isPlainKey (ms : Members) : Scalar → Bool
  | .text name => !Members.has ms (.text name)
  | _ => false

mutual

/-- Whether a value is plain. -/
def Value.isPlain : Value → Bool
  | .scalar s => s.isPlain
  | .set _ => false
  | .pair _ _ => false
  | .list xs => Value.itemsArePlain xs
  | .map ms => Value.membersArePlain ms

/-- Whether the items of a list are plain. -/
def Value.itemsArePlain : List Value → Bool
  | [] => true
  | x :: xs => x.isPlain && Value.itemsArePlain xs

/-- Whether the members of a map are plain and have different texts as keys. -/
def Value.membersArePlain : List (Scalar × Value) → Bool
  | [] => true
  | (k, v) :: ms => k.isPlainKey ms && v.isPlain && Value.membersArePlain ms

end

theorem Scalar.isPlainKey_iff {ms : Members} {k : Scalar} :
    k.isPlainKey ms = true ↔ (∃ name, k = .text name) ∧ k ∉ Members.keys ms := by
  cases k with
  | text name =>
    have hhas := @Members.has_iff ms name
    rw [Scalar.isPlainKey]
    cases h : Members.has ms (.text name) <;> simp_all
  | _ => simp [Scalar.isPlainKey]

theorem Value.isPlain_list_iff {xs : List Value} :
    (Value.list xs).isPlain = true ↔ ∀ x ∈ xs, x.isPlain = true := by
  rw [Value.isPlain]
  induction xs with
  | nil => simp [Value.itemsArePlain]
  | cons x xs ih => rw [Value.itemsArePlain, Bool.and_eq_true, ih, List.forall_mem_cons]

/-- The members of a plain map have different texts as keys and plain values. -/
theorem Value.isPlain_map_iff {ms : Members} :
    (Value.map ms).isPlain = true ↔
      (∀ m ∈ ms, (∃ name, m.1 = .text name) ∧ m.2.isPlain = true) ∧ (Members.keys ms).Nodup := by
  rw [Value.isPlain]
  induction ms with
  | nil => simp [Value.membersArePlain, Members.keys]
  | cons m ms ih =>
    rw [Value.membersArePlain, Bool.and_eq_true, Bool.and_eq_true, ih, Scalar.isPlainKey_iff,
      List.forall_mem_cons, Members.keys, Members.keys, List.map_cons, List.nodup_cons]
    tauto

namespace Json

/-! ### White space -/

/-- A text of white space. -/
def IsGap (text : String) : Prop := ∀ c ∈ text.toList, isSpace c = true

theorem skipSpace_append {gap : String} (h : IsGap gap) (cs : List Char) :
    skipSpace (gap.toList ++ cs) = skipSpace cs :=
  List.dropWhile_append_of_pos h

theorem skipSpace_cons {c : Char} (h : isSpace c = false) (cs : List Char) :
    skipSpace (c :: cs) = c :: cs := by
  rw [skipSpace, List.dropWhile_cons, h]
  rfl

theorem mem_newline {level : Nat} {c : Char} (h : c ∈ (newline level).toList) :
    c = '\n' ∨ c = ' ' := by
  rw [newline, String.toList_append] at h
  rcases List.mem_append.mp h with h | h
  · exact .inl (List.mem_singleton.mp h)
  · rw [Text.repeated, String.toList_join, List.mem_flatMap] at h
    obtain ⟨indent, hindent, hc⟩ := h
    rw [List.eq_of_mem_replicate hindent] at hc
    right
    simpa using hc

theorem isGap_newline (level : Nat) : IsGap (newline level) := by
  intro c hc
  rcases mem_newline hc with rfl | rfl <;> rfl

/-! ### Texts -/

/-- Control characters are written by four digits that stand for them. -/
theorem exists_hex_eq {n : Nat} (h : n < 32) :
    ∃ a b c d, (Text.hex 4 n).toList = [a, b, c, d] ∧ Text.hexValue? [a, b, c, d] = some n := by
  have hall : ∀ n < 32, (Text.hex 4 n).toList.length = 4 ∧
      Text.hexValue? (Text.hex 4 n).toList = some n := by decide +kernel
  obtain ⟨hlength, hvalue⟩ := hall n h
  match hdigits : (Text.hex 4 n).toList, hlength with
  | [a, b, c, d], _ => exact ⟨a, b, c, d, rfl, hdigits ▸ hvalue⟩

/-- The escape of a control character is read as the character. -/
theorem unicodeEscape_hex {c : Char} (h : c.toNat < 32) (next : Char) (rest : List Char) :
    unicodeEscape ((Text.hex 4 c.toNat).toList ++ next :: rest) = .ok (c, next :: rest) := by
  obtain ⟨x, y, z, w, hdigits, hvalue⟩ := exists_hex_eq h
  have hhex : hex4? (x :: y :: z :: w :: next :: rest) = some (c.toNat, next :: rest) := by
    rw [hex4?, hvalue]
    rfl
  have hhigh : isHighSurrogate c.toNat = false := by
    simp only [isHighSurrogate, Bool.and_eq_false_iff, decide_eq_false_iff_not]
    omega
  rw [hdigits]
  simp only [List.cons_append, List.nil_append]
  rw [unicodeEscape, hhex]
  simp only [hhigh, Bool.false_eq_true, if_false, Text.charOfCode_toNat]

/-- A character that stands for itself. -/
theorem readText_ordinary (opening fuel : Nat) (done : List Char) {c : Char} (hquote : c ≠ '"')
    (hslash : c ≠ '\\') (hcontrol : 32 ≤ c.toNat) (rest : List Char) :
    readText opening (fuel + 1) done (c :: rest) = readText opening fuel (c :: done) rest := by
  rw [readText.eq_def]
  simp only
  split
  · rename_i heq
    cases heq
  · rename_i heq
    exact absurd (List.cons.inj heq).1 hquote
  · rename_i heq
    exact absurd (List.cons.inj heq).1 hslash
  · rename_i heq
    exact absurd (List.cons.inj heq).1 hslash
  · rename_i heq
    exact absurd (List.cons.inj heq).1 hslash
  · rename_i heq
    obtain ⟨rfl, rfl⟩ := List.cons.inj heq
    rw [if_neg (by omega)]

/-- A character that is written as a letter behind a backslash. -/
theorem readText_simpleEscape (opening fuel : Nat) (done : List Char) {c d : Char}
    (h : simpleEscape? d = some c) (rest : List Char) :
    readText opening (fuel + 1) done ('\\' :: d :: rest) = readText opening fuel (c :: done) rest := by
  have hletter : d ≠ 'u' := by
    rintro rfl
    cases h
  rw [readText, h]
  exact fun hu => absurd hu hletter

/-- **What a character is written as**: a letter behind a backslash, the number of a control character,
or itself. -/
theorem escapeChar_cases (c : Char) :
    (∃ d, simpleEscape? d = some c ∧ (escapeChar c).toList = ['\\', d]) ∨
    (c.toNat < 32 ∧ (escapeChar c).toList = '\\' :: 'u' :: (Text.hex 4 c.toNat).toList) ∨
    (c ≠ '"' ∧ c ≠ '\\' ∧ 32 ≤ c.toNat ∧ (escapeChar c).toList = [c]) := by
  by_cases hquote : c = '"'
  · exact .inl ⟨'"', by rw [hquote]; rfl, by rw [hquote]; decide⟩
  by_cases hslash : c = '\\'
  · exact .inl ⟨'\\', by rw [hslash]; rfl, by rw [hslash]; decide⟩
  by_cases hline : c = '\n'
  · exact .inl ⟨'n', by rw [hline]; rfl, by rw [hline]; decide⟩
  by_cases hreturn : c = '\r'
  · exact .inl ⟨'r', by rw [hreturn]; rfl, by rw [hreturn]; decide⟩
  by_cases htab : c = '\t'
  · exact .inl ⟨'t', by rw [htab]; rfl, by rw [htab]; decide⟩
  by_cases hback : c = '\x08'
  · exact .inl ⟨'b', by rw [hback]; rfl, by rw [hback]; decide⟩
  by_cases hfeed : c = '\x0c'
  · exact .inl ⟨'f', by rw [hfeed]; rfl, by rw [hfeed]; decide⟩
  have hother : escapeChar c =
      if c.toNat < 32 then "\\u" ++ Text.hex 4 c.toNat else c.toString := by
    simp only [escapeChar, beq_iff_eq, hquote, hslash, hline, hreturn, htab, hback, hfeed, if_false]
  rw [hother]
  split_ifs with hcontrol
  · refine .inr (.inl ⟨hcontrol, ?_⟩)
    rw [String.toList_append]
    rfl
  · refine .inr (.inr ⟨hquote, hslash, Nat.le_of_not_lt hcontrol, ?_⟩)
    rw [Char.toString_eq_singleton, String.toList_singleton]

/-- **One character** of a text, as it is written, is read as the character. Something has to follow,
as the closing quote does. -/
theorem readText_escapeChar (opening fuel : Nat) (done : List Char) (c next : Char)
    (rest : List Char) :
    readText opening (fuel + 1) done ((escapeChar c).toList ++ next :: rest) =
      readText opening fuel (c :: done) (next :: rest) := by
  rcases escapeChar_cases c with ⟨d, hd, hc⟩ | ⟨hcontrol, hc⟩ | ⟨hquote, hslash, hcontrol, hc⟩
  · rw [hc]
    exact readText_simpleEscape opening fuel done hd _
  · rw [hc, List.cons_append, List.cons_append, readText, unicodeEscape_hex hcontrol]
  · rw [hc]
    exact readText_ordinary opening fuel done hquote hslash hcontrol _

/-- The characters between the quotes of a text. -/
def escaped (cs : List Char) : List Char := cs.flatMap fun c => (escapeChar c).toList

theorem toList_quote (s : String) :
    (quote s).toList = '"' :: (escaped s.toList ++ ['"']) := by
  rw [quote, String.toList_append, String.toList_append, String.toList_join, List.flatMap_map]
  rfl

/-- The characters of a text up to the closing quote. -/
theorem readText_escaped (opening : Nat) (cs : List Char) {fuel : Nat} (hfuel : cs.length < fuel)
    (done rest : List Char) :
    readText opening fuel done (escaped cs ++ '"' :: rest) =
      .ok (String.ofList (done.reverse ++ cs), rest) := by
  induction cs generalizing fuel done with
  | nil =>
    obtain ⟨fuel, rfl⟩ := Nat.exists_eq_succ_of_ne_zero (Nat.ne_of_gt hfuel)
    rw [List.append_nil]
    rfl
  | cons c cs ih =>
    obtain ⟨fuel, rfl⟩ := Nat.exists_eq_succ_of_ne_zero (Nat.ne_of_gt (Nat.zero_lt_of_lt hfuel))
    obtain ⟨next, more, hmore⟩ : ∃ next more, escaped cs ++ '"' :: rest = next :: more :=
      List.exists_cons_of_ne_nil (List.append_ne_nil_of_right_ne_nil _ (List.cons_ne_nil _ _))
    rw [escaped, List.flatMap_cons, List.append_assoc, ← escaped, hmore, readText_escapeChar, ← hmore,
      ih (Nat.lt_of_succ_lt_succ hfuel), List.reverse_cons, List.append_assoc, List.singleton_append]

theorem escapeChar_ne_nil (c : Char) : (escapeChar c).toList ≠ [] := by
  rcases escapeChar_cases c with ⟨d, -, hc⟩ | ⟨-, hc⟩ | ⟨-, -, -, hc⟩ <;> simp [hc]

theorem length_le_length_escaped (cs : List Char) : cs.length ≤ (escaped cs).length := by
  induction cs with
  | nil => exact Nat.le_refl 0
  | cons c cs ih =>
    have hpos : 0 < (escapeChar c).toList.length := List.length_pos_iff.mpr (escapeChar_ne_nil c)
    rw [escaped, List.flatMap_cons, List.length_append, ← escaped, List.length_cons]
    omega

/-- **A text is read back** up to its closing quote. -/
theorem readText_quote (opening : Nat) (s : String) (rest : List Char) :
    readText opening ((escaped s.toList ++ '"' :: rest).length + 1) []
      (escaped s.toList ++ '"' :: rest) = .ok (s, rest) := by
  have hlength := length_le_length_escaped s.toList
  rw [readText_escaped opening s.toList (by rw [List.length_append]; omega)]
  simp

theorem return_not_mem_escapeChar (c : Char) : '\r' ∉ (escapeChar c).toList := by
  have hdigits : ∀ n < 32, '\r' ∉ (Text.hex 4 n).toList := by decide +kernel
  rcases escapeChar_cases c with ⟨d, hd, hc⟩ | ⟨hcontrol, hc⟩ | ⟨-, -, hcontrol, hc⟩
  · -- A carriage return is not the letter of an escape.
    have hletter : '\r' ≠ d := by
      rintro rfl
      cases hd
    rw [hc]
    simp [hletter]
  · rw [hc]
    simp [hdigits _ hcontrol]
  · rw [hc, List.mem_singleton]
    rintro rfl
    exact absurd hcontrol (by decide)

theorem return_not_mem_quote (s : String) : '\r' ∉ (quote s).toList := by
  rw [toList_quote]
  intro h
  rcases List.mem_cons.mp h with h | h
  · exact absurd h (by decide)
  rcases List.mem_append.mp h with h | h
  · obtain ⟨c, -, hc⟩ := List.mem_flatMap.mp h
    exact return_not_mem_escapeChar c hc
  · exact absurd h (by decide)

/-! ### Spelled values -/

/-- A text spells a value wherever it stands. -/
structure Spells (text : String) (v : Value) : Prop where
  /-- It begins with something that neither is white space, nor closes a list, nor marks an
  encoding. -/
  head : ∃ c cs, text.toList = c :: cs ∧ isSpace c = false ∧ c ≠ ']' ∧ c ≠ '\uFEFF'
  /-- It has no carriage return. -/
  noReturn : '\r' ∉ text.toList
  /-- In front of other characters, it is read as the value. -/
  read : ∀ {fuel : Nat}, text.toList.length ≤ fuel → ∀ rest,
    readValue fuel (text.toList ++ rest) = .ok (v, rest)

/-- A name that stands for a value. -/
theorem spells_name {text : String} {v : Value} {c : Char} {cs : List Char}
    (htext : text.toList = c :: cs) (hspace : isSpace c = false)
    (hother : c ≠ '"' ∧ c ≠ '[' ∧ c ≠ '\x7b') (hfirst : c ≠ ']' ∧ c ≠ '\uFEFF')
    (hreturn : '\r' ∉ text.toList)
    (hname : ∀ rest, name? (text.toList ++ rest) = some (v, rest)) : Spells text v := by
  refine ⟨⟨c, cs, htext, hspace, hfirst⟩, hreturn, fun {fuel} hfuel rest => ?_⟩
  have hfound := hname rest
  rw [htext] at hfuel hfound ⊢
  cases fuel with
  | zero => cases hfuel
  | succ fuel =>
    rw [List.cons_append] at hfound ⊢
    rw [readValue.eq_def]
    simp only
    split
    · rename_i heq
      exact absurd (List.cons.inj heq).1 hother.1
    · rename_i heq
      exact absurd (List.cons.inj heq).1 hother.2.1
    · rename_i heq
      exact absurd (List.cons.inj heq).1 hother.2.2
    · rw [hfound]

/-- **Scalars** of plain values are spelled by what is written. -/
theorem exists_scalarText_of_isPlain {s : Scalar} (h : s.isPlain = true) :
    ∃ text, scalarText s = .ok text ∧ Spells text (.scalar s) := by
  cases s with
  | null =>
    refine ⟨"null", rfl, spells_name (show _ = ['n', 'u', 'l', 'l'] by decide) rfl (by decide)
      (by decide) (by decide) fun rest => ?_⟩
    simp [name?, names, Text.after?]
  | bool b =>
    cases b with
    | true =>
      refine ⟨"true", rfl, spells_name (show _ = ['t', 'r', 'u', 'e'] by decide) rfl (by decide)
        (by decide) (by decide) fun rest => ?_⟩
      simp [name?, names, Text.after?]
    | false =>
      refine ⟨"false", rfl, spells_name (show _ = ['f', 'a', 'l', 's', 'e'] by decide) rfl
        (by decide) (by decide) (by decide) fun rest => ?_⟩
      simp [name?, names, Text.after?]
  | text s =>
    refine ⟨quote s, rfl, ⟨'"', _, toList_quote s, rfl, by decide⟩, return_not_mem_quote s,
      fun {fuel} hfuel rest => ?_⟩
    rw [toList_quote] at hfuel ⊢
    cases fuel with
    | zero => cases hfuel
    | succ fuel =>
      rw [List.cons_append, List.append_assoc, List.singleton_append, readValue]
      simp only [readText_quote, bind, Except.bind]
      rfl
  | _ => cases h

/-! ### Parts between brackets -/

theorem join_cons_cons (sep part next : String) (parts : List String) :
    (Text.join sep (part :: next :: parts)).toList =
      part.toList ++ (sep.toList ++ (Text.join sep (next :: parts)).toList) := by
  rw [Text.join, String.intercalate_cons_cons, String.toList_append, String.toList_append,
    List.append_assoc]
  rfl

theorem join_singleton (sep part : String) : (Text.join sep [part]).toList = part.toList := by
  rw [Text.join, String.intercalate_singleton]

/-- Joined parts begin with the first character of the first one. -/
theorem exists_join_eq_cons {part : String} {c : Char} {cs : List Char}
    (hpart : part.toList = c :: cs) (sep : String) (parts : List String) :
    ∃ tail, (Text.join sep (part :: parts)).toList = c :: tail := by
  cases parts with
  | nil => exact ⟨cs, by rw [join_singleton, hpart]⟩
  | cons next parts => exact ⟨_, by rw [join_cons_cons, hpart, List.cons_append]⟩

/-- Joined parts are longer than the first one, and longer than the others by more than a comma. -/
theorem length_join_comma (gap part next : String) (parts : List String) :
    (Text.join ("," ++ gap) (part :: next :: parts)).toList.length =
      part.toList.length + (1 + gap.toList.length +
        (Text.join ("," ++ gap) (next :: parts)).toList.length) := by
  rw [join_cons_cons, List.length_append, List.length_append, String.toList_append,
    List.length_append]
  rfl

/-- What holds of the characters of the separator and the parts holds of those of the whole. -/
theorem forall_mem_join {P : Char → Prop} {sep : String} (hsep : ∀ c ∈ sep.toList, P c)
    {parts : List String} (hparts : ∀ part ∈ parts, ∀ c ∈ part.toList, P c) :
    ∀ c ∈ (Text.join sep parts).toList, P c := by
  induction parts with
  | nil => exact fun c hc => absurd hc (by simp [Text.join])
  | cons part parts ih =>
    obtain ⟨hpart, hrest⟩ := List.forall_mem_cons.mp hparts
    cases parts with
    | nil => rwa [join_singleton]
    | cons next parts =>
      rw [join_cons_cons, List.forall_mem_append, List.forall_mem_append]
      exact ⟨hpart, hsep, ih hrest⟩

theorem bracket_nil (level : Nat) (opening closing : String) :
    bracket level opening closing [] = opening ++ closing := rfl

theorem toList_bracket_cons (level : Nat) (opening closing part : String) (parts : List String) :
    (bracket level opening closing (part :: parts)).toList =
      opening.toList ++ ((newline (level + 1)).toList ++
        ((Text.join ("," ++ newline (level + 1)) (part :: parts)).toList ++
          ((newline level).toList ++ closing.toList))) := by
  rw [bracket, if_neg (by simp)]
  simp only [String.toList_append, List.append_assoc]

/-- Brackets and the lines between them have no carriage return. -/
theorem return_not_mem_bracket {opening closing : String} (hopening : '\r' ∉ opening.toList)
    (hclosing : '\r' ∉ closing.toList) {parts : List String}
    (hparts : ∀ part ∈ parts, '\r' ∉ part.toList) (level : Nat) :
    '\r' ∉ (bracket level opening closing parts).toList := by
  have hline : ∀ level, '\r' ∉ (newline level).toList := by
    intro level hmem
    rcases mem_newline hmem with h | h
    · exact absurd h (by decide)
    · exact absurd h (by decide)
  cases parts with
  | nil =>
    rw [bracket_nil, String.toList_append, List.mem_append]
    tauto
  | cons part parts =>
    have hcomma : ∀ c ∈ ("," ++ newline (level + 1)).toList, c ≠ '\r' := by
      rintro c hc rfl
      rw [String.toList_append, List.mem_append] at hc
      rcases hc with hc | hc
      · exact absurd hc (by decide)
      · exact hline _ hc
    have hjoin := forall_mem_join hcomma fun part hpart c hc => by
      rintro rfl
      exact hparts part hpart hc
    rw [toList_bracket_cons]
    simp only [List.mem_append, not_or]
    exact ⟨hopening, hline _, fun hmem => hjoin _ hmem rfl, hline _, hclosing⟩

/-- A reader of the parts between brackets. It takes one part after another; behind the last one
stands the closing bracket, and behind each of the others a comma. -/
structure ReadsParts {β : Type} (spells : String → β → Prop) (closing : Char)
    (read : Nat → List β → List Char → Except Refusal (List β × List Char)) : Prop where
  /-- A part begins with something that neither is white space nor the closing bracket. -/
  head : ∀ {part b}, spells part b →
    ∃ c cs, part.toList = c :: cs ∧ isSpace c = false ∧ c ≠ closing
  /-- A part has no carriage return. -/
  noReturn : ∀ {part b}, spells part b → '\r' ∉ part.toList
  /-- The last part. -/
  last : ∀ {part b fuel}, spells part b → part.toList.length ≤ fuel → ∀ done rest {gap},
    IsGap gap →
    read (fuel + 1) done (part.toList ++ (gap.toList ++ closing :: rest)) =
      .ok ((b :: done).reverse, rest)
  /-- A part in front of others. -/
  more : ∀ {part b fuel}, spells part b → part.toList.length ≤ fuel → ∀ done rest,
    read (fuel + 1) done (part.toList ++ ',' :: rest) = read fuel (b :: done) (skipSpace rest)

namespace ReadsParts

variable {β : Type} {spells : String → β → Prop} {closing : Char}
  {read : Nat → List β → List Char → Except Refusal (List β × List Char)}

/-- **The joined parts** up to the closing bracket. -/
theorem join (hread : ReadsParts spells closing read) {gap shut : String} (hgap : IsGap gap)
    (hshut : IsGap shut) {parts : List String} {bs : List β} (h : List.Forall₂ spells parts bs)
    (hne : parts ≠ []) {fuel : Nat}
    (hfuel : (Text.join ("," ++ gap) parts).toList.length < fuel) (done : List β)
    (rest : List Char) :
    read fuel done
        ((Text.join ("," ++ gap) parts).toList ++ (shut.toList ++ closing :: rest)) =
      .ok (done.reverse ++ bs, rest) := by
  induction h generalizing fuel done with
  | nil => exact absurd rfl hne
  | @cons part b parts bs hpart hparts ih =>
    obtain ⟨fuel, rfl⟩ := Nat.exists_eq_succ_of_ne_zero (Nat.ne_of_gt (Nat.zero_lt_of_lt hfuel))
    cases hparts with
    | nil =>
      rw [join_singleton] at hfuel ⊢
      rw [hread.last hpart (by omega) done rest hshut, List.reverse_cons]
    | @cons next b' parts bs hnext hparts =>
      -- The reader goes on at the first character of the next part.
      obtain ⟨c, cs, hhead, hspace, -⟩ := hread.head hnext
      obtain ⟨tail, htail⟩ := exists_join_eq_cons hhead ("," ++ gap) parts
      rw [length_join_comma] at hfuel
      have hlater := @ih (List.cons_ne_nil _ _) fuel (by omega) (b :: done)
      rw [htail, List.cons_append] at hlater
      have hcomma : ("," ++ gap).toList = ',' :: gap.toList := by
        rw [String.toList_append]
        rfl
      rw [join_cons_cons, htail, hcomma]
      simp only [List.append_assoc, List.cons_append]
      rw [hread.more hpart (by omega), skipSpace_append hgap, skipSpace_cons hspace, hlater,
        List.reverse_cons, List.append_assoc, List.singleton_append]

/-- **Parts between brackets**: behind the opening bracket and white space stands the first part,
from which on the reader takes all of them. -/
theorem bracket (hread : ReadsParts spells closing read) (opening : Char) {left right : String}
    (hleft : left.toList = [opening]) (hright : right.toList = [closing]) {part : String} {b : β}
    {parts : List String} {bs : List β} (h : List.Forall₂ spells (part :: parts) (b :: bs))
    (level : Nat) {fuel : Nat}
    (hfuel : (Json.bracket level left right (part :: parts)).toList.length ≤ fuel + 1)
    (rest : List Char) :
    ∃ c cs, isSpace c = false ∧ c ≠ closing ∧
      (Json.bracket level left right (part :: parts)).toList ++ rest =
        opening :: ((newline (level + 1)).toList ++ c :: cs) ∧
      read fuel [] (c :: cs) = .ok (b :: bs, rest) := by
  obtain ⟨c, cs, hhead, hspace, hclosing⟩ := hread.head (List.forall₂_cons.mp h).1
  obtain ⟨tail, htail⟩ := exists_join_eq_cons hhead ("," ++ newline (level + 1)) parts
  rw [toList_bracket_cons, hleft, hright] at hfuel ⊢
  simp only [List.length_append, List.length_singleton] at hfuel
  have hlength : (Text.join ("," ++ newline (level + 1)) (part :: parts)).toList.length < fuel := by
    omega
  have hparts := hread.join (isGap_newline (level + 1)) (isGap_newline level) h
    (List.cons_ne_nil _ _) hlength [] rest
  rw [htail, List.cons_append] at hparts
  refine ⟨c, _, hspace, hclosing, ?_, hparts⟩
  rw [htail]
  simp only [List.cons_append, List.nil_append, List.append_assoc]

theorem return_not_mem (hread : ReadsParts spells closing read) {left right : String}
    (hleft : '\r' ∉ left.toList) (hright : '\r' ∉ right.toList) {parts : List String} {bs : List β}
    (h : List.Forall₂ spells parts bs) (level : Nat) :
    '\r' ∉ (Json.bracket level left right parts).toList := by
  have hparts := (List.forall₂_and_left parts bs).mp
    (h.imp fun _ _ hpart => ⟨hread.noReturn hpart, hpart⟩)
  exact return_not_mem_bracket hleft hright hparts.1 level

end ReadsParts

/-! ### Lists and maps -/

/-- One item of a list: the reader takes it and looks for a comma or the end. -/
theorem readItems_item {part : String} {v : Value} (h : Spells part v) {fuel : Nat}
    (hfuel : part.toList.length ≤ fuel) (done : List Value) (tail : List Char) :
    readItems (fuel + 1) done (part.toList ++ tail) =
      match skipSpace tail with
      | ']' :: rest => .ok ((v :: done).reverse, rest)
      | ',' :: rest => readItems fuel (v :: done) (skipSpace rest)
      | rest => refuse .comma rest := by
  rw [readItems, h.read hfuel]
  rfl

theorem readsParts_items : ReadsParts Spells ']' readItems where
  head h := by
    obtain ⟨c, cs, hhead, hspace, hclosing, -⟩ := h.head
    exact ⟨c, cs, hhead, hspace, hclosing⟩
  noReturn h := h.noReturn
  last h hfuel done rest gap hgap := by
    rw [readItems_item h hfuel, skipSpace_append hgap, skipSpace_cons (by decide)]
    rfl
  more h hfuel done rest := by
    rw [readItems_item h hfuel, skipSpace_cons (by decide)]
    rfl

/-- A text spells a member: its name between quotes, a colon and the text of its value. -/
def SpellsMember (part : String) (m : Scalar × Value) : Prop :=
  ∃ name text, m.1 = .text name ∧ part = quote name ++ ": " ++ text ∧ Spells text m.2

theorem SpellsMember.head {part : String} {m : Scalar × Value} (h : SpellsMember part m) :
    ∃ cs, part.toList = '"' :: cs := by
  obtain ⟨name, text, -, rfl, -⟩ := h
  rw [String.toList_append, String.toList_append, toList_quote]
  exact ⟨_, rfl⟩

theorem SpellsMember.noReturn {part : String} {m : Scalar × Value} (h : SpellsMember part m) :
    '\r' ∉ part.toList := by
  obtain ⟨name, text, -, rfl, htext⟩ := h
  rw [String.toList_append, String.toList_append, List.mem_append, List.mem_append]
  rintro ((h | h) | h)
  · exact return_not_mem_quote name h
  · exact absurd h (by decide)
  · exact htext.noReturn h

/-- One member of a map: the reader takes it and looks for a comma or the end. -/
theorem readMembers_member {part : String} {m : Scalar × Value} (h : SpellsMember part m)
    {fuel : Nat} (hfuel : part.toList.length ≤ fuel) (done : List (Scalar × Value))
    (tail : List Char) :
    readMembers (fuel + 1) done (part.toList ++ tail) =
      match skipSpace tail with
      | '\x7d' :: rest => .ok ((m :: done).reverse, rest)
      | ',' :: rest => readMembers fuel (m :: done) (skipSpace rest)
      | rest => refuse .comma rest := by
  obtain ⟨key, v⟩ := m
  obtain ⟨name, text, rfl, rfl, htext⟩ := h
  obtain ⟨c, cs, hhead, hspace, -⟩ := htext.head
  have hpart : (quote name ++ ": " ++ text).toList ++ tail =
      '"' :: (escaped name.toList ++ '"' :: ':' :: ' ' :: (text.toList ++ tail)) := by
    rw [String.toList_append, String.toList_append, toList_quote]
    have hcolon : ": ".toList = [':', ' '] := by decide
    simp [hcolon]
  have hvalue : skipSpace (' ' :: (text.toList ++ tail)) = text.toList ++ tail := by
    rw [skipSpace, List.dropWhile_cons, if_pos (by decide), ← skipSpace, hhead, List.cons_append,
      skipSpace_cons hspace]
  have hlength : text.toList.length ≤ fuel := by
    rw [String.toList_append, List.length_append] at hfuel
    omega
  rw [hpart, readMembers]
  simp only [readText_quote, bind, Except.bind, skipSpace_cons (show isSpace ':' = false by decide),
    hvalue, htext.read hlength]
  rfl

theorem readsParts_members : ReadsParts SpellsMember '\x7d' readMembers where
  head h := by
    obtain ⟨cs, hhead⟩ := h.head
    exact ⟨'"', cs, hhead, by decide, by decide⟩
  noReturn h := h.noReturn
  last h hfuel done rest gap hgap := by
    rw [readMembers_member h hfuel, skipSpace_append hgap, skipSpace_cons (by decide)]
    rfl
  more h hfuel done rest := by
    rw [readMembers_member h hfuel, skipSpace_cons (by decide)]
    rfl

/-- **Lists**: the texts of the items between brackets spell the list. -/
theorem spells_list {parts : List String} {xs : List Value} (h : List.Forall₂ Spells parts xs)
    (level : Nat) : Spells (bracket level "[" "]" parts) (.list xs) := by
  have hreturn : '\r' ∉ (bracket level "[" "]" parts).toList :=
    readsParts_items.return_not_mem (by decide) (by decide) h level
  cases h with
  | nil =>
    rw [bracket_nil] at hreturn ⊢
    refine ⟨⟨'[', [']'], by decide, rfl, by decide⟩, hreturn, fun {fuel} hfuel rest => ?_⟩
    cases fuel with
    | zero => exact absurd hfuel (by decide)
    | succ fuel => rfl
  | @cons part v parts xs hpart hparts =>
    refine ⟨⟨'[', _, toList_bracket_cons .., rfl, by decide⟩, hreturn, fun {fuel} hfuel rest => ?_⟩
    cases fuel with
    | zero =>
      rw [toList_bracket_cons] at hfuel
      cases hfuel
    | succ fuel =>
      obtain ⟨c, cs, hspace, hclosing, htext, hitems⟩ :=
        readsParts_items.bracket '[' (by decide) (by decide) (.cons hpart hparts) level hfuel rest
      rw [htext, readValue, skipSpace_append (isGap_newline _), skipSpace_cons hspace]
      split
      · rename_i heq
        exact absurd (List.cons.inj heq).1 hclosing
      · rw [hitems]
        rfl

/-- **Maps**: the texts of the members between braces spell the map. -/
theorem spells_map {parts : List String} {ms : Members} (h : List.Forall₂ SpellsMember parts ms)
    (hkept : Members.ofList ms = ms) (level : Nat) :
    Spells (bracket level "\x7b" "\x7d" parts) (.map ms) := by
  have hreturn : '\r' ∉ (bracket level "\x7b" "\x7d" parts).toList :=
    readsParts_members.return_not_mem (by decide) (by decide) h level
  cases h with
  | nil =>
    rw [bracket_nil] at hreturn ⊢
    refine ⟨⟨'\x7b', ['\x7d'], by decide, rfl, by decide⟩, hreturn, fun {fuel} hfuel rest => ?_⟩
    cases fuel with
    | zero => exact absurd hfuel (by decide)
    | succ fuel => rfl
  | @cons part m parts ms hpart hparts =>
    refine ⟨⟨'\x7b', _, toList_bracket_cons .., rfl, by decide⟩, hreturn,
      fun {fuel} hfuel rest => ?_⟩
    cases fuel with
    | zero =>
      rw [toList_bracket_cons] at hfuel
      cases hfuel
    | succ fuel =>
      obtain ⟨c, cs, hspace, hclosing, htext, hmembers⟩ :=
        readsParts_members.bracket '\x7b' (by decide) (by decide) (.cons hpart hparts) level hfuel rest
      rw [htext, readValue, skipSpace_append (isGap_newline _), skipSpace_cons hspace]
      split
      · rename_i heq
        exact absurd (List.cons.inj heq).1 hclosing
      · rw [hmembers]
        simp only [bind, Except.bind, hkept]
        rfl

/-! ### Whole values -/

mutual

/-- **A plain value can be written at every level**, and what is written spells it. -/
theorem exists_write_of_isPlain (level : Nat) (v : Value) (h : v.isPlain = true) :
    ∃ text, write level v = .ok text ∧ Spells text v := by
  cases v with
  | scalar s =>
    rw [Value.isPlain] at h
    rw [write]
    exact exists_scalarText_of_isPlain h
  | set xs => rw [Value.isPlain] at h; cases h
  | pair a b => rw [Value.isPlain] at h; cases h
  | list xs =>
    rw [Value.isPlain] at h
    obtain ⟨parts, hparts, hspell⟩ := exists_writeItems_of_itemsArePlain (level + 1) xs h
    rw [write, hparts]
    exact ⟨_, rfl, spells_list hspell level⟩
  | map ms =>
    obtain ⟨hmembers, hnodup⟩ := Value.isPlain_map_iff.mp h
    rw [Value.isPlain] at h
    obtain ⟨parts, hparts, hspell⟩ := exists_writeMembers_of_membersArePlain (level + 1) ms h
    have hkept := Members.ofList_of_nodup (fun m hm => (hmembers m hm).1) hnodup
    rw [write, hparts]
    exact ⟨_, rfl, spells_map hspell hkept level⟩

theorem exists_writeItems_of_itemsArePlain (level : Nat) (xs : List Value)
    (h : Value.itemsArePlain xs = true) :
    ∃ parts, writeItems level xs = .ok parts ∧ List.Forall₂ Spells parts xs := by
  cases xs with
  | nil => exact ⟨[], by rw [writeItems], .nil⟩
  | cons x xs =>
    rw [Value.itemsArePlain, Bool.and_eq_true] at h
    obtain ⟨part, hpart, hspell⟩ := exists_write_of_isPlain level x h.1
    obtain ⟨parts, hparts, hspells⟩ := exists_writeItems_of_itemsArePlain level xs h.2
    rw [writeItems, hpart, hparts]
    exact ⟨_, rfl, .cons hspell hspells⟩

theorem exists_writeMembers_of_membersArePlain (level : Nat) (ms : List (Scalar × Value))
    (h : Value.membersArePlain ms = true) :
    ∃ parts, writeMembers level ms = .ok parts ∧ List.Forall₂ SpellsMember parts ms := by
  cases ms with
  | nil => exact ⟨[], by rw [writeMembers], .nil⟩
  | cons m ms =>
    obtain ⟨key, v⟩ := m
    rw [Value.membersArePlain, Bool.and_eq_true, Bool.and_eq_true, Scalar.isPlainKey_iff] at h
    obtain ⟨⟨⟨⟨name, rfl⟩, -⟩, hv⟩, hms⟩ := h
    obtain ⟨part, hpart, hspell⟩ := exists_write_of_isPlain level v hv
    obtain ⟨parts, hparts, hspells⟩ := exists_writeMembers_of_membersArePlain level ms hms
    rw [writeMembers, hpart, hparts]
    exact ⟨_, rfl, .cons ⟨name, part, rfl, rfl, hspell⟩ hspells⟩

end

/-- A text that spells a value is read as the value. -/
theorem Spells.parse {text : String} {v : Value} (h : Spells text v) : parse text = .ok v := by
  obtain ⟨c, cs, hhead, hspace, -, hmark⟩ := h.head
  have hskip : skipSpace text.toList = text.toList := by rw [hhead, skipSpace_cons hspace]
  have hread := @h.read (text.toList.length + 1) (Nat.le_succ _) []
  rw [List.append_nil] at hread
  rw [Json.parse, readAll.eq_def]
  split
  · rename_i heq
    rw [hhead] at heq
    exact absurd (List.cons.inj heq).1 hmark
  · rw [hskip, hread]
    rfl

/-- **Plain values can be written as JSON and read back.** What is written has no carriage return. -/
theorem exists_render_of_isPlain {v : Value} (h : v.isPlain = true) :
    ∃ text, render v = .ok text ∧ parse text = .ok v ∧ '\r' ∉ text.toList := by
  obtain ⟨text, htext, hspell⟩ := exists_write_of_isPlain 0 v h
  exact ⟨text, htext, hspell.parse, hspell.noReturn⟩

end Json

end RouteAtlas
