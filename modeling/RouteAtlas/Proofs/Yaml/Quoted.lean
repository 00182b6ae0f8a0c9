import Mathlib.Data.List.Induction
import RouteAtlas.Yaml.Writer
import RouteAtlas.Proofs.Yaml.Spots

/-!
# Scalars in quotes

What stands between quotes is read back piece by piece: `Reads` says what the reader gives from a
place on, and there is one step for each kind of piece, from an ordinary character to a run of line
ends with the indentation behind it. Both bodies are then an induction on the text.

In double quotes every text comes back (`Reads.doubleBody`). In single quotes it comes back folded
(`Reads.singleBody`): the reader takes a next-line character for a line feed, but the writer does
not double it, so `refold` gives the text back exactly if it has no such character
(`refold_eq_self_iff`).
-/

namespace RouteAtlas.Yaml

/-! ### Digits -/

theorem toNat_lt (c : Char) : c.toNat < 0x110000 := by
  rcases c.valid with h | ⟨-, h⟩
  · exact h.trans (by decide)
  · exact h

theorem hexDigit?_toUpper_digitChar :
    ∀ d < 16, Text.hexDigit? (Nat.digitChar d).toUpper = some d := by decide

theorem hexValue?_concat (cs : List Char) (c : Char) :
    Text.hexValue? (cs ++ [c]) =
      (Text.hexValue? cs).bind fun n => (Text.hexDigit? c).map (n * 16 + ·) := by
  rw [Text.hexValue?, List.foldlM_append]
  simp [Text.hexValue?, Option.bind_eq_bind]

theorem hexValue?_replicate_append (k : Nat) (cs : List Char) :
    Text.hexValue? (List.replicate k '0' ++ cs) = Text.hexValue? cs := by
  induction k with
  | zero => rfl
  | succ k ih =>
    rw [← ih]
    rfl

theorem hexValue?_toDigits (n : Nat) :
    Text.hexValue? ((Nat.toDigits 16 n).map Char.toUpper) = some n := by
  induction n using Nat.strong_induction_on with
  | _ n ih =>
    have hlast : Text.hexDigit? (n % 16).digitChar.toUpper = some (n % 16) :=
      hexDigit?_toUpper_digitChar _ (Nat.mod_lt n (by decide))
    by_cases hn : n < 16
    · rw [Nat.toDigits_of_lt_base hn, List.map_singleton, ← List.nil_append [_], hexValue?_concat]
      rw [Nat.mod_eq_of_lt hn] at hlast
      rw [hlast]
      simp [Text.hexValue?]
    · have hdigits := Nat.toDigits_of_base_le (b := 16) (by decide) (Nat.le_of_not_lt hn)
      rw [hdigits, List.map_append, List.map_singleton, hexValue?_concat, ih (n / 16) (by omega),
        hlast]
      simp only [Option.bind_some, Option.map_some, Option.some.injEq]
      omega

theorem toList_upperHex (width n : Nat) :
    (upperHex width n).toList =
      List.replicate (width - (Nat.toDigits 16 n).length) '0' ++
        (Nat.toDigits 16 n).map Char.toUpper := by
  simp [upperHex, Text.padLeft]

/-- **A number in hexadecimal digits** has the asked width and is read back. -/
theorem upperHex_spec {width n : Nat} (hwidth : 0 < width) (h : n < Nat.pow 16 width) :
    (upperHex width n).toList.length = width ∧
      Text.hexValue? (upperHex width n).toList = some n := by
  rw [toList_upperHex, hexValue?_replicate_append, hexValue?_toDigits]
  have hlength := (Nat.length_toDigits_le_iff (by decide) hwidth).mpr h
  simp only [List.length_append, List.length_replicate, List.length_map, and_true]
  omega

/-! ### Reading step by step -/

/-- What reading a scalar in quotes gives, whatever bound on the number of steps it is given. -/
def Reads (double : Bool) (done : List Char) (s : Spot)
    (r : Except Flaw (List Char × Spot)) : Prop :=
  ∀ fuel, s.rest.length < fuel → quotedScalar double fuel done s = r

variable {double : Bool} {done cs : List Char} {c : Char} {s s' : Spot}
  {r : Except Flaw (List Char × Spot)}

/-- One step of reading that adds to the text and moves on. -/
theorem Reads.of_step {more : List Char} (hs : s'.rest.length < s.rest.length)
    (hstep : ∀ fuel, quotedScalar double (fuel + 1) done s =
      quotedScalar double fuel (done ++ more) s')
    (h : Reads double (done ++ more) s' r) : Reads double done s r := by
  intro fuel hfuel
  obtain ⟨fuel, rfl⟩ := Nat.exists_eq_add_one_of_ne_zero (Nat.ne_of_gt (Nat.zero_lt_of_lt hfuel))
  rw [hstep]
  exact h fuel (by omega)

theorem length_rest_step_lt (hs : s.rest = c :: cs) : s.step.rest.length < s.rest.length := by
  rw [Spot.rest_step, hs]
  exact Nat.lt_succ_self _

theorem rest_step_cons (hs : s.rest = c :: cs) : s.step.rest = cs := by
  rw [Spot.rest_step, hs]
  rfl

theorem span_cons {p : Char → Bool} (hs : s.rest = c :: cs) (hc : p c = true) :
    s.span p = (c :: (s.step.span p).1, (s.step.span p).2) := by
  rw [Spot.span, Spot.span, hs, List.takeWhile_cons_of_pos hc, rest_step_cons hs]
  rfl

/-- Where the reader takes the longest run of characters of a class, the characters may be taken one
by one. -/
theorem Reads.of_run {p : Char → Bool} {Q : List Char → Prop}
    (hstep : ∀ done s c cs fuel, s.rest = c :: cs → p c = true → Q s.rest →
      quotedScalar double (fuel + 1) done s =
        quotedScalar double fuel (done ++ (s.span p).1) (s.span p).2)
    (hs : s.rest = c :: cs) (hc : p c = true) (hQ : Q (c :: cs)) (hQtail : Q cs)
    (h : Reads double (done ++ [c]) s.step r) : Reads double done s r := by
  have hshort := length_rest_step_lt hs
  have hrest := rest_step_cons hs
  intro fuel hfuel
  obtain ⟨fuel, rfl⟩ := Nat.exists_eq_add_one_of_ne_zero (Nat.ne_of_gt (Nat.zero_lt_of_lt hfuel))
  rw [hstep done s c cs fuel hs hc (hs ▸ hQ), span_cons hs hc, ← List.singleton_append,
    ← List.append_assoc]
  by_cases hstop : StopsAt p cs
  · rw [Spot.span_of_stopsAt (hrest ▸ hstop), List.append_nil]
    exact h fuel (by omega)
  · obtain ⟨d, ds, rfl, hd⟩ : ∃ d ds, cs = d :: ds ∧ p d = true := by
      cases cs with
      | nil => exact absurd (stopsAt_nil p) hstop
      | cons d ds => exact ⟨d, ds, rfl, by simpa using hstop⟩
    rw [← hstep (done ++ [c]) s.step d ds fuel hrest hd (hrest ▸ hQtail)]
    exact h (fuel + 1) (by omega)

/-- A character that is not special is read as itself. -/
theorem Reads.ordinary (hs : s.rest = c :: cs) (hc : isQuotedStop c = false)
    (h : Reads double (done ++ [c]) s.step r) : Reads double done s r := by
  refine Reads.of_run (p := fun d => !isQuotedStop d) (Q := fun _ => True) ?_ hs (by simp [hc])
    trivial trivial h
  intro done s c cs fuel hs hc _
  rw [quotedScalar, hs]
  simp only [hc, if_true]

/-- Blanks inside quotes. -/
def isQuotedBlank (c : Char) : Bool := c == ' ' || c == '\t'

/-- Whether something other than a line end comes behind the blanks at the beginning. -/
def continues : List Char → Bool
  | [] => false
  | c :: cs => if isQuotedBlank c then continues cs else !isLineEnd c

theorem quotedGap_eq (s : Spot) :
    quotedGap s =
      if (s.span isQuotedBlank).2.rest.isEmpty then .error .malformed
      else if (s.span isQuotedBlank).2.atLineEnd then (do
        let (first, s) := (s.span isQuotedBlank).2.lineBreak
        let (more, s) ← quotedBreaks (s.rest.length + 1) [] s
        return (foldBreaks first more, s))
      else .ok (s.span isQuotedBlank) := rfl

theorem quotedGap_of_continues (h : continues s.rest = true) :
    quotedGap s = .ok (s.span isQuotedBlank) := by
  have hgo : ∀ cs, continues cs = true →
      ∃ d ds, cs.drop (cs.takeWhile isQuotedBlank).length = d :: ds ∧ isLineEnd d = false := by
    intro cs hcs
    induction cs with
    | nil => cases hcs
    | cons c cs ih =>
      rw [continues] at hcs
      cases hc : isQuotedBlank c with
      | true =>
        rw [List.takeWhile_cons_of_pos hc]
        rw [hc, if_pos rfl] at hcs
        exact ih hcs
      | false =>
        rw [hc] at hcs
        refine ⟨c, cs, ?_, by simpa using hcs⟩
        rw [List.takeWhile_cons, hc]
        rfl
  obtain ⟨d, ds, hdrop, hd⟩ := hgo _ h
  have hrest : (s.span isQuotedBlank).2.rest = d :: ds := by
    rw [Spot.span, Spot.rest_advance, hdrop]
  rw [quotedGap_eq, Spot.atLineEnd_cons hrest, hrest, hd]
  rfl

/-- A blank in front of which no line ends is read as itself. -/
theorem Reads.blank (hs : s.rest = ' ' :: cs) (hcs : continues cs = true)
    (h : Reads double (done ++ [' ']) s.step r) : Reads double done s r := by
  refine Reads.of_run (p := isQuotedBlank) (Q := fun cs => continues cs = true) ?_ hs rfl
    hcs hcs h
  intro done s c cs fuel hs hc hgo
  have hgap := quotedGap_of_continues hgo
  rw [quotedScalar, hs]
  have hcases : c = ' ' ∨ c = '\t' := by simpa [isQuotedBlank] using hc
  rcases hcases with rfl | rfl <;> cases double <;> simp only [hgap] <;> rfl

/-- The quote of the other kind, and a backslash in single quotes, are read as themselves. -/
theorem Reads.other (hs : s.rest = c :: cs)
    (hc : if double then c = '\'' else c = '"' ∨ c = '\\')
    (h : Reads double (done ++ [c]) s.step r) : Reads double done s r := by
  refine h.of_step (length_rest_step_lt hs) fun fuel => ?_
  rw [quotedScalar, hs]
  cases double with
  | false => rcases hc with rfl | rfl <;> rfl
  | true => obtain rfl : c = '\'' := hc; rfl

/-- Two single quotes stand for one. -/
theorem Reads.doubled (hs : s.rest = '\'' :: '\'' :: cs)
    (h : Reads false (done ++ ['\'']) (s.advance 2) r) : Reads false done s r := by
  refine h.of_step ?_ fun fuel => ?_
  · rw [Spot.rest_advance, hs]
    simp only [List.drop_succ_cons, List.drop_zero, List.length_cons]
    omega
  · rw [quotedScalar, hs]
    rfl

/-- An escape. -/
theorem Reads.escape {more : List Char} (hs : s.rest = '\\' :: cs)
    (hescape : escape s.step = .ok (more, s')) (hlength : s'.rest.length < s.rest.length)
    (h : Reads true (done ++ more) s' r) : Reads true done s r := by
  refine h.of_step hlength fun fuel => ?_
  rw [quotedScalar, hs]
  simp only [hescape]
  rfl

/-- The quote that closes the scalar, which in single quotes may not be followed by another one. -/
theorem Reads.close (hs : s.rest = (if double then '"' else '\'') :: cs)
    (hcs : double = false → StopsAt (· == '\'') cs) : Reads double done s (.ok (done, s.step)) := by
  intro fuel hfuel
  obtain ⟨fuel, rfl⟩ := Nat.exists_eq_add_one_of_ne_zero (Nat.ne_of_gt (Nat.zero_lt_of_lt hfuel))
  rw [quotedScalar, hs]
  cases double with
  | true => rfl
  | false =>
    have hhead : (cs.head? == some '\'') = false := by
      cases cs with
      | nil => rfl
      | cons d ds => simpa using hcs rfl
    simp [hhead, isQuotedStop]

/-! ### Double quotes -/

/-- What stands between double quotes. -/
def doubleBody (cs : List Char) : List Char := cs.flatMap fun c => (doubleQuoted c).toList

/-- Characters that stand for themselves in double quotes. -/
def standsForItself (c : Char) : Bool :=
  ((0x20 ≤ c.toNat && c.toNat ≤ 0x7E) || (0xA0 ≤ c.toNat && c.toNat ≤ 0xD7FF) ||
    (0xE000 ≤ c.toNat && c.toNat ≤ 0xFFFD)) &&
    !(['"', '\\', '\u2028', '\u2029', '\uFEFF'].contains c)

/-- A visible character of ASCII, or a blank. -/
def isVisible (c : Char) : Bool := 0x20 ≤ c.toNat && c.toNat ≤ 0x7E

/-- **How a character is written in double quotes**: as itself, by a letter, or by its number in
two, four or eight digits. -/
theorem doubleQuoted_cases (c : Char) :
    (standsForItself c = true ∧ (doubleQuoted c).toList = [c]) ∨
    (∃ d, isVisible d = true ∧ letterEscape? d = some c ∧ (doubleQuoted c).toList = ['\\', d]) ∨
    ∃ d width, isVisible d = true ∧ letterEscape? d = none ∧ codeDigits? d = some width ∧
      0 < width ∧ c.toNat < Nat.pow 16 width ∧
      (doubleQuoted c).toList = '\\' :: d :: (upperHex width c.toNat).toList := by
  have hquoted : doubleQuoted c = if standsForItself c then c.toString
      else (letterEscapes.lookup c).elim
        (if c.toNat ≤ 0xFF then "\\x" ++ upperHex 2 c.toNat
          else if c.toNat ≤ 0xFFFF then "\\u" ++ upperHex 4 c.toNat
          else "\\U" ++ upperHex 8 c.toNat) ("\\" ++ ·) := by
    rw [doubleQuoted]
    cases letterEscapes.lookup c <;> rfl
  by_cases hself : standsForItself c = true
  · exact .inl ⟨hself, by rw [hquoted, if_pos hself]; simp⟩
  · right
    rw [hquoted, if_neg hself]
    cases hlookup : letterEscapes.lookup c with
    | some e =>
      have hletters : ∀ p ∈ letterEscapes, isVisible (p.2.toList.headD ' ') = true ∧
          letterEscape? (p.2.toList.headD ' ') = some p.1 ∧ p.2.toList.length = 1 := by
        decide
      obtain ⟨before, behind, hsplit, -⟩ := List.lookup_eq_some_iff.mp hlookup
      obtain ⟨hvisible, hd, hlength⟩ := hletters (c, e) (by simp [hsplit])
      obtain ⟨d, he⟩ := List.length_eq_one_iff.mp hlength
      rw [he] at hvisible hd
      exact .inl ⟨d, hvisible, hd, by simp [he]⟩
    | none =>
      have hlt : c.toNat < 0x110000 := toNat_lt c
      simp only [Option.elim]
      split_ifs with hbyte hword
      · exact .inr ⟨'x', 2, rfl, rfl, rfl, by decide, show c.toNat < 256 by omega, by simp⟩
      · exact .inr ⟨'u', 4, rfl, rfl, rfl, by decide, show c.toNat < 65536 by omega, by simp⟩
      · exact .inr ⟨'U', 8, rfl, rfl, rfl, by decide, show c.toNat < 4294967296 by omega, by simp⟩

/-- Of the characters that stand for themselves, the blank and the single quote are special. -/
theorem standsForItself_cases (h : standsForItself c = true) :
    isQuotedStop c = false ∨ c = ' ' ∨ c = '\'' := by
  by_contra hcon
  obtain ⟨hstop, hblank, hquote⟩ : isQuotedStop c = true ∧ c ≠ ' ' ∧ c ≠ '\'' := by
    simpa [not_or] using hcon
  have hcases : c = '"' ∨ c = '\\' ∨ c = '\t' ∨ c = '\n' ∨ c = '\r' ∨ c = '\x85' ∨
      c = '\u2028' ∨ c = '\u2029' := by
    simpa [isQuotedStop, isWhite, isLineEnd, hblank, hquote, or_assoc] using hstop
  rcases hcases with rfl | rfl | rfl | rfl | rfl | rfl | rfl | rfl <;> simp [standsForItself] at h

theorem isInline_of_standsForItself (h : standsForItself c = true) : isInline c = true := by
  refine isInline_iff.mpr ⟨?_, ?_⟩
  · by_contra hend
    rcases isLineEnd_iff.mp ((Bool.not_eq_false _).mp hend) with rfl | rfl | rfl | rfl | rfl <;>
      simp [standsForItself] at h
  · rintro rfl
    simp [standsForItself] at h

theorem isOrdinary_of_standsForItself (h : standsForItself c = true) : isOrdinary c = true := by
  have hmark : c.toNat ≠ 0xFEFF := by
    intro hc
    rw [← Char.ofNat_toNat c, hc] at h
    cases h
  simp only [standsForItself, Bool.and_eq_true, Bool.or_eq_true, decide_eq_true_eq] at h
  simp only [isOrdinary, Bool.and_eq_true, Bool.or_eq_true, decide_eq_true_eq, bne_iff_ne]
  grind

theorem escape_letter {d : Char} (hs : s.rest = d :: cs) (hd : letterEscape? d = some c) :
    escape s = .ok ([c], s.step) := by
  rw [escape, hs]
  simp only [hd]

theorem escape_code {d : Char} {width : Nat} (hletter : letterEscape? d = none)
    (hcode : codeDigits? d = some width) (hwidth : 0 < width) (hc : c.toNat < Nat.pow 16 width)
    (hs : s.rest = d :: ((upperHex width c.toNat).toList ++ cs)) :
    escape s = .ok ([c], s.advance (width + 1)) := by
  obtain ⟨hlength, hvalue⟩ := upperHex_spec hwidth hc
  have htake : ((upperHex width c.toNat).toList ++ cs).take width =
      (upperHex width c.toNat).toList := by
    rw [List.take_append_of_le_length (Nat.le_of_eq hlength.symm), List.take_of_length_le (by omega)]
  rw [escape, hs]
  simp only [hletter, hcode, htake, hlength, Nat.lt_irrefl, if_false, hvalue]
  rw [if_pos (toNat_lt c), Text.charOfCode_toNat]

/-- **A character in double quotes** is read back. -/
theorem Reads.doubleQuoted (hs : s.rest = (doubleQuoted c).toList ++ cs)
    (hcs : continues cs = true)
    (h : Reads true (done ++ [c]) (s.advance (Yaml.doubleQuoted c).toList.length) r) :
    Reads true done s r := by
  rcases doubleQuoted_cases c with ⟨hself, hc⟩ | ⟨d, -, hd, hc⟩ |
    ⟨d, width, -, hletter, hcode, hwidth, hlt, hc⟩
  · rw [hc] at hs h
    rcases standsForItself_cases hself with hstop | rfl | rfl
    · exact Reads.ordinary hs hstop h
    · exact Reads.blank hs hcs h
    · exact Reads.other hs rfl h
  · rw [hc] at hs h
    refine Reads.escape hs (escape_letter (rest_step_cons hs) hd) ?_ h
    exact (length_rest_step_lt (rest_step_cons hs)).trans (length_rest_step_lt hs)
  · rw [hc] at hs h
    have hlength := (upperHex_spec hwidth hlt).1
    refine Reads.escape hs (escape_code hletter hcode hwidth hlt (rest_step_cons hs)) ?_ ?_
    · rw [Spot.rest_advance, Spot.rest_step, List.drop_drop, List.length_drop, hs]
      simp only [List.cons_append, List.length_cons]
      omega
    · rwa [List.length_cons, List.length_cons, hlength, Nat.add_comm (width + 1), Spot.advance_add,
        Spot.advance_one] at h

theorem hexDigit?_isSome_of_hexValue? {ds : List Char} {n : Nat} (h : Text.hexValue? ds = some n) :
    ∀ d ∈ ds, (Text.hexDigit? d).isSome = true := by
  induction ds using List.reverseRecOn generalizing n with
  | nil => exact fun d hd => absurd hd List.not_mem_nil
  | append_singleton ds d ih =>
    rw [hexValue?_concat] at h
    obtain ⟨m, hm, hd⟩ := Option.bind_eq_some_iff.mp h
    obtain ⟨k, hk, -⟩ := Option.map_eq_some_iff.mp hd
    intro e he
    rcases List.mem_append.mp he with he | he
    · exact ih hm e he
    · rw [List.mem_singleton.mp he, hk]
      rfl

theorem isVisible_of_hexDigit? (h : (Text.hexDigit? c).isSome = true) : isVisible c = true := by
  have hcases : ('0' ≤ c ∧ c ≤ '9') ∨ ('a' ≤ c ∧ c ≤ 'f') ∨ 'A' ≤ c ∧ c ≤ 'F' := by
    rw [Text.hexDigit?] at h
    split_ifs at h with hdigit hlower hupper
    · exact .inl (by simpa using hdigit)
    · exact .inr (.inl (by simpa using hlower))
    · exact .inr (.inr (by simpa using hupper))
    · cases h
  simp only [Char.le_def, UInt32.le_iff_toNat_le] at hcases
  simp only [isVisible, Bool.and_eq_true, decide_eq_true_eq, Char.toNat]
  rcases hcases with h | h | h <;> exact ⟨le_trans (by decide) h.1, le_trans h.2 (by decide)⟩

theorem isOrdinary_of_isVisible (h : isVisible c = true) : isOrdinary c = true := by
  simp only [isVisible, Bool.and_eq_true, decide_eq_true_eq] at h
  simp [isOrdinary, h]

theorem isInline_of_isVisible (h : isVisible c = true) : isInline c = true := by
  refine isInline_iff.mpr ⟨?_, ?_⟩
  · by_contra hend
    rcases isLineEnd_iff.mp ((Bool.not_eq_false _).mp hend) with rfl | rfl | rfl | rfl | rfl <;>
      cases h
  · rintro rfl
    cases h

/-- What stands between double quotes is on one line and made of characters that may be written. -/
theorem mem_doubleBody {cs : List Char} (h : c ∈ doubleBody cs) :
    isOrdinary c = true ∧ isInline c = true := by
  obtain ⟨d, -, hd⟩ := List.mem_flatMap.mp h
  suffices hcases : standsForItself c = true ∨ isVisible c = true by
    rcases hcases with hself | hvisible
    · exact ⟨isOrdinary_of_standsForItself hself, isInline_of_standsForItself hself⟩
    · exact ⟨isOrdinary_of_isVisible hvisible, isInline_of_isVisible hvisible⟩
  rcases doubleQuoted_cases d with ⟨hself, hc⟩ | ⟨e, he, -, hc⟩ |
    ⟨e, width, he, -, -, hwidth, hlt, hc⟩
  · rw [hc, List.mem_singleton] at hd
    exact .inl (hd ▸ hself)
  · right
    rw [hc] at hd
    rcases List.mem_cons.mp hd with rfl | hd
    · rfl
    · rwa [List.mem_singleton.mp hd]
  · right
    rw [hc] at hd
    rcases List.mem_cons.mp hd with rfl | hd
    · rfl
    · rcases List.mem_cons.mp hd with rfl | hd
      · exact he
      · exact isVisible_of_hexDigit?
          (hexDigit?_isSome_of_hexValue? (upperHex_spec hwidth hlt).2 c hd)

theorem continues_doubleQuoted_append (c : Char) (hcs : continues cs = true) :
    continues ((doubleQuoted c).toList ++ cs) = true := by
  rcases doubleQuoted_cases c with ⟨hself, hc⟩ | ⟨d, -, -, hc⟩ |
    ⟨d, width, -, -, -, -, -, hc⟩
  · rw [hc, List.singleton_append, continues]
    split_ifs with hblank
    · exact hcs
    · simp [(isInline_iff.mp (isInline_of_standsForItself hself)).1]
  · rw [hc]
    rfl
  · rw [hc]
    rfl

theorem continues_doubleBody_append (cs : List Char) {rest : List Char}
    (hrest : continues rest = true) : continues (doubleBody cs ++ rest) = true := by
  induction cs with
  | nil => exact hrest
  | cons c cs ih =>
    rw [doubleBody, List.flatMap_cons, List.append_assoc]
    exact continues_doubleQuoted_append c ih

/-- **What stands between double quotes** is read back. -/
theorem Reads.doubleBody {rest : List Char} (hs : s.rest = doubleBody cs ++ '"' :: rest) :
    Reads true done s (.ok (done ++ cs, s.advance ((Yaml.doubleBody cs).length + 1))) := by
  induction cs generalizing s done with
  | nil =>
    rw [List.append_nil]
    exact Reads.close hs (by simp)
  | cons c cs ih =>
    rw [Yaml.doubleBody, List.flatMap_cons, List.append_assoc] at hs
    refine Reads.doubleQuoted hs (continues_doubleBody_append cs rfl) ?_
    have hrest : (s.advance (Yaml.doubleQuoted c).toList.length).rest =
        Yaml.doubleBody cs ++ '"' :: rest := by
      rw [Spot.rest_advance, hs, List.drop_left]
      rfl
    have htail : Reads true (done ++ [c]) _ _ := ih hrest
    rwa [← Spot.advance_add, List.append_assoc, List.singleton_append, ← Nat.add_assoc,
      ← List.length_append] at htail

/-! ### Single quotes -/

/-- What stands between single quotes. The first line end of a run is written twice if it is a line
feed, and indentation comes behind a run; a quote is doubled. -/
def singleBody (indent : Nat) (afterBreak : Bool) : List Char → List Char
  | [] => if afterBreak then List.replicate indent ' ' else []
  | c :: cs =>
    if isBreak c then
      (if !afterBreak && c == '\n' then ['\n'] else []) ++ c :: singleBody indent true cs
    else
      (if afterBreak then List.replicate indent ' ' else []) ++
        (if c == '\'' then ['\'', '\''] else [c]) ++ singleBody indent false cs

/-- How a text in single quotes is read back. A next-line character is a line end like a line feed,
but the writer does not write it twice: the first one of a run is lost, and becomes a blank if it is
the only one. -/
def refold (afterBreak : Bool) : List Char → List Char
  | [] => []
  | c :: cs =>
    (if c == '\x85' then
      if afterBreak then ['\n'] else if endsOr (fun d => !isBreak d) cs then [' '] else []
    else [c]) ++ refold (isBreak c) cs

theorem isBreak_iff : isBreak c = true ↔ isLineEnd c = true ∧ c ≠ '\r' := by
  rw [isLineEnd_iff]
  simp only [isBreak, Bool.or_eq_true, beq_iff_eq]
  constructor
  · rintro (((rfl | rfl) | rfl) | rfl) <;> simp
  · grind

/-- **Texts without next-line characters**, and no others, are read back as they are. -/
theorem refold_eq_self_iff (cs : List Char) : refold false cs = cs ↔ '\x85' ∉ cs := by
  constructor
  · intro h
    -- Nothing that is read has a next-line character.
    have hnone : ∀ (b : Bool) (cs : List Char), '\x85' ∉ refold b cs := by
      intro b cs
      induction cs generalizing b with
      | nil => exact List.not_mem_nil
      | cons c cs ih =>
        rw [refold, List.mem_append, not_or]
        refine ⟨?_, ih _⟩
        split_ifs with hc
        · decide
        · decide
        · decide
        · exact fun hmem => hc (beq_iff_eq.mpr (List.mem_singleton.mp hmem).symm)
    rw [← h]
    exact hnone false cs
  · intro h
    suffices hall : ∀ b, refold b cs = cs from hall false
    intro b
    induction cs generalizing b with
    | nil => rfl
    | cons c cs ih =>
      obtain ⟨hc, hcs⟩ := not_or.mp (mt List.mem_cons.mpr h)
      have hne : (c == '\x85') = false := beq_eq_false_iff_ne.mpr (Ne.symm hc)
      rw [refold, hne, ih hcs]
      rfl

theorem mem_singleBody {indent : Nat} {afterBreak : Bool} {cs : List Char}
    (h : c ∈ singleBody indent afterBreak cs) : c ∈ cs ∨ c = ' ' ∨ c = '\'' := by
  have hindent {b : Bool} (hc : c ∈ if b then List.replicate indent ' ' else []) : c = ' ' := by
    cases b with
    | true => exact List.eq_of_mem_replicate hc
    | false => cases hc
  induction cs generalizing afterBreak with
  | nil => exact .inr (.inl (hindent h))
  | cons d ds ih =>
    rw [singleBody] at h
    split_ifs at h <;> grind

/-! ### Runs of line ends -/

theorem quotedBreaks_succ (fuel : Nat) (acc : List Char) (h : s.atSeparator = false) :
    quotedBreaks (fuel + 1) acc s =
      if !(s.skipWhile isQuotedBlank).rest.isEmpty && (s.skipWhile isQuotedBlank).atLineEnd then
        quotedBreaks fuel (acc ++ (s.skipWhile isQuotedBlank).lineBreak.1)
          (s.skipWhile isQuotedBlank).lineBreak.2
      else .ok (acc, s.skipWhile isQuotedBlank) := by
  rw [quotedBreaks, h]
  rfl

theorem isWhite_of_isQuotedBlank (h : isQuotedBlank c = true) : isWhite c = true := by
  rw [isWhite, Bool.or_eq_true]
  exact .inl h

theorem isWhite_of_isLineEnd (h : isLineEnd c = true) : isWhite c = true := by
  rw [isWhite, h, Bool.or_true]

/-- **Line ends inside quotes** stand for themselves, and the indentation behind them for nothing. -/
theorem quotedBreaks_run {indent fuel : Nat} {bs rest acc : List Char} (hindent : 0 < indent)
    (hbs : ∀ b ∈ bs, isBreak b = true) (hrest : StopsAt isWhite rest) (hfuel : bs.length < fuel)
    (hs : s.rest = bs ++ (List.replicate indent ' ' ++ rest)) :
    quotedBreaks fuel acc s =
      .ok (acc ++ bs.map Spot.ofLineEnd, s.advance (bs.length + indent)) := by
  induction bs generalizing fuel acc s with
  | nil =>
    obtain ⟨fuel, rfl⟩ := Nat.exists_eq_add_one_of_ne_zero (Nat.ne_of_gt (Nat.zero_lt_of_lt hfuel))
    have hseparator : s.atSeparator = false := by
      obtain ⟨k, rfl⟩ := Nat.exists_eq_add_one_of_ne_zero (Nat.ne_of_gt hindent)
      exact Spot.atSeparator_cons_of_ne hs (by decide) (by decide)
    have hblanks : s.skipWhile isQuotedBlank = s.advance indent := by
      rw [List.nil_append] at hs
      rw [Spot.skipWhile_append hs, List.length_replicate]
      · intro c hc
        rw [List.eq_of_mem_replicate hc]
        rfl
      · exact hrest.imp fun _ => isWhite_of_isQuotedBlank
    have hstop : StopsAt isLineEnd (s.advance indent).rest := by
      rw [Spot.rest_advance, hs, List.nil_append, List.drop_left' List.length_replicate]
      exact hrest.imp fun _ => isWhite_of_isLineEnd
    rw [quotedBreaks_succ fuel acc hseparator, hblanks, Spot.atLineEnd_of_stopsAt hstop]
    simp
  | cons b bs ih =>
    obtain ⟨fuel, rfl⟩ := Nat.exists_eq_add_one_of_ne_zero (Nat.ne_of_gt (Nat.zero_lt_of_lt hfuel))
    obtain ⟨hb, hbs⟩ := List.forall_mem_cons.mp hbs
    obtain ⟨hend, hreturn⟩ := isBreak_iff.mp hb
    have hseparator : s.atSeparator = false := by
      refine Spot.atSeparator_cons_of_ne hs ?_ ?_ <;> rintro rfl <;> cases hend
    have hblanks : s.skipWhile isQuotedBlank = s := by
      refine Spot.skipWhile_of_stopsAt ?_
      rw [hs, List.cons_append, stopsAt_cons_iff]
      rcases isLineEnd_iff.mp hend with rfl | rfl | rfl | rfl | rfl <;> rfl
    rw [quotedBreaks_succ fuel acc hseparator, hblanks, Spot.atLineEnd_cons hs, hend, hs,
      Spot.lineBreak_cons hs hend hreturn]
    simp only [List.cons_append, List.isEmpty_cons, Bool.not_false, Bool.and_self, if_true]
    rw [ih hbs (Nat.lt_of_succ_lt_succ hfuel) (rest_step_cons hs), List.append_assoc,
      List.length_cons, Nat.add_right_comm, Spot.advance]
    rfl

/-- What a run of line ends in single quotes is read as. -/
def refoldRun (bs : List Char) : List Char :=
  match bs with
  | [] => []
  | b :: bs =>
    if b == '\x85' then if bs.isEmpty then [' '] else bs.map Spot.ofLineEnd
    else b :: bs.map Spot.ofLineEnd

theorem quotedGap_break {indent : Nat} {e : Char} {bs rest : List Char} (hindent : 0 < indent)
    (he : isBreak e = true) (hbs : ∀ b ∈ bs, isBreak b = true) (hrest : StopsAt isWhite rest)
    (hs : s.rest = e :: (bs ++ (List.replicate indent ' ' ++ rest))) :
    quotedGap s = .ok (foldBreaks [Spot.ofLineEnd e] (bs.map Spot.ofLineEnd),
      s.advance (bs.length + indent + 1)) := by
  obtain ⟨hend, hreturn⟩ := isBreak_iff.mp he
  have hblank : isQuotedBlank e = false := by
    rcases isLineEnd_iff.mp hend with rfl | rfl | rfl | rfl | rfl <;> rfl
  have hspan : s.span isQuotedBlank = ([], s) :=
    Spot.span_of_stopsAt (hs ▸ stopsAt_cons_iff.mpr hblank)
  have hmore : quotedBreaks (s.step.rest.length + 1) [] s.step =
      .ok ([] ++ bs.map Spot.ofLineEnd, s.step.advance (bs.length + indent)) := by
    refine quotedBreaks_run hindent hbs hrest ?_ (rest_step_cons hs)
    rw [rest_step_cons hs, List.length_append]
    omega
  rw [quotedGap_eq, hspan]
  simp only [Spot.atLineEnd_cons hs, hend, Spot.lineBreak_cons hs hend hreturn, hmore, hs]
  rfl

/-- How a run of line ends is written in single quotes. -/
def runBody : List Char → List Char
  | '\n' :: bs => '\n' :: '\n' :: bs
  | bs => bs

/-- A gap that begins with a line end. -/
theorem Reads.gap {more : List Char} (hs : s.rest = c :: cs) (hc : isBreak c = true)
    (hgap : quotedGap s = .ok (more, s')) (hlength : s'.rest.length < s.rest.length)
    (h : Reads double (done ++ more) s' r) : Reads double done s r := by
  refine h.of_step hlength fun fuel => ?_
  rw [quotedScalar, hs]
  simp only [hgap]
  rcases isLineEnd_iff.mp (isBreak_iff.mp hc).1 with rfl | rfl | rfl | rfl | rfl <;>
    cases double <;> rfl

/-- **A run of line ends in single quotes** and the indentation behind it. -/
theorem Reads.run {indent : Nat} {b : Char} {bs rest : List Char} (hindent : 0 < indent)
    (hbs : ∀ d ∈ b :: bs, isBreak d = true) (hrest : StopsAt isWhite rest)
    (hs : s.rest = runBody (b :: bs) ++ (List.replicate indent ' ' ++ rest))
    (h : Reads false (done ++ refoldRun (b :: bs))
      (s.advance ((runBody (b :: bs)).length + indent)) r) :
    Reads false done s r := by
  have hlength : (s.advance ((runBody (b :: bs)).length + indent)).rest.length < s.rest.length := by
    rw [Spot.rest_advance, hs]
    simp only [List.length_drop, List.length_append, List.length_replicate]
    omega
  obtain ⟨hb, htail⟩ := List.forall_mem_cons.mp hbs
  -- A line feed in front is written twice, since a single one is folded to a blank.
  by_cases hfeed : b = '\n'
  · subst hfeed
    rw [runBody, List.length_cons, Nat.add_right_comm] at h hlength
    refine Reads.gap hs rfl (quotedGap_break hindent rfl hbs hrest hs) hlength ?_
    exact h
  · have hself : runBody (b :: bs) = b :: bs := by
      rw [runBody]
      intro bs heq
      exact hfeed (List.cons.inj heq).1
    rw [hself, List.length_cons, Nat.add_right_comm] at h hlength
    rw [hself, List.cons_append] at hs
    refine Reads.gap hs hb (quotedGap_break hindent hb htail hrest hs) hlength ?_
    have hheard : foldBreaks [Spot.ofLineEnd b] (bs.map Spot.ofLineEnd) = refoldRun (b :: bs) := by
      rw [foldBreaks, refoldRun, Spot.ofLineEnd]
      by_cases hnext : b = '\x85'
      · simp [hnext]
      · simp [hnext, hfeed]
    rwa [hheard]

theorem singleBody_true (indent : Nat) (cs : List Char) :
    singleBody indent true cs = cs.takeWhile isBreak ++
      (List.replicate indent ' ' ++ singleBody indent false (cs.dropWhile isBreak)) := by
  induction cs with
  | nil => simp [singleBody]
  | cons c cs ih =>
    cases hc : isBreak c with
    | true => simp [singleBody, hc, ih]
    | false => simp [singleBody, hc]

theorem singleBody_run (indent : Nat) (hc : isBreak c = true) (cs : List Char) :
    singleBody indent false (c :: cs) = runBody (c :: cs.takeWhile isBreak) ++
      (List.replicate indent ' ' ++ singleBody indent false (cs.dropWhile isBreak)) := by
  rw [singleBody, if_pos hc, singleBody_true]
  by_cases hfeed : c = '\n'
  · subst hfeed
    rfl
  · have hself : runBody (c :: cs.takeWhile isBreak) = c :: cs.takeWhile isBreak := by
      rw [runBody]
      intro bs heq
      exact hfeed (List.cons.inj heq).1
    simp [hself, hfeed]

theorem refold_true (cs : List Char) :
    refold true cs =
      (cs.takeWhile isBreak).map Spot.ofLineEnd ++ refold false (cs.dropWhile isBreak) := by
  induction cs with
  | nil => rfl
  | cons c cs ih =>
    cases hc : isBreak c with
    | true =>
      have hstep : refold true (c :: cs) = Spot.ofLineEnd c :: refold true cs := by
        rw [refold, hc, Spot.ofLineEnd]
        by_cases hnext : c = '\x85' <;> simp [hnext]
      rw [hstep, ih, List.takeWhile_cons_of_pos hc, List.dropWhile_cons_of_pos hc]
      rfl
    | false =>
      have hnext : c ≠ '\x85' := by
        rintro rfl
        cases hc
      simp [refold, hc, hnext]

theorem refold_run (hc : isBreak c = true) (cs : List Char) :
    refold false (c :: cs) =
      refoldRun (c :: cs.takeWhile isBreak) ++ refold false (cs.dropWhile isBreak) := by
  rw [refold, hc, refold_true, refoldRun]
  by_cases hnext : c = '\x85'
  · cases cs with
    | nil => simp [hnext, endsOr]
    | cons d ds => cases hd : isBreak d <;> simp [hnext, endsOr, hd]
  · simp [hnext]

theorem allowsSingle_cons_iff {cs : List Char} :
    allowsSingle (c :: cs) = true ↔ isOrdinary c = true ∧ allowsSingle cs = true ∧
      ∀ d ∈ cs.head?, ¬ (c = ' ' ∧ isBreak d = true) ∧ ¬ (isBreak c = true ∧ d = ' ') := by
  cases cs with
  | nil => simp [allowsSingle, hasNeighbours]
  | cons d ds =>
    simp only [allowsSingle, hasNeighbours, List.all_cons, Bool.and_eq_true, Bool.not_eq_true',
      Bool.or_eq_false_iff, Bool.and_eq_false_iff, beq_eq_false_iff_ne, List.head?_cons,
      Option.mem_def, Option.some.injEq, forall_eq']
    grind

theorem not_isLineEnd_of_isOrdinary (hc : isOrdinary c = true) (hbreak : isBreak c = false) :
    isLineEnd c = false := by
  have hreturn : c ≠ '\r' := by
    rintro rfl
    cases hc
  by_contra hend
  rw [isBreak_iff.mpr ⟨(Bool.not_eq_false _).mp hend, hreturn⟩] at hbreak
  cases hbreak

theorem not_isTab_of_isOrdinary (hc : isOrdinary c = true) : c ≠ '\t' := by
  rintro rfl
  cases hc

theorem continues_singleBody (indent : Nat) {cs : List Char} (rest : List Char)
    (h : allowsSingle (' ' :: cs) = true) :
    continues (singleBody indent false cs ++ '\'' :: rest) = true := by
  induction cs with
  | nil => rfl
  | cons d ds ih =>
    obtain ⟨-, htail, hnext⟩ := allowsSingle_cons_iff.mp h
    obtain ⟨hd, -⟩ := allowsSingle_cons_iff.mp htail
    have hbreak : isBreak d = false := by simpa using (hnext d rfl).1
    have hend := not_isLineEnd_of_isOrdinary hd hbreak
    have htab := not_isTab_of_isOrdinary hd
    by_cases hquote : d = '\''
    · subst hquote
      rfl
    · have hbody : singleBody indent false (d :: ds) = d :: singleBody indent false ds := by
        simp [singleBody, hbreak, hquote]
      rw [hbody, List.cons_append, continues]
      split_ifs with hblank
      · obtain rfl : d = ' ' := by simpa [isQuotedBlank, htab] using hblank
        exact ih htail
      · simp [hend]

theorem allowsSingle_dropWhile {cs : List Char} (h : allowsSingle (c :: cs) = true)
    (hc : isBreak c = true) :
    allowsSingle (cs.dropWhile isBreak) = true ∧ ∀ d ∈ (cs.dropWhile isBreak).head?,
      isOrdinary d = true ∧ isBreak d = false ∧ d ≠ ' ' := by
  induction cs generalizing c with
  | nil => exact ⟨rfl, fun d hd => by cases hd⟩
  | cons d ds ih =>
    obtain ⟨-, htail, hnext⟩ := allowsSingle_cons_iff.mp h
    cases hd : isBreak d with
    | true =>
      rw [List.dropWhile_cons_of_pos hd]
      exact ih htail hd
    | false =>
      rw [List.dropWhile_cons_of_neg (by simp [hd])]
      refine ⟨htail, ?_⟩
      rintro e ⟨⟩
      exact ⟨(allowsSingle_cons_iff.mp htail).1, hd, fun hblank => (hnext d rfl).2 ⟨hc, hblank⟩⟩

theorem stopsAt_singleBody (indent : Nat) {cs : List Char} (rest : List Char)
    (h : ∀ d ∈ cs.head?, isOrdinary d = true ∧ isBreak d = false ∧ d ≠ ' ') :
    StopsAt isWhite (singleBody indent false cs ++ '\'' :: rest) := by
  cases cs with
  | nil => exact stopsAt_cons_iff.mpr rfl
  | cons d ds =>
    obtain ⟨hd, hbreak, hblank⟩ := h d rfl
    have hend := not_isLineEnd_of_isOrdinary hd hbreak
    have htab := not_isTab_of_isOrdinary hd
    rw [singleBody, hbreak]
    by_cases hquote : d = '\''
    · subst hquote
      exact stopsAt_cons_iff.mpr rfl
    · simp [hquote, isWhite, hend, htab, hblank]

theorem refold_cons_of_not_isBreak (hc : isBreak c = false) (cs : List Char) :
    refold false (c :: cs) = c :: refold false cs := by
  have hne : (c == '\x85') = false := by
    rw [beq_eq_false_iff_ne]
    rintro rfl
    cases hc
  rw [refold, hne, hc]
  rfl

/-- **A character that is written as it is** in single quotes: neither a line end nor a quote. -/
theorem Reads.kept {indent : Nat} {rest : List Char} (hcs : allowsSingle (c :: cs) = true)
    (hbreak : isBreak c = false) (hquote : c ≠ '\'')
    (hs : s.rest = c :: (singleBody indent false cs ++ '\'' :: rest))
    (h : Reads false (done ++ [c]) s.step r) : Reads false done s r := by
  cases hstop : isQuotedStop c with
  | false => exact Reads.ordinary hs hstop h
  | true =>
    -- Only the special characters that may be written are left.
    obtain ⟨hc, -⟩ := allowsSingle_cons_iff.mp hcs
    have hend := not_isLineEnd_of_isOrdinary hc hbreak
    have htab := not_isTab_of_isOrdinary hc
    have hcases : c = '"' ∨ c = '\\' ∨ c = ' ' := by
      simpa [isQuotedStop, isWhite, hend, htab, hquote, or_assoc] using hstop
    rcases hcases with rfl | rfl | rfl
    · exact Reads.other hs (.inl rfl) h
    · exact Reads.other hs (.inr rfl) h
    · exact Reads.blank hs (continues_singleBody indent rest hcs) h

/-- **What stands between single quotes** is read back, next-line characters apart. -/
theorem Reads.singleBody {indent : Nat} {done cs rest : List Char} {s : Spot} (hindent : 0 < indent)
    (hcs : allowsSingle cs = true) (hrest : StopsAt (· == '\'') rest)
    (hs : s.rest = singleBody indent false cs ++ '\'' :: rest) :
    Reads false done s
      (.ok (done ++ refold false cs, s.advance ((Yaml.singleBody indent false cs).length + 1))) := by
  -- A run of line ends is read as a whole, so the recursion is on what stands behind it.
  match cs with
  | [] =>
    rw [refold, List.append_nil]
    exact Reads.close hs fun _ => hrest
  | c :: cs =>
    obtain ⟨-, htail, -⟩ := allowsSingle_cons_iff.mp hcs
    cases hbreak : isBreak c with
    | true =>
      obtain ⟨hafter, hhead⟩ := allowsSingle_dropWhile hcs hbreak
      have hshort : (cs.dropWhile isBreak).length ≤ cs.length := List.length_dropWhile_le isBreak cs
      have hrun : ∀ d ∈ c :: cs.takeWhile isBreak, isBreak d = true :=
        List.forall_mem_cons.mpr ⟨hbreak, fun d => List.mem_takeWhile_imp⟩
      rw [singleBody_run indent hbreak, List.append_assoc, List.append_assoc] at hs
      rw [refold_run hbreak, singleBody_run indent hbreak, ← List.append_assoc]
      refine Reads.run hindent hrun (stopsAt_singleBody indent rest hhead) hs ?_
      have hs' : (s.advance ((runBody (c :: cs.takeWhile isBreak)).length + indent)).rest =
          Yaml.singleBody indent false (cs.dropWhile isBreak) ++ '\'' :: rest := by
        rw [Spot.advance_add, Spot.rest_advance, Spot.rest_advance, hs, List.drop_left,
          List.drop_left' List.length_replicate]
      have htext : Reads false (done ++ refoldRun (c :: cs.takeWhile isBreak)) _ _ :=
        Reads.singleBody hindent hafter hrest hs'
      rw [← Spot.advance_add] at htext
      simpa [Nat.add_assoc] using htext
    | false =>
      rw [refold_cons_of_not_isBreak hbreak]
      by_cases hquote : c = '\''
      · subst hquote
        have hbody : Yaml.singleBody indent false ('\'' :: cs) =
            '\'' :: '\'' :: Yaml.singleBody indent false cs := rfl
        rw [hbody] at hs ⊢
        refine Reads.doubled hs ?_
        have hs' : (s.advance 2).rest = Yaml.singleBody indent false cs ++ '\'' :: rest := by
          rw [Spot.rest_advance, hs]
          rfl
        have htext : Reads false (done ++ ['\'']) _ _ :=
          Reads.singleBody hindent htail hrest hs'
        rw [List.append_assoc, List.singleton_append, ← Spot.advance_add, Nat.add_comm 2] at htext
        exact htext
      · have hbody : Yaml.singleBody indent false (c :: cs) =
            c :: Yaml.singleBody indent false cs := by
          simp [Yaml.singleBody, hbreak, hquote]
        rw [hbody, List.cons_append] at hs
        have htext : Reads false (done ++ [c]) _ _ :=
          Reads.singleBody hindent htail hrest (rest_step_cons hs)
        rw [List.append_assoc, List.singleton_append, ← Spot.advance] at htext
        rw [hbody]
        exact Reads.kept hcs hbreak hquote hs htext
termination_by cs.length

end RouteAtlas.Yaml
