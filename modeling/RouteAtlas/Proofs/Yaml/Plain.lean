import RouteAtlas.Proofs.Yaml.Quoted

/-!
# Plain scalars

A text that may be written without quotes is read back word by word: the reader takes a word up to
the next blank, the blanks behind it, and goes on (`plainScalar_append`). It stops at a colon in
front of white space, where the text was a key (`plainScalar_key`), and at the end of a line if the
next line is not indented deeper than the collection around it (`plainScalar_line`).
-/

namespace RouteAtlas.Yaml

/-- A text, or the rest of one from the beginning of a word on, that may stand without quotes. -/
structure IsPlainText (cs : List Char) : Prop where
  /-- There is something. -/
  ne_nil : cs ≠ []
  /-- All characters stand for themselves and are on one line. -/
  ordinary : ∀ c ∈ cs, isOrdinary c = true ∧ isBreak c = false
  /-- No indicator is in it. -/
  inner : innerIndicator true cs = false
  /-- It does not begin with a blank. -/
  head : cs.head? ≠ some ' '
  /-- It does not end with a blank. -/
  last : cs.getLast? ≠ some ' '

theorem isPlainText_of_allowsPlain {cs : List Char} (h : allowsPlain cs = true) (hne : cs ≠ []) :
    IsPlainText cs := by
  cases cs with
  | nil => exact absurd rfl hne
  | cons c cs =>
    simp only [allowsPlain, Bool.not_eq_true', Bool.or_eq_false_iff, beq_eq_false_iff_ne,
      Bool.not_eq_false', List.all_eq_true, hasIndicator, isMultiline, List.any_eq_false] at h
    obtain ⟨⟨⟨⟨hblank, hlast⟩, hline⟩, hordinary⟩, ⟨-, ⟨hspecial, hfirst⟩, hinner⟩⟩ := h
    refine ⟨hne, fun d hd => ⟨hordinary d hd, ?_⟩, ?_, ?_, hlast⟩
    · simpa using hline d hd
    · have hsharp : (c == '#') = false := by
        rw [beq_eq_false_iff_ne]
        rintro rfl
        cases hspecial
      have hcolon : (c == ':' && gapAhead cs) = false := by
        cases hc : c == ':' with
        | false => rfl
        | true => simpa [hc] using hfirst
      rw [innerIndicator, hsharp, hcolon, hinner]
      rfl
    · simpa using hblank

variable {c : Char} {cs : List Char}

theorem isGap_of_isWhite (h : isWhite c = true) : isGap c = true := by
  simp only [isWhite, isLineEnd, Bool.or_eq_true] at h
  simp only [isGap, isBreak, Bool.or_eq_true]
  grind

theorem isInline_of_isOrdinary (hc : isOrdinary c = true) (hbreak : isBreak c = false) :
    isInline c = true := by
  refine isInline_iff.mpr ⟨not_isLineEnd_of_isOrdinary hc hbreak, ?_⟩
  rintro rfl
  cases hc

theorem isWhite_iff_of_isOrdinary (hc : isOrdinary c = true) (hbreak : isBreak c = false) :
    isWhite c = true ↔ c = ' ' := by
  simp [isWhite, not_isLineEnd_of_isOrdinary hc hbreak, not_isTab_of_isOrdinary hc]

/-- Where no gap lies ahead, the text goes on with a character that is not white. -/
theorem endsOr_append_of_gapAhead {cs : List Char} (h : gapAhead cs = false) (tail : List Char) :
    endsOr isWhite (cs ++ tail) = false := by
  cases cs with
  | nil => cases h
  | cons d ds =>
    by_contra hd
    rw [gapAhead, isGap_of_isWhite ((Bool.not_eq_false _).mp hd)] at h
    cases h

/-- A plain scalar goes on up to the next blank. -/
theorem plainLength_append {cs tail : List Char} {afterGap : Bool}
    (hcs : ∀ c ∈ cs, isOrdinary c = true ∧ isBreak c = false)
    (hinner : innerIndicator afterGap cs = false) (htail : plainLength false tail = 0) :
    plainLength false (cs ++ tail) = (cs.takeWhile (· != ' ')).length := by
  induction cs generalizing afterGap with
  | nil => exact htail
  | cons c cs ih =>
    obtain ⟨⟨hc, hbreak⟩, hcs⟩ := List.forall_mem_cons.mp hcs
    have hwhite := isWhite_iff_of_isOrdinary hc hbreak
    simp only [innerIndicator, Bool.or_eq_false_iff, Bool.and_eq_false_iff] at hinner
    obtain ⟨⟨hcolon, -⟩, hinner⟩ := hinner
    rw [List.cons_append, plainLength, ih hcs hinner]
    by_cases hblank : c = ' '
    · simp [hblank, isWhite]
    · have hstays : (c == ':' && endsOr isWhite (cs ++ tail)) = false := by
        rcases hcolon with hcolon | hahead
        · rw [hcolon]
          rfl
        · -- A colon in front of a gap would be an indicator, so a character of the text follows.
          rw [endsOr_append_of_gapAhead hahead, Bool.and_false]
      have hnonwhite : isWhite c = false := by
        rw [← Bool.not_eq_true, hwhite]
        exact hblank
      simp [hnonwhite, hstays, hblank]

theorem plainGap_of_stopsAt {s : Spot} {blanks rest : List Char} (hs : s.rest = blanks ++ rest)
    (hblanks : ∀ c ∈ blanks, c = ' ') (hrest : StopsAt isWhite rest) :
    plainGap s = (blanks, s.advance blanks.length, false) := by
  have hspan : s.span (· == ' ') = (blanks, s.advance blanks.length) := by
    refine Spot.span_append hs (fun c hc => by simp [hblanks c hc]) (hrest.imp fun c hc => ?_)
    rw [beq_iff_eq.mp hc]
    rfl
  have hend : StopsAt isLineEnd (s.advance blanks.length).rest := by
    rw [Spot.rest_advance, hs, List.drop_left]
    exact hrest.imp fun _ => isWhite_of_isLineEnd
  have hstops : ((s.advance blanks.length).rest.isEmpty ||
      !(s.advance blanks.length).atLineEnd) = true := by
    rw [Bool.or_eq_true, Bool.not_eq_true', List.isEmpty_iff, or_iff_not_imp_left]
    simpa using Spot.atLineEnd_of_stopsAt hend
  rw [plainGap, hspan]
  simp only [hstops, if_true]

theorem innerIndicator_of_append {afterGap : Bool} (xs : List Char) {ys : List Char}
    (h : innerIndicator afterGap (xs ++ ' ' :: ys) = false) : innerIndicator true ys = false := by
  induction xs generalizing afterGap with
  | nil =>
    simp only [List.nil_append, innerIndicator, Bool.or_eq_false_iff] at h
    exact h.2
  | cons x xs ih =>
    simp only [List.cons_append, innerIndicator, Bool.or_eq_false_iff] at h
    exact ih h.2

theorem innerIndicator_of_blanks {blanks ys : List Char} (hblanks : ∀ c ∈ blanks, c = ' ')
    (h : innerIndicator true (blanks ++ ys) = false) : innerIndicator true ys = false := by
  induction blanks with
  | nil => exact h
  | cons b bs ih =>
    obtain ⟨rfl, hbs⟩ := List.forall_mem_cons.mp hblanks
    exact ih hbs (innerIndicator_of_append [] h)

/-- What stands behind some of the blanks of a plain text, and begins with no blank itself, is a plain
text. -/
theorem IsPlainText.behind {front blanks rest : List Char}
    (h : IsPlainText (front ++ ' ' :: (blanks ++ rest))) (hblanks : ∀ c ∈ blanks, c = ' ')
    (hhead : rest.head? ≠ some ' ') : IsPlainText rest := by
  have hlast : (front ++ ' ' :: (blanks ++ rest)).getLast? = (' ' :: (blanks ++ rest)).getLast? := by
    rw [List.getLast?_append, List.getLast?_cons, Option.some_or]
  refine ⟨?_, fun c hc => h.ordinary c (by simp [hc]), ?_, hhead, ?_⟩
  · -- Otherwise the text would end with one of the blanks.
    rintro rfl
    have hall : ∀ c ∈ ' ' :: (blanks ++ []), c = ' ' := by
      rw [List.append_nil]
      exact List.forall_mem_cons.mpr ⟨rfl, hblanks⟩
    obtain ⟨e, he⟩ : ∃ e, (' ' :: (blanks ++ [])).getLast? = some e := ⟨_, List.getLast?_cons⟩
    exact h.last (by rw [hlast, he, hall e (List.mem_of_getLast? he)])
  · exact innerIndicator_of_blanks hblanks (innerIndicator_of_append front h.inner)
  · intro hend
    refine h.last ?_
    rw [hlast, List.getLast?_cons, List.getLast?_append, hend]
    rfl

/-- **A plain text falls into its first word** and, unless it is that word, the blanks behind it and a
shorter plain text. -/
theorem IsPlainText.split (h : IsPlainText cs) :
    ∃ word, word ≠ [] ∧ (∀ c ∈ word, c ≠ ' ') ∧
      (cs = word ∨ ∃ blanks rest, blanks ≠ [] ∧ (∀ c ∈ blanks, c = ' ') ∧ IsPlainText rest ∧
        cs = word ++ (blanks ++ rest)) := by
  have hcs : cs.takeWhile (· != ' ') ++ cs.dropWhile (· != ' ') = cs := List.takeWhile_append_dropWhile
  refine ⟨cs.takeWhile (· != ' '), ?_, fun c hc => by simpa using List.mem_takeWhile_imp hc, ?_⟩
  · cases cs with
    | nil => exact absurd rfl h.ne_nil
    | cons c cs =>
      have hc : c ≠ ' ' := fun hc => h.head (by rw [hc]; rfl)
      simp [hc]
  · cases hafter : cs.dropWhile (· != ' ') with
    | nil =>
      left
      rw [hafter, List.append_nil] at hcs
      exact hcs.symm
    | cons d ds =>
      right
      have hd : d = ' ' := by
        have hhead := List.head?_dropWhile_not (· != ' ') cs
        rw [hafter] at hhead
        simpa using hhead
      subst hd
      have hsplit : ds.takeWhile (· == ' ') ++ ds.dropWhile (· == ' ') = ds :=
        List.takeWhile_append_dropWhile
      have hblanks : ∀ c ∈ ds.takeWhile (· == ' '), c = ' ' :=
        fun c hc => by simpa using List.mem_takeWhile_imp hc
      have hhead : (ds.dropWhile (· == ' ')).head? ≠ some ' ' := by
        intro hhead
        have hstop := List.head?_dropWhile_not (· == ' ') ds
        rw [hhead] at hstop
        cases hstop
      rw [hafter, ← hsplit] at hcs
      have hrest : IsPlainText (ds.dropWhile (· == ' ')) := (hcs ▸ h).behind hblanks hhead
      exact ⟨' ' :: ds.takeWhile (· == ' '), ds.dropWhile (· == ' '), List.cons_ne_nil _ _,
        List.forall_mem_cons.mpr ⟨rfl, hblanks⟩, hrest, hcs.symm⟩

theorem IsPlainText.head_ne_sharp (h : IsPlainText cs) (tail : List Char) :
    ((cs ++ tail).head? == some '#') = false := by
  cases cs with
  | nil => exact absurd rfl h.ne_nil
  | cons c cs =>
    have hinner := h.inner
    simp only [innerIndicator, Bool.and_true, Bool.or_eq_false_iff, beq_eq_false_iff_ne] at hinner
    simpa using hinner.1.2

theorem IsPlainText.stopsAt (h : IsPlainText cs) (tail : List Char) :
    StopsAt isWhite (cs ++ tail) := by
  cases cs with
  | nil => exact absurd rfl h.ne_nil
  | cons c cs =>
    obtain ⟨hc, hbreak⟩ := h.ordinary c List.mem_cons_self
    rw [List.cons_append, stopsAt_cons_iff, ← Bool.not_eq_true, isWhite_iff_of_isOrdinary hc hbreak]
    exact fun hblank => h.head (by rw [hblank]; rfl)

theorem takeWhile_word {word blanks rest : List Char} (hword : ∀ c ∈ word, c ≠ ' ')
    (hblanks : ∀ c ∈ blanks, c = ' ') (hne : blanks ≠ []) :
    (word ++ (blanks ++ rest)).takeWhile (· != ' ') = word := by
  refine takeWhile_append_of_stopsAt (fun c hc => by simpa using hword c hc) ?_
  cases blanks with
  | nil => exact absurd rfl hne
  | cons b bs => simp [hblanks b List.mem_cons_self]

/-- The gap between a word and the plain text behind it is made of the blanks between them. -/
theorem plainGap_word {word blanks rest : List Char} (tail : List Char) {i l k : Nat}
    (hinline : ∀ c ∈ word ++ blanks, isInline c = true) (hblanks : ∀ c ∈ blanks, c = ' ')
    (hrest : IsPlainText rest) :
    plainGap (Spot.advance word.length ⟨word ++ (blanks ++ rest) ++ tail, i, l, k⟩) =
      (blanks, ⟨rest ++ tail, i + (word ++ blanks).length, l, k + (word ++ blanks).length⟩,
        false) := by
  rw [← Spot.advance_inline hinline (rest ++ tail) i l k, List.length_append, Spot.advance_add,
    List.append_assoc, List.append_assoc, List.append_assoc]
  refine plainGap_of_stopsAt ?_ hblanks (hrest.stopsAt tail)
  rw [Spot.rest_advance, List.drop_left]

/-- **Reading a plain text**, up to something that ends it. -/
theorem plainScalar_append {indent : Int} {cs tail done gap gap' : List Char} {s' : Spot}
    {fresh fresh' : Bool} {fuel i l k : Nat} (htail : plainLength false tail = 0)
    (hgap : plainGap ⟨tail, i + cs.length, l, k + cs.length⟩ = (gap', s', fresh'))
    (hend : gap' = [] ∨ (s'.column : Int) < indent) (hcs : IsPlainText cs)
    (hk : indent ≤ k + 1) (hfuel : cs.length < fuel) :
    plainScalar false indent fuel done gap fresh ⟨cs ++ tail, i, l, k⟩ =
      ⟨done ++ gap ++ cs, s', fresh'⟩ := by
  -- The reader takes one word in each step, so the induction is on its steps and not on the text.
  induction fuel generalizing cs done gap fresh i k with
  | zero => exact absurd hfuel (Nat.not_lt_zero _)
  | succ fuel ih =>
    have hsharp := hcs.head_ne_sharp tail
    have hlength := plainLength_append hcs.ordinary hcs.inner htail
    obtain ⟨word, hword, hnoblank, hsplit⟩ := hcs.split
    have hinline : ∀ c ∈ cs, isInline c = true := fun c hc =>
      isInline_of_isOrdinary (hcs.ordinary c hc).1 (hcs.ordinary c hc).2
    have hzero : (word.length == 0) = false := by simpa using hword
    rw [plainScalar]
    rcases hsplit with rfl | ⟨blanks, rest, hblanks, hall, hrest, rfl⟩
    · -- The last word: what is behind it ends the scalar.
      have htake : cs.takeWhile (· != ' ') = cs :=
        List.takeWhile_eq_self_iff.mpr fun c hc => by simpa using hnoblank c hc
      rw [htake] at hlength
      have hstop : (gap'.isEmpty || s'.rest.head? == some '#' ||
          (!false && decide ((s'.column : Int) < indent))) = true := by
        rcases hend with rfl | hend
        · rfl
        · simp [hend]
      simp only [hsharp, hlength, hzero, Bool.false_eq_true, if_false, Spot.advance_inline hinline,
        hgap, hstop, if_true, List.take_left]
    · -- A word, the blanks behind it, and a shorter text.
      rw [takeWhile_word hnoblank hall hblanks] at hlength
      have hfront : ∀ c ∈ word ++ blanks, isInline c = true :=
        fun c hc => hinline c (by simp only [List.mem_append] at hc ⊢; tauto)
      have hgo := plainGap_word tail (i := i) (l := l) (k := k) hfront hall hrest
      have hwordpos := List.length_pos_iff.mpr hword
      have hgoes : (blanks.isEmpty || (rest ++ tail).head? == some '#' ||
          (!false && decide (((k + (word ++ blanks).length : Nat) : Int) < indent))) = false := by
        rw [hrest.head_ne_sharp tail, List.isEmpty_eq_false_iff.mpr hblanks, List.length_append]
        simp only [Bool.or_self, Bool.not_false, Bool.true_and, Bool.false_or,
          decide_eq_false_iff_not]
        omega
      have hgap' : plainGap ⟨tail, i + (word ++ blanks).length + rest.length, l,
          k + (word ++ blanks).length + rest.length⟩ = (gap', s', fresh') := by
        rw [← hgap]
        simp only [List.length_append, Nat.add_assoc]
      simp only [List.length_append] at hfuel
      simp only [hsharp, hlength, hzero, Bool.false_eq_true, if_false, hgo, hgoes]
      rw [ih hgap' hrest (by push_cast; omega) (by omega)]
      simp

/-! ### What ends a plain scalar -/

/-- **A plain key** ends at the colon behind it. -/
theorem plainScalar_key {indent : Int} {cs rest : List Char} {w : Char} {fuel i l k : Nat}
    (hcs : IsPlainText cs) (hw : isWhite w = true) (hk : indent ≤ k + 1) (hfuel : cs.length < fuel) :
    plainScalar false indent fuel [] [] false ⟨cs ++ ':' :: w :: rest, i, l, k⟩ =
      ⟨cs, ⟨':' :: w :: rest, i + cs.length, l, k + cs.length⟩, false⟩ := by
  refine plainScalar_append ?_ ?_ (.inl rfl) hcs hk hfuel
  · simp [plainLength, endsOr, hw, show isWhite ':' = false from rfl]
  · exact plainGap_of_stopsAt (List.nil_append _).symm (fun _ hc => absurd hc List.not_mem_nil)
      (stopsAt_cons_iff.mpr rfl)

/-- Characters that are skipped between tokens, or begin what is skipped. -/
def isSkipped (c : Char) : Bool := c == ' ' || c == '#' || isLineEnd c

/-- What the beginning of an entry of a collection looks like; nothing may come, too. -/
structure IsEntry (cs : List Char) : Prop where
  /-- It is neither white space nor the beginning of a comment. -/
  stops : StopsAt isSkipped cs
  /-- It is no mark between documents. -/
  separator : ∀ i l k, (⟨cs, i, l, k⟩ : Spot).atSeparator = false

/-- The beginning of a new line, indented as given. -/
def nextLine (m : Nat) : List Char := '\n' :: List.replicate m ' '

@[simp]
theorem length_nextLine (m : Nat) : (nextLine m).length = m + 1 := by simp [nextLine]

theorem IsEntry.separator_replicate {cs : List Char} (h : IsEntry cs) (m i l k : Nat) :
    (⟨List.replicate m ' ' ++ cs, i, l, k⟩ : Spot).atSeparator = false := by
  cases m with
  | zero => exact h.separator i l k
  | succ m => exact Spot.atSeparator_cons_of_ne rfl (by decide) (by decide)

theorem plainBreaks_replicate {cs done : List Char} (h : IsEntry cs) {m fuel : Nat}
    (hfuel : m + cs.length ≤ fuel) (i l k : Nat) :
    plainBreaks fuel done ⟨List.replicate m ' ' ++ cs, i, l, k⟩ =
      (some done, ⟨cs, i + m, l, k + m⟩) := by
  induction m generalizing fuel i k with
  | zero =>
    cases fuel with
    | zero => rfl
    | succ fuel =>
      rw [plainBreaks]
      cases cs with
      | nil => rfl
      | cons c cs =>
        have hc := stopsAt_cons_iff.mp h.stops
        simp only [isSkipped, Bool.or_eq_false_iff] at hc
        simp [hc.1.1, hc.2]
  | succ m ih =>
    obtain ⟨fuel, rfl⟩ := Nat.exists_eq_add_one_of_ne_zero (n := fuel) (by omega)
    rw [plainBreaks, List.replicate_succ, List.cons_append]
    simp only [beq_self_eq_true, if_true]
    rw [Spot.step_inline (by decide), ih (by omega)]
    congr 2 <;> omega

theorem plainGap_nextLine {cs : List Char} (h : IsEntry cs) (m i l k : Nat) :
    plainGap ⟨nextLine m ++ cs, i, l, k⟩ = ([' '], ⟨cs, i + 1 + m, l + 1, m⟩, true) := by
  have hspan : (⟨nextLine m ++ cs, i, l, k⟩ : Spot).span (· == ' ') =
      ([], ⟨nextLine m ++ cs, i, l, k⟩) :=
    Spot.span_of_stopsAt (stopsAt_cons_iff.mpr rfl)
  have hbreak : (⟨nextLine m ++ cs, i, l, k⟩ : Spot).lineBreak =
      (['\n'], ⟨List.replicate m ' ' ++ cs, i + 1, l + 1, 0⟩) := rfl
  rw [plainGap, hspan]
  simp only [hbreak, h.separator_replicate, List.length_append, List.length_replicate]
  rw [plainBreaks_replicate h le_rfl]
  simp [nextLine, Spot.atLineEnd, endsOr, isLineEnd, foldBreaks]

/-- **A plain scalar at the end of a line** ends there if the next line is not indented deeper than
the collection around it. -/
theorem plainScalar_line {indent : Int} {cs rest : List Char} {m fuel i l k : Nat}
    (hcs : IsPlainText cs) (hrest : IsEntry rest) (hm : (m : Int) < indent) (hk : indent ≤ k + 1)
    (hfuel : cs.length < fuel) :
    plainScalar false indent fuel [] [] false ⟨cs ++ (nextLine m ++ rest), i, l, k⟩ =
      ⟨cs, ⟨rest, i + cs.length + 1 + m, l + 1, m⟩, true⟩ :=
  plainScalar_append rfl (plainGap_nextLine hrest m _ _ _) (.inr hm) hcs hk hfuel

end RouteAtlas.Yaml
