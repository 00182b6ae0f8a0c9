import Mathlib.Data.List.Infix
import Mathlib.Data.List.TakeWhile
import Mathlib.Tactic.SplitIfs
import RouteAtlas.Completion.Fence

/-!
# What is left of a reply without its fences

A pass over a text takes away an opening fence at its beginning, a closing fence at its end, and the
white space around the rest; passes are made as long as they change something. `Pass` says what a pass
is without saying how it is computed: the fence that goes is **the longest one that stands there**. So
the closing pattern begins as far to the left as it can, and an opening fence takes its whole line.

`Unfences` is the loop, with a derivation for every run that comes to an end. The main statements:
every run ends, because a pass that changes a text makes it shorter, and what is left is a part of the
text that no further pass changes (`unfences_unfence`); and fences that were put around a text, one
around the other, are taken away again, whatever the text is (`unfence_wrapAll`).

Both ends of a text are treated alike: a closing fence is, read backwards, white space, backticks and
a line of blanks, so `dropNewline_dropWhile_isSuffix` serves the opening and the closing fence.
-/

namespace RouteAtlas

/-! ### Fences and passes -/

/-- The name of the format, in any case, or nothing. -/
def IsFormatName (cs : List Char) : Prop :=
  cs = [] ∨ cs.map Char.toLower = ['y', 'm', 'l'] ∨ cs.map Char.toLower = ['y', 'a', 'm', 'l']

/-- An opening fence: three backticks, the name of the format, blanks, and a line end. All but the
backticks may be missing. -/
inductive OpeningFence : List Char → Prop
  | intro {name blanks newline : List Char} (hname : IsFormatName name)
    (hblanks : ∀ c ∈ blanks, isInlineBlank c = true) (hnewline : newline = [] ∨ newline = ['\n']) :
    OpeningFence (fence ++ (name ++ (blanks ++ newline)))

/-- A closing fence: a line end, blanks, three backticks, and white space. All but the backticks may
be missing. -/
inductive ClosingFence : List Char → Prop
  | intro {newline blanks white : List Char} (hnewline : newline = [] ∨ newline = ['\n'])
    (hblanks : ∀ c ∈ blanks, isInlineBlank c = true) (hwhite : ∀ c ∈ white, Text.isBlank c = true) :
    ClosingFence (newline ++ (blanks ++ (fence ++ white)))

/-- The longest of the texts with a property, or the empty text if there is none. -/
structure IsLongest (P : List Char → Prop) (cs : List Char) : Prop where
  /-- The text has the property. -/
  holds : P cs ∨ cs = []
  /-- No text with the property is longer. -/
  length_le : ∀ other, P other → other.length ≤ cs.length

/-- One pass: the longest opening fence that the text begins with, and the longest closing fence that
the rest ends with, are taken away, and what is between them is trimmed. -/
inductive Pass : List Char → List Char → Prop
  | intro {opening body closing : List Char}
    (hopening :
      IsLongest (fun o => OpeningFence o ∧ o <+: opening ++ (body ++ closing)) opening)
    (hclosing : IsLongest (fun c => ClosingFence c ∧ c <:+ body ++ closing) closing) :
    Pass (opening ++ (body ++ closing)) (Text.trimChars body)

/-- The passes from one text to another, made until a pass changes nothing. -/
inductive Unfences : List Char → List Char → Prop
  | done {cs : List Char} (h : Pass cs cs) : Unfences cs cs
  | pass {cs next result : List Char} (h : Pass cs next) (hne : next ≠ cs)
    (hrest : Unfences next result) : Unfences cs result

theorem IsLongest.length_eq {P : List Char → Prop} {cs ds : List Char} (hcs : IsLongest P cs)
    (hds : IsLongest P ds) : cs.length = ds.length := by
  refine le_antisymm ?_ ?_
  · obtain h | rfl := hcs.holds
    · exact hds.length_le cs h
    · exact Nat.zero_le _
  · obtain h | rfl := hds.holds
    · exact hcs.length_le ds h
    · exact Nat.zero_le _

/-! ### Pieces of texts -/

namespace Text

theorem after?_eq_some_iff {ds cs rest : List Char} :
    after? ds cs = some rest ↔ cs = ds ++ rest := by
  induction ds generalizing cs with
  | nil => simp [after?]
  | cons d ds ih =>
    cases cs with
    | nil => simp [after?]
    | cons c cs =>
      rw [after?]
      split_ifs with h
      · rw [ih, beq_iff_eq.mp h, List.cons_append, List.cons.injEq, eq_self_iff_true, true_and]
      · simp only [List.cons_append, List.cons.injEq, false_iff, not_and]
        exact fun hcd => absurd (beq_iff_eq.mpr hcd.symm) h

theorem after?_eq_none_iff {ds cs : List Char} : after? ds cs = none ↔ ¬ds <+: cs := by
  rw [Option.eq_none_iff_forall_ne_some]
  refine ⟨fun h ⟨rest, hrest⟩ => h rest (after?_eq_some_iff.mpr hrest.symm), ?_⟩
  exact fun h rest hrest => h ⟨rest, (after?_eq_some_iff.mp hrest).symm⟩

/-- A text without white space at its ends. -/
structure IsTrimmed (cs : List Char) : Prop where
  /-- The first character is not white space. -/
  head : ∀ c, cs.head? = some c → isBlank c = false
  /-- The last character is not white space. -/
  last : ∀ c, cs.getLast? = some c → isBlank c = false

theorem dropWhile_of_head? {p : Char → Bool} {cs : List Char}
    (h : ∀ c, cs.head? = some c → p c = false) : cs.dropWhile p = cs := by
  cases cs with
  | nil => rfl
  | cons c cs => exact List.dropWhile_cons_of_neg (by simp [h c rfl])

theorem head?_dropWhile {p : Char → Bool} {cs : List Char} {c : Char}
    (h : (cs.dropWhile p).head? = some c) : p c = false := by
  have := List.head?_dropWhile_not p cs
  rwa [h] at this

theorem trimChars_isPrefix (cs : List Char) : trimChars cs <+: cs.dropWhile isBlank := by
  rw [trimChars, dropEndWhile, ← List.reverse_suffix, List.reverse_reverse]
  exact List.dropWhile_suffix isBlank

theorem trimChars_isInfix (cs : List Char) : trimChars cs <:+: cs :=
  List.IsInfix.trans (trimChars_isPrefix cs).isInfix (List.dropWhile_suffix isBlank).isInfix

theorem isTrimmed_trimChars (cs : List Char) : IsTrimmed (trimChars cs) where
  head c h := by
    obtain ⟨rest, hrest⟩ := trimChars_isPrefix cs
    have hhead : (cs.dropWhile isBlank).head? = some c := by
      rw [← hrest, List.head?_append, h, Option.some_or]
    exact head?_dropWhile hhead
  last c h := by
    rw [trimChars, dropEndWhile, List.getLast?_reverse] at h
    exact head?_dropWhile h

theorem IsTrimmed.trimChars_eq {cs : List Char} (h : IsTrimmed cs) : trimChars cs = cs := by
  have hlast : ∀ c, cs.reverse.head? = some c → isBlank c = false := by
    simpa only [List.head?_reverse] using h.last
  rw [trimChars, dropWhile_of_head? h.head, dropEndWhile, dropWhile_of_head? hlast,
    List.reverse_reverse]

end Text

/-! ### The rest of a line -/

theorem dropNewline_isSuffix (cs : List Char) : dropNewline cs <:+ cs := by
  unfold dropNewline
  split
  · exact List.suffix_cons _ _
  · exact List.suffix_rfl

/-- However much of the blanks and the line end is left, the rest of the line takes nothing that is
not behind it. -/
theorem dropNewline_dropWhile_isSuffix {blanks newline tail cs : List Char}
    (hblanks : ∀ c ∈ blanks, isInlineBlank c = true) (hnewline : newline = [] ∨ newline = ['\n'])
    (hcs : cs <:+ blanks ++ (newline ++ tail)) :
    dropNewline (cs.dropWhile isInlineBlank) <:+ tail := by
  have hself : dropNewline (cs.dropWhile isInlineBlank) <:+ cs :=
    (dropNewline_isSuffix _).trans (List.dropWhile_suffix _)
  induction blanks generalizing cs with
  | nil =>
    obtain rfl | rfl := hnewline
    · exact hself.trans hcs
    · obtain rfl | hcs := List.suffix_cons_iff.mp hcs
      · exact List.suffix_rfl
      · exact hself.trans hcs
  | cons b blanks ih =>
    have hrest : ∀ c ∈ blanks, isInlineBlank c = true :=
      fun c hc => hblanks c (List.mem_cons_of_mem b hc)
    obtain rfl | hcs := List.suffix_cons_iff.mp hcs
    · rw [List.dropWhile_cons_of_pos (hblanks b List.mem_cons_self)]
      exact ih hrest List.suffix_rfl ((dropNewline_isSuffix _).trans (List.dropWhile_suffix _))
    · exact ih hrest hcs hself

theorem dropNewline_dropWhile_line {blanks : List Char}
    (hblanks : ∀ c ∈ blanks, isInlineBlank c = true) (tail : List Char) :
    dropNewline ((blanks ++ '\n' :: tail).dropWhile isInlineBlank) = tail := by
  rw [List.dropWhile_append_of_pos hblanks]
  rfl

theorem exists_line (cs : List Char) : ∃ blanks newline : List Char,
    (∀ c ∈ blanks, isInlineBlank c = true) ∧ (newline = [] ∨ newline = ['\n']) ∧
      cs = blanks ++ (newline ++ dropNewline (cs.dropWhile isInlineBlank)) := by
  have hsplit := List.takeWhile_append_dropWhile (p := isInlineBlank) (l := cs)
  obtain ⟨newline, hnewline, hrest⟩ : ∃ newline : List Char, (newline = [] ∨ newline = ['\n']) ∧
      cs.dropWhile isInlineBlank = newline ++ dropNewline (cs.dropWhile isInlineBlank) := by
    unfold dropNewline
    split
    case h_1 rest h => exact ⟨['\n'], .inr rfl, h⟩
    case h_2 => exact ⟨[], .inl rfl, rfl⟩
  refine ⟨cs.takeWhile isInlineBlank, newline, fun c => List.mem_takeWhile_imp, hnewline, ?_⟩
  rw [← hrest, hsplit]

/-! ### The opening fence -/

theorem afterWord?_eq_some_iff {ws cs rest : List Char} :
    afterWord? ws cs = some rest ↔ ∃ front, front.map Char.toLower = ws ∧ cs = front ++ rest := by
  induction ws generalizing cs with
  | nil => simp [afterWord?, eq_comm]
  | cons w ws ih =>
    cases cs with
    | nil =>
      simp only [afterWord?, reduceCtorEq, false_iff, not_exists, not_and]
      rintro (_ | ⟨c, front⟩) hfront <;> simp at hfront ⊢
    | cons c cs =>
      rw [afterWord?]
      split_ifs with h
      · rw [ih]
        constructor
        · rintro ⟨front, rfl, rfl⟩
          exact ⟨c :: front, by rw [List.map_cons, beq_iff_eq.mp h], rfl⟩
        · rintro ⟨_ | ⟨d, front⟩, hfront, heq⟩
          · simp at hfront
          · obtain ⟨rfl, rfl⟩ := List.cons.inj heq
            exact ⟨front, (List.cons.inj hfront).2, rfl⟩
      · simp only [false_iff, not_exists, not_and]
        rintro (_ | ⟨d, front⟩) hfront heq
        · simp at hfront
        · obtain ⟨rfl, rfl⟩ := List.cons.inj heq
          exact h (beq_iff_eq.mpr (List.cons.inj hfront).1)

theorem afterWord?_append {ws front : List Char} (h : front.map Char.toLower = ws)
    (rest : List Char) : afterWord? ws (front ++ rest) = some rest :=
  afterWord?_eq_some_iff.mpr ⟨front, h, rfl⟩

/-- The two names differ in their second letter, so at most one of them stands in a place. -/
theorem afterWord?_yaml_of_yml {name : List Char} (h : name.map Char.toLower = ['y', 'm', 'l'])
    (rest : List Char) : afterWord? ['y', 'a', 'm', 'l'] (name ++ rest) = none := by
  obtain _ | ⟨c, _ | ⟨d, name⟩⟩ := name
  · simp at h
  · simp at h
  · simp only [List.map_cons, List.cons.injEq] at h
    simp [afterWord?, h.1, h.2.1]

theorem dropFormatName_append {name : List Char} (hname : IsFormatName name) (hne : name ≠ [])
    (rest : List Char) : dropFormatName (name ++ rest) = rest := by
  obtain rfl | h | h := hname
  · exact absurd rfl hne
  · rw [dropFormatName, afterWord?_yaml_of_yml h, afterWord?_append h, Option.getD_some]
  · rw [dropFormatName, afterWord?_append h]

theorem exists_formatName (cs : List Char) :
    ∃ name, IsFormatName name ∧ cs = name ++ dropFormatName cs := by
  unfold dropFormatName
  split
  case h_1 rest h =>
    obtain ⟨name, hname, rfl⟩ := afterWord?_eq_some_iff.mp h
    exact ⟨name, .inr (.inr hname), rfl⟩
  case h_2 =>
    cases h : afterWord? ['y', 'm', 'l'] cs with
    | none => exact ⟨[], .inl rfl, rfl⟩
    | some rest =>
      obtain ⟨name, hname, rfl⟩ := afterWord?_eq_some_iff.mp h
      exact ⟨name, .inr (.inl hname), rfl⟩

theorem dropFormatName_isSuffix {name : List Char} (hname : IsFormatName name) (rest : List Char) :
    dropFormatName (name ++ rest) <:+ rest := by
  by_cases hne : name = []
  · obtain ⟨taken, -, htaken⟩ := exists_formatName rest
    rw [hne]
    exact ⟨taken, htaken.symm⟩
  · rw [dropFormatName_append hname hne]

/-- A line of blanks does not begin with the name of the format. -/
theorem dropFormatName_line {blanks : List Char} (hblanks : ∀ c ∈ blanks, isInlineBlank c = true)
    (tail : List Char) : dropFormatName (blanks ++ '\n' :: tail) = blanks ++ '\n' :: tail := by
  have hfirst : ∀ ws, afterWord? ('y' :: ws) (blanks ++ '\n' :: tail) = none := by
    intro ws
    cases blanks with
    | nil => rfl
    | cons b blanks =>
      have hb : isInlineBlank b = true := hblanks b List.mem_cons_self
      obtain rfl | rfl : b = ' ' ∨ b = '\t' := by simpa [isInlineBlank] using hb
      · rfl
      · rfl
  rw [dropFormatName, hfirst, hfirst, Option.getD_none]

theorem after?_fence_append (rest : List Char) : Text.after? fence (fence ++ rest) = some rest :=
  Text.after?_eq_some_iff.mpr rfl

theorem dropOpening_fence_append (rest : List Char) :
    dropOpening (fence ++ rest) = dropNewline ((dropFormatName rest).dropWhile isInlineBlank) := by
  rw [dropOpening, after?_fence_append]

theorem dropOpening_of_not_isPrefix {cs : List Char} (h : ¬fence <+: cs) : dropOpening cs = cs := by
  rw [dropOpening, Text.after?_eq_none_iff.mpr h]

theorem dropOpening_isSuffix {opening : List Char} (h : OpeningFence opening) (tail : List Char) :
    dropOpening (opening ++ tail) <:+ tail := by
  obtain ⟨hname, hblanks, hnewline⟩ := h
  simp only [List.append_assoc]
  rw [dropOpening_fence_append]
  exact dropNewline_dropWhile_isSuffix hblanks hnewline (dropFormatName_isSuffix hname _)

theorem dropOpening_line {name blanks : List Char} (hname : IsFormatName name)
    (hblanks : ∀ c ∈ blanks, isInlineBlank c = true) (tail : List Char) :
    dropOpening (fence ++ (name ++ (blanks ++ '\n' :: tail))) = tail := by
  have hname : dropFormatName (name ++ (blanks ++ '\n' :: tail)) = blanks ++ '\n' :: tail := by
    by_cases hne : name = []
    · rw [hne, List.nil_append, dropFormatName_line hblanks]
    · exact dropFormatName_append hname hne _
  rw [dropOpening_fence_append, hname, dropNewline_dropWhile_line hblanks]

theorem exists_opening (cs : List Char) : ∃ opening, cs = opening ++ dropOpening cs ∧
    (OpeningFence opening ∨ opening = []) := by
  by_cases h : fence <+: cs
  · obtain ⟨rest, rfl⟩ := h
    obtain ⟨name, hname, hrest⟩ := exists_formatName rest
    obtain ⟨blanks, newline, hblanks, hnewline, hline⟩ := exists_line (dropFormatName rest)
    refine ⟨fence ++ (name ++ (blanks ++ newline)), ?_, .inl (.intro hname hblanks hnewline)⟩
    simp only [dropOpening_fence_append, List.append_assoc]
    rw [← hline, ← hrest]
  · exact ⟨[], (dropOpening_of_not_isPrefix h).symm, .inr rfl⟩

theorem isLongest_opening {opening cs : List Char} (hcs : cs = opening ++ dropOpening cs)
    (hopening : OpeningFence opening ∨ opening = []) :
    IsLongest (fun o => OpeningFence o ∧ o <+: cs) opening where
  holds := hopening.imp_left fun h => ⟨h, ⟨_, hcs.symm⟩⟩
  length_le := by
    rintro other ⟨hother, tail, rfl⟩
    have hlength := congrArg List.length hcs
    have htail := (dropOpening_isSuffix hother tail).length_le
    simp only [List.length_append] at hlength
    omega

/-! ### The closing fence -/

theorem dropClosing_of_not_isSuffix {cs : List Char} (hcs : Text.IsTrimmed cs) (h : ¬fence <:+ cs) :
    dropClosing cs = cs := by
  have hlast : ∀ c, cs.reverse.head? = some c → Text.isBlank c = false := by
    simpa only [List.head?_reverse] using hcs.last
  have hnone : Text.after? fence cs.reverse = none :=
    Text.after?_eq_none_iff.mpr fun hfence => h (List.reverse_prefix.mp hfence)
  rw [dropClosing, Text.dropWhile_of_head? hlast, hnone]

theorem dropWhile_isBlank_fence {white : List Char} (hwhite : ∀ c ∈ white, Text.isBlank c = true)
    (rest : List Char) : (white ++ (fence ++ rest)).dropWhile Text.isBlank = fence ++ rest := by
  rw [List.dropWhile_append_of_pos hwhite]
  rfl

theorem dropClosing_isPrefix {closing : List Char} (h : ClosingFence closing) (front : List Char) :
    dropClosing (front ++ closing) <+: front := by
  obtain @⟨newline, blanks, white, hnewline, hblanks, hwhite⟩ := h
  have hreverse : (front ++ (newline ++ (blanks ++ (fence ++ white)))).reverse =
      white.reverse ++ (fence ++ (blanks.reverse ++ (newline.reverse ++ front.reverse))) := by
    simp only [List.reverse_append, List.append_assoc]
    rfl
  have hnewline' : newline.reverse = [] ∨ newline.reverse = ['\n'] := by
    obtain rfl | rfl := hnewline
    · exact .inl rfl
    · exact .inr rfl
  rw [dropClosing, hreverse, dropWhile_isBlank_fence fun c hc => hwhite c (List.mem_reverse.mp hc),
    after?_fence_append, ← List.reverse_suffix, List.reverse_reverse]
  exact dropNewline_dropWhile_isSuffix (fun c hc => hblanks c (List.mem_reverse.mp hc)) hnewline'
    List.suffix_rfl

theorem dropClosing_line (body : List Char) : dropClosing (body ++ '\n' :: fence) = body := by
  have hreverse : (body ++ '\n' :: fence).reverse = [] ++ (fence ++ ([] ++ '\n' :: body.reverse)) := by
    rw [List.reverse_append, List.reverse_cons, List.append_assoc]
    rfl
  rw [dropClosing, hreverse, dropWhile_isBlank_fence (by simp), after?_fence_append]
  exact (congrArg List.reverse (dropNewline_dropWhile_line (by simp) body.reverse)).trans
    (List.reverse_reverse body)

theorem exists_closing (cs : List Char) : ∃ closing, cs = dropClosing cs ++ closing ∧
    (ClosingFence closing ∨ closing = []) := by
  unfold dropClosing
  split
  · exact ⟨[], (List.append_nil cs).symm, .inr rfl⟩
  case h_2 rest hrest =>
    obtain ⟨blanks, newline, hblanks, hnewline, hline⟩ := exists_line rest
    have hsplit := List.takeWhile_append_dropWhile (p := Text.isBlank) (l := cs.reverse)
    rw [Text.after?_eq_some_iff.mp hrest] at hsplit
    set tail := dropNewline (rest.dropWhile isInlineBlank)
    set white := cs.reverse.takeWhile Text.isBlank with hwhite
    refine ⟨newline.reverse ++ (blanks.reverse ++ (fence ++ white.reverse)), ?_, .inl (.intro ?_ ?_ ?_)⟩
    · rw [← List.reverse_reverse cs, ← hsplit, hline]
      simp only [List.reverse_append, List.append_assoc]
      rfl
    · obtain rfl | rfl := hnewline
      · exact .inl rfl
      · exact .inr rfl
    · exact fun c hc => hblanks c (List.mem_reverse.mp hc)
    · exact fun c hc => List.mem_takeWhile_imp (hwhite ▸ List.mem_reverse.mp hc)

theorem isLongest_closing {closing cs : List Char} (hcs : cs = dropClosing cs ++ closing)
    (hclosing : ClosingFence closing ∨ closing = []) :
    IsLongest (fun c => ClosingFence c ∧ c <:+ cs) closing where
  holds := hclosing.imp_left fun h => ⟨h, ⟨_, hcs.symm⟩⟩
  length_le := by
    rintro other ⟨hother, front, rfl⟩
    have hlength := congrArg List.length hcs
    have hfront := (dropClosing_isPrefix hother front).length_le
    simp only [List.length_append] at hlength
    omega

/-! ### Passes -/

theorem pass_unfenceOnce (cs : List Char) : Pass cs (unfenceOnce cs) := by
  obtain ⟨opening, hcs, hopening⟩ := exists_opening cs
  obtain ⟨closing, hrest, hclosing⟩ := exists_closing (dropOpening cs)
  have hlongest := isLongest_opening hcs hopening
  have hlongest' := isLongest_closing hrest hclosing
  rw [hrest] at hcs hlongest'
  rw [hcs] at hlongest
  have := Pass.intro hlongest hlongest'
  rwa [← hcs] at this

/-- There is only one longest fence at each end, so a pass has only one result. -/
theorem Pass.eq_of_pass {cs next other : List Char} (h : Pass cs next) (h' : Pass cs other) :
    next = other := by
  obtain @⟨opening, body, closing, hopening, hclosing⟩ := h
  generalize hcs : opening ++ (body ++ closing) = cs at h' hopening
  obtain @⟨opening', body', closing', hopening', hclosing'⟩ := h'
  obtain ⟨rfl, hrest⟩ := List.append_inj hcs (hopening.length_eq hopening')
  rw [hrest] at hclosing
  obtain ⟨rfl, -⟩ := List.append_inj' hrest (hclosing.length_eq hclosing')
  rfl

theorem pass_iff {cs next : List Char} : Pass cs next ↔ next = unfenceOnce cs :=
  ⟨fun h => h.eq_of_pass (pass_unfenceOnce cs), fun h => h ▸ pass_unfenceOnce cs⟩

theorem unfenceOnce_isInfix (cs : List Char) : unfenceOnce cs <:+: cs := by
  obtain ⟨opening, hcs, -⟩ := exists_opening cs
  obtain ⟨closing, hrest, -⟩ := exists_closing (dropOpening cs)
  refine List.IsInfix.trans (Text.trimChars_isInfix _) ⟨opening, closing, ?_⟩
  rw [List.append_assoc, ← hrest, ← hcs]

/-- A part of a text that is as long as the text is the text. -/
theorem length_unfenceOnce_lt {cs : List Char} (h : unfenceOnce cs ≠ cs) :
    (unfenceOnce cs).length < cs.length :=
  lt_of_le_of_ne (unfenceOnce_isInfix cs).length_le
    fun hlength => h ((unfenceOnce_isInfix cs).eq_of_length hlength)

theorem isTrimmed_unfenceOnce (cs : List Char) : Text.IsTrimmed (unfenceOnce cs) :=
  Text.isTrimmed_trimChars _

/-- A trimmed text with no backticks at its ends is left as it is. -/
theorem unfenceOnce_eq_self {cs : List Char} (hcs : Text.IsTrimmed cs) (hbegin : ¬fence <+: cs)
    (hend : ¬fence <:+ cs) : unfenceOnce cs = cs := by
  rw [unfenceOnce, dropOpening_of_not_isPrefix hbegin, dropClosing_of_not_isSuffix hcs hend,
    hcs.trimChars_eq]

theorem openingFence_fence : OpeningFence fence :=
  @OpeningFence.intro [] [] [] (.inl rfl) (by simp) (.inl rfl)

theorem closingFence_fence : ClosingFence fence :=
  @ClosingFence.intro [] [] [] (.inl rfl) (by simp) (by simp)

theorem length_dropOpening_lt {cs : List Char} (h : fence <+: cs) :
    (dropOpening cs).length < cs.length := by
  obtain ⟨tail, rfl⟩ := h
  have := (dropOpening_isSuffix openingFence_fence tail).length_le
  simp only [fence, List.length_append, List.length_cons, List.length_nil] at this ⊢
  omega

theorem length_dropClosing_lt {cs : List Char} (h : fence <:+ cs) :
    (dropClosing cs).length < cs.length := by
  obtain ⟨front, rfl⟩ := h
  have := (dropClosing_isPrefix closingFence_fence front).length_le
  simp only [fence, List.length_append, List.length_cons, List.length_nil] at this ⊢
  omega

theorem not_isPrefix_fence {cs : List Char} (h : unfenceOnce cs = cs) : ¬fence <+: cs := by
  intro hfence
  have hopening := length_dropOpening_lt hfence
  obtain ⟨closing, hrest, -⟩ := exists_closing (dropOpening cs)
  have hclosing := congrArg List.length hrest
  have htrim := (Text.trimChars_isInfix (dropClosing (dropOpening cs))).length_le
  have hlength : (Text.trimChars (dropClosing (dropOpening cs))).length = cs.length :=
    congrArg List.length h
  simp only [List.length_append] at hclosing
  omega

theorem not_isSuffix_fence {cs : List Char} (h : unfenceOnce cs = cs) : ¬fence <:+ cs := by
  intro hfence
  have hopening : dropOpening cs = cs := dropOpening_of_not_isPrefix (not_isPrefix_fence h)
  have hclosing := length_dropClosing_lt hfence
  have htrim := (Text.trimChars_isInfix (dropClosing cs)).length_le
  have hlength : (Text.trimChars (dropClosing cs)).length = cs.length := by
    rw [unfenceOnce, hopening] at h
    rw [h]
  omega

/-! ### The loop -/

/-- The test of the loop compares lengths; that is as good as comparing the texts. -/
theorem unfenceChars_eq (cs : List Char) :
    unfenceChars cs = if unfenceOnce cs = cs then cs else unfenceChars (unfenceOnce cs) := by
  rw [unfenceChars]
  by_cases h : unfenceOnce cs = cs
  · rw [if_pos h, h, if_neg (Nat.lt_irrefl _)]
  · rw [if_neg h, if_pos (length_unfenceOnce_lt h)]

theorem unfenceChars_of_eq {cs : List Char} (h : unfenceOnce cs = cs) : unfenceChars cs = cs := by
  rw [unfenceChars_eq, if_pos h]

theorem unfences_unfenceChars (cs : List Char) : Unfences cs (unfenceChars cs) := by
  induction hlength : cs.length using Nat.strong_induction_on generalizing cs with
  | _ n ih =>
    subst hlength
    by_cases h : unfenceOnce cs = cs
    · rw [unfenceChars_of_eq h]
      exact .done (pass_iff.mpr h.symm)
    · rw [unfenceChars_eq, if_neg h]
      exact .pass (pass_unfenceOnce cs) h (ih _ (length_unfenceOnce_lt h) _ rfl)

theorem Unfences.unfenceOnce_eq {cs result : List Char} (h : Unfences cs result) :
    unfenceOnce result = result := by
  induction h with
  | done h => exact (pass_iff.mp h).symm
  | pass _ _ _ ih => exact ih

theorem Unfences.isInfix {cs result : List Char} (h : Unfences cs result) : result <:+: cs := by
  induction h with
  | done => exact List.infix_rfl
  | pass h _ _ ih => exact List.IsInfix.trans ih (pass_iff.mp h ▸ unfenceOnce_isInfix _)

/-- **A reply is unfenced to the end.** A pass that changes a text makes it shorter, so the loop comes
to an end on every reply. What it leaves is a part of the reply without white space at its ends and
without backticks at its ends, and unfencing it once more leaves it as it is. -/
theorem unfences_unfence (reply : String) :
    (∀ cs next, Pass cs next → next ≠ cs → next.length < cs.length) ∧
      Unfences (Text.trimChars reply.toList) (unfence reply).toList ∧
      (unfence reply).toList <:+: reply.toList ∧ Text.IsTrimmed (unfence reply).toList ∧
      ¬fence <+: (unfence reply).toList ∧ ¬fence <:+ (unfence reply).toList ∧
      unfence (unfence reply) = unfence reply := by
  have hrun : Unfences (Text.trimChars reply.toList) (unfence reply).toList := by
    rw [unfence, String.toList_ofList]
    exact unfences_unfenceChars _
  have hstill := hrun.unfenceOnce_eq
  have htrimmed : Text.IsTrimmed (unfence reply).toList := hstill ▸ isTrimmed_unfenceOnce _
  refine ⟨?_, hrun, List.IsInfix.trans hrun.isInfix (Text.trimChars_isInfix _), htrimmed,
    not_isPrefix_fence hstill, not_isSuffix_fence hstill, ?_⟩
  · intro cs next h hne
    obtain rfl := pass_iff.mp h
    exact length_unfenceOnce_lt hne
  · rw [unfence, htrimmed.trimChars_eq, unfenceChars_of_eq hstill, String.ofList_toList]

/-! ### Fences put around a text -/

/-- What follows the backticks on the line of an opening fence. -/
structure Opener where
  /-- The name of the format, if there is one. -/
  name : List Char
  /-- The blanks up to the line end. -/
  blanks : List Char
  /-- The name is the name of the format. -/
  isFormatName : IsFormatName name
  /-- The blanks are spaces and tabs. -/
  isInlineBlank_blanks : ∀ c ∈ blanks, isInlineBlank c = true

/-- A text between an opening and a closing fence, each on a line of its own. -/
def Opener.wrap (o : Opener) (body : List Char) : List Char :=
  fence ++ (o.name ++ (o.blanks ++ '\n' :: (body ++ '\n' :: fence)))

/-- A text in fences, one pair around the other; the first opener is the outermost. -/
def wrapAll (openers : List Opener) (body : String) : String :=
  String.ofList (openers.foldr Opener.wrap body.toList)

namespace Opener

variable (o : Opener) (body : List Char)

theorem isTrimmed_wrap : Text.IsTrimmed (o.wrap body) where
  head c h := by
    obtain rfl : '\x60' = c := Option.some.inj h
    rfl
  last c h := by
    have hfence : o.wrap body =
        (fence ++ (o.name ++ (o.blanks ++ '\n' :: (body ++ ['\n', '\x60', '\x60'])))) ++ ['\x60'] := by
      simp [wrap, fence]
    rw [hfence, List.getLast?_concat] at h
    obtain rfl : '\x60' = c := Option.some.inj h
    rfl

/-- A pass takes the two fences and nothing of the text between them. -/
theorem unfenceOnce_wrap : unfenceOnce (o.wrap body) = Text.trimChars body := by
  rw [unfenceOnce, wrap, dropOpening_line o.isFormatName o.isInlineBlank_blanks, dropClosing_line]

theorem unfenceOnce_wrap_ne : unfenceOnce (o.wrap body) ≠ o.wrap body := by
  intro h
  exact not_isPrefix_fence h ⟨_, rfl⟩

theorem unfenceChars_wrap :
    unfenceChars (Text.trimChars (o.wrap body)) = unfenceChars (Text.trimChars body) := by
  rw [(o.isTrimmed_wrap body).trimChars_eq, unfenceChars_eq, if_neg (o.unfenceOnce_wrap_ne body),
    unfenceOnce_wrap]

end Opener

theorem unfenceChars_wrapAll (openers : List Opener) (body : List Char) :
    unfenceChars (Text.trimChars (openers.foldr Opener.wrap body)) =
      unfenceChars (Text.trimChars body) := by
  induction openers with
  | nil => rfl
  | cons o openers ih => rw [List.foldr_cons, Opener.unfenceChars_wrap, ih]

/-- **Fencing is undone exactly.** However many fences are put around a text, and whatever the text
is, unfencing gives what it gives for the text itself; and that is the text if it has no white space
and no backticks at its ends. -/
theorem unfence_wrapAll (openers : List Opener) (body : String) :
    unfence (wrapAll openers body) = unfence body ∧
      (Text.IsTrimmed body.toList → ¬fence <+: body.toList → ¬fence <:+ body.toList →
        unfence (wrapAll openers body) = body) := by
  have hunfence : unfence (wrapAll openers body) = unfence body := by
    rw [unfence, wrapAll, String.toList_ofList, unfenceChars_wrapAll, unfence]
  refine ⟨hunfence, fun htrimmed hbegin hend => ?_⟩
  have hstill := unfenceOnce_eq_self htrimmed hbegin hend
  rw [hunfence, unfence, htrimmed.trimChars_eq, unfenceChars_of_eq hstill, String.ofList_toList]

/-- A body that begins with the name of the format, in a bare fence in a labelled one. -/
theorem unfence_wrapAll_twice :
    unfence (wrapAll [⟨['y', 'A', 'M', 'L'], ['\t'], .inr (.inr rfl), by simp [isInlineBlank]⟩,
      ⟨[], [], .inl rfl, by simp⟩] "yaml: 1") = "yaml: 1" := by
  refine (unfence_wrapAll _ "yaml: 1").2 ⟨?_, ?_⟩ (by decide) (by decide)
  · rintro c (h : some 'y' = some c)
    obtain rfl := Option.some.inj h
    rfl
  · rintro c (h : some '1' = some c)
    obtain rfl := Option.some.inj h
    rfl

end RouteAtlas
