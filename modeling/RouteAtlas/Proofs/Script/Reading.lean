import RouteAtlas.Proofs.Script.Spelling

/-!
# Reading a text that is known

The other modules about the grammar say what follows if a reader succeeds. Here readers are shown
to succeed, on texts whose tokens are known: `Reads p s a s'` says that `p` gets from the position
`s` to the position `s'` with the result `a`, and `Refuses p s` that it gets stuck at `s`. Both
hold whatever attempts have failed before, because only the place of a fault depends on that. Each
way to combine readers has its rule, and each reader of a token a law about the characters of the
token and the token that comes next (`Leads`).
-/

namespace RouteAtlas.Script

/-- A position behind a token that stands on the same line: the text that is left, and the row. -/
structure Position where
  /-- The characters left. -/
  rest : List Char
  /-- The row. -/
  row : Nat

/-- The cursor at a position, after attempts that have failed somewhere. -/
def Position.cursor (s : Position) (furthest : Place) : Cursor :=
  ⟨s.rest, s.rest.length, s.row, false, furthest⟩

namespace Reader

variable {α β : Type} {s s' s'' : Position} {a : α} {b : β}

/-- A reader gets from one position to another, whatever attempts have failed before. -/
def Reads (p : Reader α) (s : Position) (a : α) (s' : Position) : Prop :=
  ∀ furthest, ∃ furthest', p (s.cursor furthest) = .done a (s'.cursor furthest')

/-- A reader gets stuck at a position. -/
def Refuses (p : Reader α) (s : Position) : Prop :=
  ∀ furthest, ∃ place, p (s.cursor furthest) = .stuck place

/-! ### Combinations -/

theorem reads_pure (a : α) (s : Position) : Reads (pure a) s a s :=
  fun furthest => ⟨furthest, rfl⟩

theorem Reads.bind {p : Reader α} {f : α → Reader β} (hp : Reads p s a s')
    (hf : Reads (f a) s' b s'') : Reads (p >>= f) s b s'' := by
  intro furthest
  obtain ⟨between, hp⟩ := hp furthest
  obtain ⟨furthest', hf⟩ := hf between
  exact ⟨furthest', bind_eq_done_iff.mpr ⟨a, _, hp, hf⟩⟩

theorem Reads.refuses_bind {p : Reader α} {f : α → Reader β} (hp : Reads p s a s')
    (hf : Refuses (f a) s') : Refuses (p >>= f) s := by
  intro furthest
  obtain ⟨between, hp⟩ := hp furthest
  obtain ⟨place, hf⟩ := hf between
  refine ⟨place, ?_⟩
  show Reader.bind p f _ = _
  rw [Reader.bind, hp]
  exact hf

theorem Refuses.bind {p : Reader α} {f : α → Reader β} (hp : Refuses p s) :
    Refuses (p >>= f) s := by
  intro furthest
  obtain ⟨place, hp⟩ := hp furthest
  refine ⟨place, ?_⟩
  show Reader.bind p f _ = _
  rw [Reader.bind, hp]

theorem reads_ahead (s : Position) : Reads ahead s s.rest s :=
  fun furthest => ⟨furthest, rfl⟩

/-- What looks at the cursor itself must not depend on the attempts that have failed. -/
theorem reads_here_bind {f : Cursor → Reader β}
    (hf : ∀ furthest, Reads (f (s.cursor furthest)) s b s') : Reads (here >>= f) s b s' := by
  intro furthest
  obtain ⟨furthest', hf⟩ := hf furthest furthest
  exact ⟨furthest', bind_eq_done_iff.mpr ⟨_, _, rfl, hf⟩⟩

theorem refuses_fail (s : Position) : Refuses (fail : Reader α) s :=
  fun _ => ⟨_, rfl⟩

theorem reads_guard {b : Bool} (hb : b = true) (s : Position) : Reads (guard b) s () s := by
  subst hb
  exact fun furthest => ⟨furthest, rfl⟩

theorem Reads.attempt {p : Reader α} (h : Reads p s a s') : Reads (attempt p) s (some a) s' := by
  intro furthest
  obtain ⟨furthest', h⟩ := h furthest
  refine ⟨furthest', ?_⟩
  have hsome : (p >>= fun a => value (some a)) (s.cursor furthest) =
      .done (some a) (s'.cursor furthest') := bind_eq_done_iff.mpr ⟨a, _, h, rfl⟩
  rw [Reader.attempt, orElse, hsome]

/-- An attempt that fails is remembered, but changes nothing else. -/
theorem Refuses.attempt {p : Reader α} (h : Refuses p s) : Reads (Reader.attempt p) s none s := by
  intro furthest
  obtain ⟨place, h⟩ := (h.bind (f := fun a => value (some a))) furthest
  refine ⟨place, ?_⟩
  rw [Reader.attempt, orElse, h]
  rfl

theorem Refuses.manyUpTo {p : Reader α} (h : Refuses p s) (n : Nat) :
    Reads (Reader.manyUpTo p n) s [] s := by
  cases n with
  | zero => exact reads_pure [] s
  | succ n => exact h.attempt.bind (reads_pure [] s)

theorem Reads.manyUpTo {p : Reader α} {as : List α} {n : Nat} (h : Reads p s a s')
    (has : Reads (Reader.manyUpTo p n) s' as s'') :
    Reads (Reader.manyUpTo p (n + 1)) s (a :: as) s'' :=
  h.attempt.bind (has.bind (reads_pure (a :: as) s''))

/-- A part that is there once. -/
theorem Reads.many {p : Reader α} (h : Reads p s a s') (hend : Refuses p s')
    (hne : s.rest ≠ []) : Reads (Reader.many p) s [a] s' := by
  intro furthest
  obtain ⟨c, cs, hrest⟩ := List.exists_cons_of_ne_nil hne
  obtain ⟨furthest', h⟩ := h.manyUpTo (hend.manyUpTo cs.length) furthest
  refine ⟨furthest', ?_⟩
  have hlength : (s.cursor furthest).remaining = cs.length + 1 := by
    rw [Position.cursor, hrest, List.length_cons]
  rw [Reader.many, hlength, h]

end Reader

/-! ### Moving over characters -/

/-- A text that does not begin with a blank or a comment. -/
def StartsToken (cs : List Char) : Prop :=
  ∀ x ∈ cs.head?, isSpace x = false ∧ x ≠ '/'

theorem startsToken_cons {x : Char} (hx : isSpace x = false) (hslash : x ≠ '/') (cs : List Char) :
    StartsToken (x :: cs) := by
  intro y hy
  obtain rfl := Option.some.inj hy
  exact ⟨hx, hslash⟩

/-- A text goes on with blanks on the same line, if with any, and then with a token. -/
structure Leads (after rest : List Char) : Prop where
  /-- The blanks. -/
  exists_gap : ∃ gap, after = gap ++ rest ∧ ∀ x ∈ gap, isSpace x = true ∧ x ≠ '\n'
  /-- The token. -/
  startsToken : StartsToken rest

theorem StartsToken.leads {rest : List Char} (h : StartsToken rest) : Leads rest rest :=
  ⟨⟨[], rfl, fun _ hx => nomatch hx⟩, h⟩

theorem StartsToken.leads_blank {rest : List Char} (h : StartsToken rest) :
    Leads (' ' :: rest) rest := by
  refine ⟨⟨[' '], rfl, fun x hx => ?_⟩, h⟩
  obtain rfl := List.mem_singleton.mp hx
  exact ⟨by decide +kernel, by decide⟩

namespace Cursor

theorem skipTrivia_of_startsToken {c : Cursor} (h : StartsToken c.rest) (fuel : Nat) :
    c.skipTrivia fuel = c := by
  cases fuel with
  | zero => rfl
  | succ fuel =>
    rw [skipTrivia]
    split
    · rfl
    · rename_i hrest
      exact absurd rfl (h '/' (by rw [hrest]; rfl)).2
    · rename_i hrest
      exact absurd rfl (h '/' (by rw [hrest]; rfl)).2
    · rename_i x _ _ _ hrest
      rw [if_neg (by rw [(h x (by rw [hrest]; rfl)).1]; exact Bool.false_ne_true)]

theorem skipTrivia_of_isSpace {c : Cursor} {x : Char} {cs : List Char} (hrest : c.rest = x :: cs)
    (hx : isSpace x = true) (fuel : Nat) :
    c.skipTrivia (fuel + 1) =
      ({ c.step with freshLine := c.freshLine || x == '\n' } : Cursor).skipTrivia fuel := by
  have hslash : x ≠ '/' := fun h => absurd (h ▸ hx) (by decide +kernel)
  rw [skipTrivia]
  split
  · rename_i hnil
    exact absurd (hrest.symm.trans hnil) (List.cons_ne_nil x cs)
  · rename_i hopen
    exact absurd (List.cons.inj (hrest.symm.trans hopen)).1 hslash
  · rename_i hopen
    exact absurd (List.cons.inj (hrest.symm.trans hopen)).1 hslash
  · rename_i y _ _ _ hhead
    obtain rfl : x = y := (List.cons.inj (hrest.symm.trans hhead)).1
    rw [if_pos hx]

end Cursor

namespace Position

theorem step_cursor (x : Char) (cs : List Char) (row : Nat) (furthest : Place) :
    ((⟨x :: cs, row⟩ : Position).cursor furthest).step =
      (⟨cs, row + [x].count '\n'⟩ : Position).cursor furthest := by
  have hrow : (if x == '\n' then row + 1 else row) = row + [x].count '\n' := by
    rw [List.count_singleton]
    split <;> rfl
  exact congrArg (fun r => (⟨cs, r⟩ : Position).cursor furthest) hrow

theorem advance_cursor (text rest : List Char) (row : Nat) (furthest : Place) :
    ((⟨text ++ rest, row⟩ : Position).cursor furthest).advance text.length =
      (⟨rest, row + text.count '\n'⟩ : Position).cursor furthest := by
  induction text generalizing row with
  | nil => rfl
  | cons x text ih =>
    have hcount : (x :: text).count '\n' = [x].count '\n' + text.count '\n' := by
      rw [← List.count_append]
      rfl
    rw [List.length_cons, Cursor.advance, List.cons_append, step_cursor, ih, hcount, Nat.add_assoc]

/-- The blanks in front of a token are skipped, and nothing else. -/
theorem skipTrivia_cursor {after rest : List Char} {fuel : Nat} (h : Leads after rest)
    (hfuel : after.length ≤ fuel) (row : Nat) (furthest : Place) :
    ((⟨after, row⟩ : Position).cursor furthest).skipTrivia fuel =
      (⟨rest, row⟩ : Position).cursor furthest := by
  obtain ⟨⟨gap, rfl, hgap⟩, hrest⟩ := h
  induction gap generalizing fuel with
  | nil => exact Cursor.skipTrivia_of_startsToken hrest fuel
  | cons x gap ih =>
    obtain ⟨hspace, hline⟩ := hgap x List.mem_cons_self
    obtain ⟨fuel, rfl⟩ := Nat.exists_eq_succ_of_ne_zero (Nat.ne_of_gt (Nat.lt_of_lt_of_le
      (Nat.zero_lt_succ (gap ++ rest).length) hfuel))
    have hstep : ((⟨x :: (gap ++ rest), row⟩ : Position).cursor furthest).step =
        (⟨gap ++ rest, row⟩ : Position).cursor furthest := by
      rw [step_cursor, List.count_eq_zero_of_not_mem (by simpa using hline.symm), Nat.add_zero]
    have hfresh : (x == '\n') = false := beq_eq_false_iff_ne.mpr hline
    rw [List.cons_append, Cursor.skipTrivia_of_isSpace rfl hspace, hstep, hfresh]
    exact ih (fun y hy => hgap y (List.mem_cons_of_mem x hy)) (Nat.le_of_succ_le_succ hfuel)

end Position

namespace Reader

/-- Moving over a token takes the blanks behind it along. -/
theorem reads_pass (text : List Char) {after rest : List Char} (hafter : Leads after rest)
    (row : Nat) :
    Reads (pass text.length) ⟨text ++ after, row⟩ () ⟨rest, row + text.count '\n'⟩ := by
  intro furthest
  refine ⟨furthest, ?_⟩
  rw [pass, Cursor.pass, Position.advance_cursor]
  exact congrArg (Outcome.done ()) (Position.skipTrivia_cursor hafter (Nat.le_refl _) _ furthest)

theorem reads_skipTrivia {s : Position} (h : StartsToken s.rest) : Reads skipTrivia s () s :=
  fun furthest => ⟨furthest, congrArg (Outcome.done ())
    (Cursor.skipTrivia_of_startsToken h s.rest.length)⟩

end Reader

/-! ### Words -/

/-- A text that goes on with nothing that belongs to a word. -/
def EndsWord (cs : List Char) : Prop :=
  ∀ x ∈ cs.head?, isWordPart x = false ∧ x ≠ '\\'

section

variable {x : Char} (hx : isWordPart x = false) (hslash : x ≠ '\\') (cs : List Char)

include hx hslash

theorem endsWord_cons : EndsWord (x :: cs) := by
  intro y hy
  obtain rfl := Option.some.inj hy
  exact ⟨hx, hslash⟩

theorem startsWord_cons_eq_false : startsWord (x :: cs) = false := by
  have hescape : unicodeEscapeLength (x :: cs) = 0 := by
    rw [unicodeEscapeLength.eq_def]
    split
    · rename_i heq
      exact absurd (List.cons.inj heq).1 hslash
    · rename_i heq
      exact absurd (List.cons.inj heq).1 hslash
    · rfl
  rw [startsWord, hx, hescape]
  exact Bool.and_false _

theorem wordAhead_cons_eq_empty : wordAhead (x :: cs) = "" := by
  simp [wordAhead, hx, hslash]

end

/-- A word without escapes. -/
structure Word.IsPlain (w : Word) : Prop where
  /-- It does not begin with a digit. -/
  head : ∀ x ∈ w.text.toList.head?, x.isDigit = false
  /-- Each character belongs to a word by itself. -/
  part : ∀ x ∈ w.text.toList, isWordPart x = true

namespace Word.IsPlain

variable {w : Word} (hw : w.IsPlain)

include hw

/-- A word has a first character. -/
theorem exists_cons_append (after : List Char) :
    ∃ c cs, w.text.toList ++ after = c :: cs ∧ c.isDigit = false ∧ isWordPart c = true := by
  obtain ⟨c, cs, hcs⟩ := List.exists_cons_of_ne_nil
    (fun h => w.nonempty (String.toList_eq_nil_iff.mp h))
  exact ⟨c, cs ++ after, by rw [hcs, List.cons_append], hw.head c (by rw [hcs]; rfl),
    hw.part c (by rw [hcs]; exact List.mem_cons_self)⟩

theorem startsWord_append (after : List Char) : startsWord (w.text.toList ++ after) = true := by
  obtain ⟨c, cs, hcs, hdigit, hpart⟩ := hw.exists_cons_append after
  rw [hcs, startsWord, hdigit, hpart]
  rfl

/-- Nothing but a character of a word begins a word. -/
theorem head?_append_ne {x : Char} (hx : isWordPart x = false) (after : List Char) :
    (w.text.toList ++ after).head? ≠ some x := by
  obtain ⟨c, cs, hcs, -, hpart⟩ := hw.exists_cons_append after
  rw [hcs]
  rintro ⟨rfl⟩
  exact absurd hpart (by rw [hx]; exact Bool.false_ne_true)

theorem startsToken_append (after : List Char) : StartsToken (w.text.toList ++ after) := by
  obtain ⟨c, cs, hcs, -, hpart⟩ := hw.exists_cons_append after
  rw [hcs]
  refine startsToken_cons ?_ (fun h => absurd (h ▸ hpart) (by decide +kernel)) cs
  simp only [isWordPart, Bool.not_eq_true', Bool.or_eq_false_iff] at hpart
  exact hpart.1.2

theorem wordAhead_append {after : List Char} (hafter : EndsWord after) :
    wordAhead (w.text.toList ++ after) = w.text := by
  obtain ⟨c, cs, hcs, hdigit, hpart⟩ := hw.exists_cons_append after
  have hslash : (c == '\\') = false :=
    beq_eq_false_iff_ne.mpr fun h => absurd (h ▸ hpart) (by decide +kernel)
  have htake : (w.text.toList ++ after).takeWhile isWordPart = w.text.toList := by
    rw [List.takeWhile_append_of_pos hw.part]
    cases after with
    | nil => simp
    | cons x after => rw [List.takeWhile_cons, (hafter x rfl).1]; simp
  rw [hcs, wordAhead, if_neg (by rw [hdigit]; exact Bool.false_ne_true),
    if_neg (by rw [hslash]; exact Bool.false_ne_true)]
  dsimp only
  rw [← hcs, htake, List.drop_left]
  split
  · exact absurd rfl (hafter '\\' rfl).2
  · exact String.ofList_toList

end Word.IsPlain

/-! ### Operators -/

theorem operatorAhead_eq_empty {cs : List Char} (h : ∀ x ∈ cs.head?, x ∉ operatorStarts) :
    operatorAhead cs = "" := by
  cases cs with
  | nil => rfl
  | cons x cs =>
    have hx : operatorStarts.contains x = false := by simpa using h x rfl
    rw [operatorAhead, hx]
    rfl

/-- An operator that is ahead is what the text goes on with. -/
theorem operatorAhead_ne {cs : List Char} {op : String} {x : Char} (hx : op.toList.head? = some x)
    (h : cs.head? ≠ some x) : operatorAhead cs ≠ op := by
  intro hop
  obtain ⟨rest, hrest⟩ := operatorAhead_isPrefix cs
  rw [hop] at hrest
  refine h ?_
  rw [← hrest, List.head?_append, hx]
  rfl

namespace Reader

/-! ### Tokens -/

variable {s : Position}

theorem reads_atMark (x : Char) (s : Position) :
    Reads (atMark x) s (s.rest.head? == some x) s := by
  obtain ⟨cs, row⟩ := s
  refine (reads_ahead _).bind ?_
  cases cs with
  | nil => exact reads_pure false _
  | cons y cs => exact reads_pure (y == x) _

theorem refuses_mark {x : Char} (h : s.rest.head? ≠ some x) : Refuses (mark x) s := by
  obtain ⟨cs, row⟩ := s
  refine (reads_ahead _).refuses_bind ?_
  cases cs with
  | nil => exact refuses_fail _
  | cons y cs =>
    show Refuses (if y == x then pass 1 else fail) _
    rw [if_neg (by simpa using h)]
    exact refuses_fail _

theorem reads_optionalMark_of_ne {x : Char} (h : s.rest.head? ≠ some x) :
    Reads (optionalMark x) s false s := by
  have hat := reads_atMark x s
  rw [beq_eq_false_iff_ne.mpr h] at hat
  exact hat.bind (reads_pure false s)

theorem reads_optionalOperator_of_ne {op : String} (h : operatorAhead s.rest ≠ op) :
    Reads (optionalOperator op) s false s := by
  refine ((reads_ahead s).bind (reads_pure (operatorAhead s.rest) s)).bind ?_
  rw [if_neg (by simpa using h)]
  exact reads_pure false s

theorem reads_nextWord (s : Position) : Reads nextWord s (wordAhead s.rest) s :=
  (reads_ahead s).bind (reads_pure _ s)

section

variable {after rest : List Char} (hafter : Leads after rest) (row : Nat)

include hafter

theorem reads_word {w : Word} (hw : w.IsPlain) (hend : EndsWord after) :
    Reads word ⟨w.text.toList ++ after, row⟩ w ⟨rest, row⟩ := by
  have hrow : row + w.text.toList.count '\n' = row := by
    rw [List.count_eq_zero_of_not_mem fun h => absurd (hw.part '\n' h) (by decide +kernel),
      Nat.add_zero]
  have hahead := hw.wordAhead_append hend
  have hpass : Reads (pass (wordAhead (w.text.toList ++ after)).length)
      ⟨w.text.toList ++ after, row⟩ () ⟨rest, row⟩ := by
    rw [hahead, ← String.length_toList]
    have hread := reads_pass w.text.toList hafter row
    rwa [hrow] at hread
  have hsame : ∀ h, (⟨wordAhead (w.text.toList ++ after), h,
      fun _ => isWordChar_of_mem_wordAhead⟩ : Word) = w := by
    intro h
    cases w
    simpa using hahead
  refine (reads_ahead _).bind ?_
  dsimp only
  rw [dif_pos (hw.startsWord_append _)]
  refine hpass.bind ?_
  rw [hsame]
  exact reads_pure w _

theorem reads_char {x : Char} (hx : x ≠ '\n') :
    Reads (pass 1) ⟨x :: after, row⟩ () ⟨rest, row⟩ := by
  have hread := reads_pass [x] hafter row
  rw [List.count_eq_zero_of_not_mem (by simpa using hx.symm), Nat.add_zero] at hread
  exact hread

theorem reads_mark {x : Char} (hx : x ≠ '\n') :
    Reads (mark x) ⟨x :: after, row⟩ () ⟨rest, row⟩ := by
  refine (reads_ahead _).bind ?_
  show Reads (if x == x then pass 1 else fail) _ _ _
  rw [if_pos (beq_self_eq_true x)]
  exact reads_char hafter row hx

theorem reads_optionalMark {x : Char} (hx : x ≠ '\n') :
    Reads (optionalMark x) ⟨x :: after, row⟩ true ⟨rest, row⟩ := by
  have hat := reads_atMark x ⟨x :: after, row⟩
  rw [List.head?_cons, beq_self_eq_true] at hat
  exact hat.bind ((reads_char hafter row hx).bind (reads_pure true _))

/-- A quoted text is read as it is written. -/
theorem reads_quoted {mark : Char} {body : List Char} (hmark : mark = '\'' ∨ mark = '"')
    (hlength : ∀ after, quotedLength? mark ((body ++ mark :: after).length + 1)
      (body ++ mark :: after) = some body.length) :
    Reads quoted ⟨mark :: (body ++ mark :: after), row⟩ (String.ofList body)
      ⟨rest, row + body.count '\n'⟩ := by
  obtain ⟨hquote, hline⟩ : (mark == '\'' || mark == '"') = true ∧ mark ≠ '\n' := by
    rcases hmark with rfl | rfl <;> decide
  have htext : mark :: (body ++ mark :: after) = (mark :: (body ++ [mark])) ++ after := by simp
  have hpass : Reads (pass (body.length + 2)) ⟨mark :: (body ++ mark :: after), row⟩ ()
      ⟨rest, row + body.count '\n'⟩ := by
    have hread := reads_pass (mark :: (body ++ [mark])) hafter row
    rwa [← htext, List.length_cons, List.length_append, List.count_cons_of_ne hline,
      List.count_append, List.count_singleton, if_neg (by simpa using hline)] at hread
  refine (reads_ahead _).bind ?_
  dsimp only
  rw [if_pos hquote, hlength]
  refine hpass.bind ?_
  rw [List.take_left]
  exact reads_pure _ _

end

end Reader

end RouteAtlas.Script
