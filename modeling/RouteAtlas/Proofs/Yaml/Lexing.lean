import RouteAtlas.Proofs.Yaml.Layout

/-!
# Reading the tokens of a written text

The lexer is followed from one state between two tokens to the next. `Lexer.between` is such a state,
outside of flow collections and with no candidate for a key; `Lexer.Reaches` says that reading goes
on from one state as from another, and `Lexer.Leads` that it does so, or fails, depending on a
condition. There is one lemma for each thing that is written: indicators, scalars at the end of a
line, empty collections, keys on the line of their value, and the end of a collection. Only such a
key can fail, if more than 1024 characters are written for it (`Lexer.leads_key`).
-/

namespace RouteAtlas.Yaml.Lexer

/-! ### Runs -/

/-- What reading all tokens gives, whatever bound on their number is given. -/
def Yields (l : Lexer) (r : Except Flaw (List Token)) : Prop :=
  ∀ fuel, l.spot.rest.length < fuel → run fuel l = r

/-- A state from which reading goes on as from another one. -/
def Reaches (l l' : Lexer) : Prop := ∀ r, l'.Yields r → l.Yields r

theorem Reaches.refl (l : Lexer) : l.Reaches l := fun _ hr => hr

theorem Reaches.trans {a b c : Lexer} (h : a.Reaches b) (h' : b.Reaches c) : a.Reaches c :=
  fun r hr => h r (h' r hr)

variable {l l' q : Lexer}

theorem reaches_of_next (h : l.next = .ok (some l'))
    (hlength : l'.spot.rest.length < l.spot.rest.length) : l.Reaches l' := by
  intro r hr fuel hfuel
  obtain ⟨fuel, rfl⟩ := Nat.exists_eq_add_one_of_ne_zero (Nat.ne_of_gt (Nat.zero_lt_of_lt hfuel))
  rw [run, h]
  exact hr fuel (by omega)

theorem yields_of_next {f : Flaw} (h : l.next = .error f) : l.Yields (.error f) := by
  intro fuel hfuel
  obtain ⟨fuel, rfl⟩ := Nat.exists_eq_add_one_of_ne_zero (Nat.ne_of_gt (Nat.zero_lt_of_lt hfuel))
  rw [run, h]
  rfl

/-- The state at the next token: behind blanks and line ends, and without candidates for keys that
can no longer be keys. -/
def settle (l : Lexer) : Except Flaw Lexer := (l.skip (l.spot.rest.length + 1)).dropStale

theorem next_eq_of_settle (h : l.settle = l'.settle) : l.next = l'.next := by
  rw [settle, settle] at h
  rw [next, next, h]

/-- Only the state at the next token matters. -/
theorem reaches_of_settle (h : l.settle = l'.settle)
    (hlength : l'.spot.rest.length ≤ l.spot.rest.length) : l.Reaches l' := by
  intro r hr fuel hfuel
  obtain ⟨fuel, rfl⟩ := Nat.exists_eq_add_one_of_ne_zero (Nat.ne_of_gt (Nat.zero_lt_of_lt hfuel))
  rw [← hr (fuel + 1) (by omega), run, run, next_eq_of_settle h]
  rw [settle, settle] at h
  rw [h]

/-! ### Blanks and line ends -/

theorem isLineEnd_stopsAt {cs : List Char} (h : StopsAt isSkipped cs) : StopsAt isLineEnd cs :=
  h.imp fun c hc => by rw [isSkipped, hc, Bool.or_true]

theorem skipComment_replicate {cs : List Char} (h : StopsAt isSkipped cs) (m i n k : Nat) :
    (⟨List.replicate m ' ' ++ cs, i, n, k⟩ : Spot).skipComment = ⟨cs, i + m, n, k + m⟩ := by
  have hblanks : (⟨List.replicate m ' ' ++ cs, i, n, k⟩ : Spot).skipWhile (· == ' ') =
      ⟨cs, i + m, n, k + m⟩ := by
    have hrest : (⟨List.replicate m ' ' ++ cs, i, n, k⟩ : Spot).rest =
        List.replicate m ' ' ++ cs := rfl
    rw [Spot.skipWhile_append hrest, List.length_replicate, Spot.advance_replicate]
    · exact fun c hc => by rw [List.eq_of_mem_replicate hc]; rfl
    · exact h.imp fun c hc => by rw [isSkipped, hc]; rfl
  rw [Spot.skipComment, hblanks]
  split
  · rename_i hrest
    have hsharp : cs = _ := hrest
    rw [hsharp] at h
    cases stopsAt_cons_iff.mp h
  · rfl

/-- Blanks in front of a token. -/
theorem skip_replicate {cs : List Char} {i n k m : Nat} (fuel : Nat) (h : StopsAt isSkipped cs)
    (hspot : l.spot = ⟨List.replicate m ' ' ++ cs, i, n, k⟩) :
    l.skip (fuel + 1) = { l with spot := ⟨cs, i + m, n, k + m⟩ } := by
  have hend : StopsAt isLineEnd (⟨cs, i + m, n, k + m⟩ : Spot).rest := isLineEnd_stopsAt h
  rw [skip, hspot, skipComment_replicate h, Spot.lineBreak_of_stopsAt hend]
  rfl

/-- A line end and the indentation of the next line in front of a token. -/
theorem skip_nextLine {cs : List Char} {i n k m : Nat} (fuel : Nat) (h : StopsAt isSkipped cs)
    (hspot : l.spot = ⟨nextLine m ++ cs, i, n, k⟩) :
    l.skip (fuel + 2) = { l with
      spot := ⟨cs, i + 1 + m, n + 1, m⟩, keyAllowed := l.keyAllowed || l.flow == 0 } := by
  have hcomment : (⟨nextLine m ++ cs, i, n, k⟩ : Spot).skipComment = ⟨nextLine m ++ cs, i, n, k⟩ := by
    rw [Spot.skipComment, Spot.skipWhile_of_stopsAt (stopsAt_cons_iff.mpr rfl)]
    rfl
  have hbreak : (⟨nextLine m ++ cs, i, n, k⟩ : Spot).lineBreak =
      (['\n'], ⟨List.replicate m ' ' ++ cs, i + 1, n + 1, 0⟩) := rfl
  rw [skip, hspot, hcomment, hbreak]
  simp only [List.isEmpty_cons, Bool.false_eq_true, if_false]
  rw [skip_replicate fuel h rfl]
  simp

/-! ### Candidates for keys -/

/-- Candidates that were found on an earlier line, none of which has to be a key. -/
def HasOldCandidates (l : Lexer) : Prop :=
  ∀ c ∈ l.candidates, c.2.line < l.spot.line ∧ c.2.required = false

theorem dropStale_of_old (h : l.HasOldCandidates) : l.dropStale = .ok { l with candidates := [] } := by
  have hnone : (l.candidates.any fun c => (c.2.line != l.spot.line ||
      decide (1024 < l.spot.index - c.2.index)) && c.2.required) = false := by
    rw [List.any_eq_false]
    intro c hc
    simp [(h c hc).2]
  have hall : (l.candidates.filter fun c => !(c.2.line != l.spot.line ||
      decide (1024 < l.spot.index - c.2.index))) = [] := by
    rw [List.filter_eq_nil_iff]
    intro c hc
    simp [Nat.ne_of_lt (h c hc).1]
  rw [dropStale]
  simp only [hnone, hall]
  rfl

/-- Candidates on the line of the place and near to it stay. -/
theorem dropStale_of_fresh
    (h : ∀ c ∈ l.candidates, c.2.line = l.spot.line ∧ l.spot.index - c.2.index ≤ 1024) :
    l.dropStale = .ok l := by
  have hfresh : ∀ c ∈ l.candidates, (c.2.line != l.spot.line ||
      decide (1024 < l.spot.index - c.2.index)) = false := by
    intro c hc
    obtain ⟨hline, hindex⟩ := h c hc
    simp [hline, Nat.not_lt.mpr hindex]
  have hnone : (l.candidates.any fun c => (c.2.line != l.spot.line ||
      decide (1024 < l.spot.index - c.2.index)) && c.2.required) = false := by
    rw [List.any_eq_false]
    intro c hc
    rw [hfresh c hc, Bool.false_and]
    exact Bool.false_ne_true
  have hall : (l.candidates.filter fun c => !(c.2.line != l.spot.line ||
      decide (1024 < l.spot.index - c.2.index))) = l.candidates := by
    rw [List.filter_eq_self]
    intro c hc
    rw [hfresh c hc]
    rfl
  rw [dropStale]
  simp only [hnone, hall]
  rfl

theorem settle_of_old {cs : List Char} {i n k : Nat} (h : StopsAt isSkipped cs)
    (hspot : l.spot = ⟨cs, i, n, k⟩) (hold : l.HasOldCandidates) :
    l.settle = .ok { l with candidates := [] } := by
  have hskip := skip_replicate l.spot.rest.length (m := 0) h hspot
  rw [settle, hskip]
  have hl : { l with spot := ⟨cs, i + 0, n, k + 0⟩ } = l := by
    rw [Nat.add_zero, Nat.add_zero, ← hspot]
  rw [hl, dropStale_of_old hold]

/-! ### States between tokens -/

/-- A state outside of flow collections with no candidates for keys. -/
def between (ts : List Token) (n : Int) (outer : List Int) (allowed : Bool) (s : Spot) : Lexer :=
  { spot := s, tokens := ts, count := ts.length, indent := n, outer := outer, keyAllowed := allowed }

variable {ts : List Token} {n : Int} {outer : List Int} {allowed : Bool} {cs : List Char}
  {i ln k : Nat}

theorem settle_between (h : StopsAt isSkipped cs) :
    (between ts n outer allowed ⟨cs, i, ln, k⟩).settle =
      .ok (between ts n outer allowed ⟨cs, i, ln, k⟩) :=
  settle_of_old h rfl fun _ hc => absurd hc List.not_mem_nil

/-- A blank in front of a token. -/
theorem reaches_blank (h : StopsAt isSkipped cs) :
    (between ts n outer allowed ⟨' ' :: cs, i, ln, k⟩).Reaches
      (between ts n outer allowed ⟨cs, i + 1, ln, k + 1⟩) := by
  refine reaches_of_settle ?_ (Nat.le_succ _)
  rw [settle_between h, settle, skip_replicate _ (m := 1) h rfl]
  rfl

/-- **At the end of a line** all that is left of the line are its tokens. -/
theorem reaches_line {m : Nat} (h : StopsAt isSkipped cs)
    (hspot : l.spot = ⟨nextLine m ++ cs, i, ln, k⟩) (hflow : l.flow = 0)
    (hcount : l.count = l.tokens.length)
    (hold : ∀ c ∈ l.candidates, c.2.line ≤ ln ∧ c.2.required = false) :
    l.Reaches (between l.tokens l.indent l.outer true ⟨cs, i + 1 + m, ln + 1, m⟩) := by
  have hskip := skip_nextLine (List.replicate m ' ' ++ cs).length h hspot
  have hfuel : l.spot.rest.length + 1 = (List.replicate m ' ' ++ cs).length + 2 := by
    rw [hspot]
    rfl
  refine reaches_of_settle ?_ ?_
  · rw [settle_between h, settle, hfuel, hskip, dropStale_of_old]
    · simp [between, hflow, hcount]
    · exact fun c hc => ⟨Nat.lt_succ_of_le (hold c hc).1, (hold c hc).2⟩
  · simp only [hspot, between, List.length_append, length_nextLine]
    omega

/-- A new line in front of a token. -/
theorem reaches_nextLine (h : StopsAt isSkipped cs) (m : Nat) :
    (between ts n outer allowed ⟨nextLine m ++ cs, i, ln, k⟩).Reaches
      (between ts n outer true ⟨cs, i + 1 + m, ln + 1, m⟩) :=
  reaches_line h rfl rfl rfl fun _ hc => absurd hc List.not_mem_nil

theorem unwindTo_of_le {column : Int} (h : l.indent ≤ column) : l.unwindTo column = l := by
  rw [unwindTo, unwind]
  simp [h]

/-- A block collection ends in front of a token that is indented less. -/
theorem reaches_close {p : Int} (h : StopsAt isSkipped cs) (hk : (k : Int) < n) :
    (between ts n (p :: outer) allowed ⟨cs, i, ln, k⟩).Reaches
      (between (.blockEnd :: ts) p outer allowed ⟨cs, i, ln, k⟩) := by
  have hunwind (column : Int) (hcolumn : column < n) :
      (between ts n (p :: outer) allowed ⟨cs, i, ln, k⟩).unwindTo column =
        (between (.blockEnd :: ts) p outer allowed ⟨cs, i, ln, k⟩).unwindTo column := by
    rw [unwindTo, unwindTo, between, List.length_cons, unwind]
    simp [Int.not_le.mpr hcolumn]
    rfl
  have hsettle : (between ts n (p :: outer) allowed ⟨cs, i, ln, k⟩).settle = _ := settle_between h
  have hsettle' : (between (.blockEnd :: ts) p outer allowed ⟨cs, i, ln, k⟩).settle = _ :=
    settle_between h
  rw [settle] at hsettle hsettle'
  intro r hr fuel hfuel
  obtain ⟨fuel, rfl⟩ := Nat.exists_eq_add_one_of_ne_zero (Nat.ne_of_gt (Nat.zero_lt_of_lt hfuel))
  rw [← hr (fuel + 1) hfuel, run, run, next, next, hsettle, hsettle']
  have hcolumn : (between ts n (p :: outer) allowed ⟨cs, i, ln, k⟩).unwindTo
      (between ts n (p :: outer) allowed ⟨cs, i, ln, k⟩).spot.column = _ := hunwind k hk
  simp only [bind, Except.bind, hcolumn, hunwind (-1) (by omega)]
  rfl

theorem unwindTo_between (hn : n ≤ k) :
    (between ts n outer allowed ⟨cs, i, ln, k⟩).unwindTo
      (between ts n outer allowed ⟨cs, i, ln, k⟩).spot.column =
        between ts n outer allowed ⟨cs, i, ln, k⟩ :=
  unwindTo_of_le hn

/-! ### What the next token is -/

/-- A state that stands at its next token, with all collections closed that end in front of it. -/
structure IsSettled (l : Lexer) : Prop where
  settle : l.settle = .ok l
  unwind : l.unwindTo l.spot.column = l

theorem next_hyphen (h : l.IsSettled) (hrest : l.spot.rest = '-' :: cs)
    (hwhite : endsOr isWhite cs = true) (hseparator : l.spot.atSeparator = false) :
    l.next = l.blockEntry.map some := by
  have hsettle := h.settle
  rw [Lexer.settle] at hsettle
  rw [next, hsettle]
  simp only [bind, Except.bind, h.unwind, hrest]
  simp [hwhite, hseparator]
  rfl

theorem next_question (h : l.IsSettled) (hrest : l.spot.rest = '?' :: cs)
    (hwhite : endsOr isWhite cs = true) : l.next = l.explicitKey.map some := by
  have hsettle := h.settle
  rw [Lexer.settle] at hsettle
  rw [next, hsettle]
  simp only [bind, Except.bind, h.unwind, hrest]
  simp [hwhite]
  rfl

theorem next_colon (h : l.IsSettled) (hrest : l.spot.rest = ':' :: cs)
    (hwhite : endsOr isWhite cs = true) : l.next = l.mappingValue.map some := by
  have hsettle := h.settle
  rw [Lexer.settle] at hsettle
  rw [next, hsettle]
  simp only [bind, Except.bind, h.unwind, hrest]
  simp [hwhite]
  rfl

theorem next_quote (h : l.IsSettled) {double : Bool}
    (hrest : l.spot.rest = (if double then '"' else '\'') :: cs) :
    l.next = (l.node (quoted double l.spot)).map some := by
  have hsettle := h.settle
  rw [Lexer.settle] at hsettle
  rw [next, hsettle]
  simp only [bind, Except.bind, h.unwind, hrest]
  cases double <;> simp <;> rfl

/-- The brackets of flow collections and their tokens. -/
def IsBracketPair (a b : Char) (opens closes : Token) : Prop :=
  (a = '[' ∧ b = ']' ∧ opens = .flowSequenceStart ∧ closes = .flowSequenceEnd) ∨
    (a = '\x7b' ∧ b = '\x7d' ∧ opens = .flowMappingStart ∧ closes = .flowMappingEnd)

theorem next_openFlow {a b : Char} {opens closes : Token} (hpair : IsBracketPair a b opens closes)
    (h : l.IsSettled) (hrest : l.spot.rest = a :: cs) : l.next = (l.openFlow opens).map some := by
  have hsettle := h.settle
  rw [Lexer.settle] at hsettle
  rw [next, hsettle]
  simp only [bind, Except.bind, h.unwind, hrest]
  rcases hpair with ⟨rfl, -, rfl, -⟩ | ⟨rfl, -, rfl, -⟩ <;> simp <;> rfl

theorem next_closeFlow {a b : Char} {opens closes : Token} (hpair : IsBracketPair a b opens closes)
    (h : l.IsSettled) (hrest : l.spot.rest = b :: cs) : l.next = (l.closeFlow closes).map some := by
  have hsettle := h.settle
  rw [Lexer.settle] at hsettle
  rw [next, hsettle]
  simp only [bind, Except.bind, h.unwind, hrest]
  rcases hpair with ⟨-, rfl, -, rfl⟩ | ⟨-, rfl, -, rfl⟩ <;> simp <;> rfl

/-- Characters that begin other tokens, whatever follows them. -/
def tokenMarks : List Char :=
  ['%', '[', ']', '\x7b', '\x7d', ',', '*', '&', '!', '|', '>', '\'', '"']

/-- What begins a plain scalar begins no other token. -/
theorem startsPlain_cons {c : Char} (h : startsPlain false (c :: cs) = true) :
    (∀ x ∈ tokenMarks, c ≠ x) ∧ ((c = '-' ∨ c = '?' ∨ c = ':') → endsOr isWhite cs = false) := by
  have hmarks : ∀ x ∈ tokenMarks, ("-?:,[]\x7b\x7d#&*!|>'\"%@\x60".toList.contains x &&
      !(x == '-' || (x == '?' || x == ':'))) = true :=
    List.all_eq_true.mp rfl
  constructor
  · rintro x hx rfl
    obtain ⟨hcontains, hnone⟩ := Bool.and_eq_true_iff.mp (hmarks c hx)
    rw [Bool.not_eq_true'] at hnone
    rw [startsPlain, hcontains, Bool.or_true, Bool.not_false, Bool.true_and, hnone,
      Bool.and_false] at h
    cases h
  · intro hc
    by_contra hwhite
    rw [Bool.not_eq_false] at hwhite
    rcases hc with rfl | rfl | rfl <;> simp [startsPlain, hwhite] at h

theorem next_plain (h : l.IsSettled) (hflow : l.flow = 0)
    (hstart : startsPlain false l.spot.rest = true)
    (hseparator : l.spot.atSeparator = false) : l.next = l.plain.map some := by
  have hsettle := h.settle
  rw [Lexer.settle] at hsettle
  rw [next, hsettle]
  simp only [bind, Except.bind, h.unwind]
  cases hrest : l.spot.rest with
  | nil => rw [hrest] at hstart; cases hstart
  | cons c cs =>
    rw [hrest] at hstart
    obtain ⟨hmarks, hindicator⟩ := startsPlain_cons hstart
    simp only [tokenMarks, List.forall_mem_cons] at hmarks
    have hnone {x : Char} (hx : x = '-' ∨ x = '?' ∨ x = ':') :
        (c == x && endsOr isWhite cs) = false := by
      by_cases hc : c = x
      · rw [hindicator (hc ▸ hx), Bool.and_false]
      · simp [hc]
    simp [hmarks, hnone, hflow, hstart, hseparator]
    rfl

/-! ### Scalars -/

/-- **A scalar in quotes** is read back. -/
theorem quoted_written {f : Form} (h : f.IsBare) (hstyle : f.style false ≠ .plain) {indent : Nat}
    (hindent : 0 < indent) {s : Spot} {rest : List Char} (hrest : StopsAt (· == '\'') rest)
    (hs : s.rest = f.written indent ++ rest) :
    ∃ double cs, s.rest = (if double then '"' else '\'') :: cs ∧
      quoted double s = .ok (f.token, s.advance (f.written indent).length) := by
  rcases h.quotes_cases hstyle indent with ⟨hsingle, hheard, hwritten⟩ |
    ⟨hdouble, hheard, hwritten⟩
  · rw [hwritten, List.cons_append, List.append_assoc] at hs
    refine ⟨false, _, hs, ?_⟩
    have hread : quotedScalar false (s.rest.length + 1) [] s.step = _ :=
      Reads.singleBody hindent (Form.allowsSingle_of_style hsingle) hrest (rest_step_cons hs) _
        ((length_rest_step_lt hs).trans (Nat.lt_succ_self _))
    rw [quoted, hread, Form.token, hheard, hsingle, hwritten, List.length_cons, List.length_append]
    rfl
  · rw [hwritten, List.cons_append, List.append_assoc] at hs
    refine ⟨true, _, hs, ?_⟩
    have hread : quotedScalar true (s.rest.length + 1) [] s.step = _ :=
      Reads.doubleBody (rest_step_cons hs) _
        ((length_rest_step_lt hs).trans (Nat.lt_succ_self _))
    rw [quoted, hread, Form.token, hheard, hdouble, hwritten, List.length_cons, List.length_append]
    change Except.ok (Token.scalar (String.ofList f.text.toList) false, _) = _
    rw [String.ofList_toList]
    rfl

theorem startsPlain_of_allowsPlain {cs : List Char} (h : allowsPlain cs = true) (hne : cs ≠ [])
    (tail : List Char) : startsPlain false (cs ++ tail) = true := by
  have htext := isPlainText_of_allowsPlain h hne
  cases cs with
  | nil => exact absurd rfl hne
  | cons c cs =>
    have hwhite : isWhite c = false := stopsAt_cons_iff.mp (htext.stopsAt [])
    simp only [allowsPlain, Bool.not_eq_true', Bool.or_eq_false_iff, hasIndicator] at h
    obtain ⟨-, -, ⟨hspecial, hfirst⟩, -⟩ := h
    rw [List.cons_append, startsPlain, hwhite, Bool.false_or]
    by_cases hmark : c = '-' ∨ c = '?' ∨ c = ':'
    · have hahead : gapAhead cs = false := by
        rcases hmark with rfl | rfl | rfl <;> simpa using hfirst
      rw [endsOr_append_of_gapAhead hahead]
      rcases hmark with rfl | rfl | rfl <;> simp
    · have hmarks : ∀ x ∈ "-?:,[]\x7b\x7d#&*!|>'\"%@\x60".toList,
          ((x == '-' || x == '?' || x == ':') ||
            "#,[]\x7b\x7d&*!|>'\"%@\x60".toList.contains x) = true :=
        List.all_eq_true.mp rfl
      have hnone : "-?:,[]\x7b\x7d#&*!|>'\"%@\x60".toList.contains c = false := by
        by_contra hcontains
        rcases Bool.or_eq_true_iff.mp
          (hmarks c (List.contains_iff_mem.mp ((Bool.not_eq_false _).mp hcontains))) with hc | hc
        · exact hmark (by simpa [or_assoc] using hc)
        · rw [hspecial] at hc
          cases hc
      rw [hnone]
      rfl

theorem append_ne_of_isPrefixOf {x : Char} {cs tail rest : List Char}
    (hcs : [x, x, x].isPrefixOf cs = false) (hne : cs ≠ []) (htail : StopsAt (· == x) tail) :
    cs ++ tail ≠ x :: x :: x :: rest := by
  intro heq
  match cs with
  | [] => exact hne rfl
  | [a] =>
    have htail' : tail = _ := (List.cons.inj heq).2
    simp [htail'] at htail
  | [a, b] =>
    have htail' : tail = _ := (List.cons.inj (List.cons.inj heq).2).2
    simp [htail'] at htail
  | a :: b :: c :: cs =>
    simp only [List.cons_append, List.cons.injEq] at heq
    simp [List.isPrefixOf, heq.1, heq.2.1, heq.2.2.1] at hcs

/-- A plain scalar is no mark between documents. -/
theorem atSeparator_of_allowsPlain {cs tail : List Char} (h : allowsPlain cs = true) (hne : cs ≠ [])
    (htail : StopsAt (fun c => c == '-' || c == '.') tail) (i ln k : Nat) :
    (⟨cs ++ tail, i, ln, k⟩ : Spot).atSeparator = false := by
  obtain ⟨hhyphens, hpoints⟩ : ['-', '-', '-'].isPrefixOf cs = false ∧
      ['.', '.', '.'].isPrefixOf cs = false := by
    cases cs with
    | nil => exact absurd rfl hne
    | cons c cs =>
      simp only [allowsPlain, Bool.not_eq_true', Bool.or_eq_false_iff, hasIndicator] at h
      exact h.2.1
  rw [Spot.atSeparator]
  split
  · rename_i heq
    exact absurd heq (append_ne_of_isPrefixOf hhyphens hne
      (htail.imp fun c hc => by rw [hc, Bool.true_or]))
  · rename_i heq
    exact absurd heq (append_ne_of_isPrefixOf hpoints hne
      (htail.imp fun c hc => by rw [hc, Bool.or_true]))
  · rfl

/-- The state with the current place as a candidate for a key, if a key may begin here. -/
def noted (l : Lexer) : Lexer :=
  if l.keyAllowed then
    { l with candidates := [(0, ⟨l.count, l.indent == l.spot.column, l.spot.index, l.spot.line,
        l.spot.column⟩)] }
  else l

theorem addCandidate_between (s : Spot) :
    (between ts n outer allowed s).addCandidate = .ok (between ts n outer allowed s).noted := by
  cases allowed <;> rfl

/-- The state behind a scalar. -/
def behind (l : Lexer) (t : Token) (s : Spot) (allowed : Bool) : Lexer :=
  { l.noted.emit t with spot := s, keyAllowed := allowed }

theorem node_between {s s' : Spot} {t : Token} {r : Except Flaw (Token × Spot)}
    (hr : r = .ok (t, s')) :
    (between ts n outer allowed s).node r = .ok ((between ts n outer allowed s).behind t s' false) := by
  rw [node, addCandidate_between, hr]
  rfl

theorem plain_between {s s' : Spot} {text : List Char} {fresh : Bool}
    (hread : plainScalar false (n + 1) (s.rest.length + 1) [] [] false s = ⟨text, s', fresh⟩) :
    (between ts n outer allowed s).plain =
      .ok ((between ts n outer allowed s).behind (.scalar (String.ofList text) true) s' fresh) := by
  have hnoted : (between ts n outer allowed s).noted.flow = 0 ∧
      (between ts n outer allowed s).noted.indent = n ∧
      (between ts n outer allowed s).noted.spot = s := by
    cases allowed <;> exact ⟨rfl, rfl, rfl⟩
  rw [plain, addCandidate_between]
  simp only [bind, Except.bind, hnoted.1, hnoted.2.1, hnoted.2.2]
  rw [show ((0 : Nat) != 0) = false from rfl, hread]
  rfl

theorem isSettled_between (h : StopsAt isSkipped cs) (hn : n ≤ k) :
    (between ts n outer allowed ⟨cs, i, ln, k⟩).IsSettled :=
  ⟨settle_between h, unwindTo_between hn⟩

theorem spot_behind (l : Lexer) (t : Token) (s : Spot) (a : Bool) : (l.behind t s a).spot = s := rfl

theorem mem_candidates_noted {s : Spot} :
    ∀ c ∈ (between ts n outer allowed s).noted.candidates,
      c.2.line = s.line ∧ c.2.index = s.index ∧ c.2.required = (n == s.column) := by
  cases allowed with
  | false => exact fun c hc => absurd hc List.not_mem_nil
  | true =>
    intro c hc
    obtain rfl := List.mem_singleton.mp hc
    exact ⟨rfl, rfl, rfl⟩

theorem behind_eq_between {s s' : Spot} {t : Token} {a : Bool} :
    { (between ts n outer allowed s).behind t s' a with candidates := [] } =
      between (t :: ts) n outer a s' := by
  cases allowed <;> rfl

/-- Behind a scalar, at the next entry. -/
theorem reaches_behind {t : Token} {s : Spot} {m i' ln' : Nat} (h : StopsAt isSkipped cs)
    (hn : n < s.column) (hline : s.line < ln') :
    ((between ts n outer allowed s).behind t ⟨cs, i', ln', m⟩ true).Reaches
      (between (t :: ts) n outer true ⟨cs, i', ln', m⟩) := by
  refine reaches_of_settle ?_ le_rfl
  rw [settle_between h, settle_of_old h rfl, behind_eq_between]
  intro c hc
  obtain ⟨hsame, -, hrequired⟩ := mem_candidates_noted c hc
  exact ⟨hsame ▸ hline, hrequired.trans (beq_eq_false_iff_ne.mpr (Int.ne_of_lt hn))⟩

/-- Behind a scalar, at the end of its line. -/
theorem reaches_behind_nextLine {t : Token} {s : Spot} {m : Nat} (h : StopsAt isSkipped cs)
    (hn : n < s.column) (hline : s.line ≤ ln) :
    ((between ts n outer allowed s).behind t ⟨nextLine m ++ cs, i, ln, k⟩ false).Reaches
      (between (t :: ts) n outer true ⟨cs, i + 1 + m, ln + 1, m⟩) := by
  have hold : ∀ c ∈ (between ts n outer allowed s).noted.candidates,
      c.2.line ≤ ln ∧ c.2.required = false := by
    intro c hc
    obtain ⟨hsame, -, hrequired⟩ := mem_candidates_noted c hc
    exact ⟨hsame ▸ hline, hrequired.trans (beq_eq_false_iff_ne.mpr (Int.ne_of_lt hn))⟩
  cases allowed with
  | false => exact reaches_line h rfl rfl rfl hold
  | true => exact reaches_line h rfl rfl rfl hold

theorem isSkipped_cases {c : Char} (h : isSkipped c = true) : isWhite c = true ∨ c = '#' := by
  simp only [isSkipped, Bool.or_eq_true, beq_iff_eq] at h
  rcases h with (rfl | rfl) | h
  · exact .inl rfl
  · exact .inr rfl
  · exact .inl (isWhite_of_isLineEnd h)

theorem stopsAt_isSkipped {cs : List Char} (h : IsPlainText cs) (tail : List Char) :
    StopsAt isSkipped (cs ++ tail) := by
  intro c hc
  by_contra hskipped
  rcases isSkipped_cases ((Bool.not_eq_false _).mp hskipped) with hwhite | rfl
  · rw [h.stopsAt tail c hc] at hwhite
    cases hwhite
  · have hsharp := h.head_ne_sharp tail
    rw [hc] at hsharp
    cases hsharp

theorem next_plain_between {f : Form} (hf : f.IsBare) (hplain : f.style false = .plain)
    {tail : List Char} {s : Spot} {fresh : Bool} {indent : Nat}
    (htail : StopsAt (fun c => c == '-' || c == '.') tail)
    (hn : n ≤ k) (hread : plainScalar false (n + 1) ((f.text.toList ++ tail).length + 1) [] [] false
      ⟨f.text.toList ++ tail, i, ln, k⟩ = ⟨f.text.toList, s, fresh⟩) :
    (between ts n outer allowed ⟨f.written indent ++ tail, i, ln, k⟩).next =
      .ok (some ((between ts n outer allowed ⟨f.written indent ++ tail, i, ln, k⟩).behind f.token
        s fresh)) := by
  have htext := hf.isPlainText hplain
  have hallows := Form.allowsPlain_of_style hplain
  rw [Form.written_of_plain hplain, Form.token_of_plain hplain,
    next_plain (isSettled_between (stopsAt_isSkipped htext tail) hn) rfl
      (startsPlain_of_allowsPlain hallows htext.ne_nil tail)
      (atSeparator_of_allowsPlain hallows htext.ne_nil htail i ln k),
    plain_between hread]
  rfl

theorem next_quoted_between {f : Form} (hf : f.IsBare) (hplain : f.style false ≠ .plain)
    {tail : List Char} {indent : Nat} (hindent : 0 < indent) (htail : StopsAt (· == '\'') tail)
    (hn : n ≤ k) :
    (between ts n outer allowed ⟨f.written indent ++ tail, i, ln, k⟩).next =
      .ok (some ((between ts n outer allowed ⟨f.written indent ++ tail, i, ln, k⟩).behind f.token
        (Spot.advance (f.written indent).length ⟨f.written indent ++ tail, i, ln, k⟩) false)) := by
  obtain ⟨double, cs, hhead, hread⟩ := quoted_written (s := ⟨f.written indent ++ tail, i, ln, k⟩)
    hf hplain hindent htail rfl
  have hstops : StopsAt isSkipped (f.written indent ++ tail) := by
    rw [show f.written indent ++ tail = _ from hhead]
    cases double <;> exact stopsAt_cons_iff.mpr rfl
  exact (next_quote (isSettled_between hstops hn) hhead).trans
    (congrArg (Except.map some) (node_between hread))

/-- **A scalar at the end of a line.** -/
theorem exists_reaches_scalar {f : Form} (hf : f.IsBare) {indent m : Nat} (hindent : 0 < indent)
    (hcs : IsEntry cs) (hn : n < k) (hm : (m : Int) ≤ n) :
    ∃ i' ln', (between ts n outer allowed
        ⟨f.written indent ++ (nextLine m ++ cs), i, ln, k⟩).Reaches
      (between (f.token :: ts) n outer true ⟨cs, i', ln', m⟩) := by
  let start := between ts n outer allowed ⟨f.written indent ++ (nextLine m ++ cs), i, ln, k⟩
  by_cases hplain : f.style false = .plain
  · have hread : plainScalar false (n + 1) ((f.text.toList ++ (nextLine m ++ cs)).length + 1) [] []
        false ⟨f.text.toList ++ (nextLine m ++ cs), i, ln, k⟩ = _ :=
      plainScalar_line (hf.isPlainText hplain) hcs (Int.lt_add_one_of_le hm) (by omega)
        (by rw [List.length_append]; omega)
    have hnext : start.next = _ :=
      next_plain_between hf hplain (stopsAt_cons_iff.mpr rfl) (Int.le_of_lt hn) hread
    refine ⟨_, _, (reaches_of_next hnext ?_).trans
      (reaches_behind hcs.stops hn (Nat.lt_succ_self ln))⟩
    simp only [start, spot_behind, between, List.length_append, length_nextLine]
    omega
  · -- A quoted scalar may have several lines; all that matters of its end is what is left there.
    have hnext : start.next = _ :=
      next_quoted_between hf hplain hindent (stopsAt_cons_iff.mpr rfl) (Int.le_of_lt hn)
    have hrest := Spot.rest_advance (f.written indent).length
      ⟨f.written indent ++ (nextLine m ++ cs), i, ln, k⟩
    have hline := Spot.line_le_line_advance (f.written indent).length
      ⟨f.written indent ++ (nextLine m ++ cs), i, ln, k⟩
    rw [List.drop_left] at hrest
    generalize Spot.advance (f.written indent).length
      ⟨f.written indent ++ (nextLine m ++ cs), i, ln, k⟩ = s at hnext hrest hline
    obtain ⟨rest, i', ln', k'⟩ := s
    obtain rfl : rest = nextLine m ++ cs := hrest
    have hpos := hf.length_written_pos indent
    refine ⟨_, _, (reaches_of_next hnext ?_).trans (reaches_behind_nextLine hcs.stops hn hline)⟩
    simp only [start, spot_behind, between, List.length_append]
    omega

/-! ### Keys -/

/-- The token that opens a collection at a column, unless one is open there. -/
def opening (n : Int) (k : Nat) (t : Token) : List Token := if n < k then [t] else []

/-- The indentations around a collection at a column. -/
def around (n : Int) (k : Nat) (outer : List Int) : List Int := if n < k then n :: outer else outer

theorem openAt_between (hn : n ≤ k) (t : Token) (s : Spot) :
    (between ts n outer allowed s).openAt k ts.length t =
      between (opening n k t ++ ts) k (around n k outer) allowed s := by
  rw [openAt, opening, around]
  by_cases hlt : n < k
  · simp [between, emitAt, hlt]
  · obtain rfl : n = k := by omega
    simp [between]

theorem atSeparator_hyphen {w : Char} (hw : isWhite w = true) (cs : List Char) (i ln k : Nat) :
    (⟨'-' :: w :: cs, i, ln, k⟩ : Spot).atSeparator = false := by
  rw [Spot.atSeparator]
  split
  · rename_i heq
    rw [(List.cons.inj (List.cons.inj heq).2).1] at hw
    cases hw
  · rename_i heq
    cases (List.cons.inj heq).1
  · rfl

/-- **The hyphen of an item.** -/
theorem reaches_hyphen {w : Char} (hw : isWhite w = true) (hn : n ≤ k) :
    (between ts n outer true ⟨'-' :: w :: cs, i, ln, k⟩).Reaches
      (between (.blockEntry :: (opening n k .blockSequenceStart ++ ts)) k (around n k outer) true
        ⟨w :: cs, i + 1, ln, k + 1⟩) := by
  have hopen : (between ts n outer true ⟨'-' :: w :: cs, i, ln, k⟩).openAt k ts.length
      .blockSequenceStart = _ := openAt_between hn _ _
  have hentry : (between ts n outer true ⟨'-' :: w :: cs, i, ln, k⟩).blockEntry =
      .ok (between (.blockEntry :: (opening n k .blockSequenceStart ++ ts)) k (around n k outer) true
        ⟨w :: cs, i + 1, ln, k + 1⟩) := by
    change (do
      let l ← ((between ts n outer true ⟨'-' :: w :: cs, i, ln, k⟩).openAt k ts.length
        .blockSequenceStart).dropCandidate
      return { l.take 1 .blockEntry with keyAllowed := true }) = _
    rw [hopen]
    rfl
  refine reaches_of_next ?_ (Nat.lt_succ_self _)
  rw [next_hyphen (isSettled_between (stopsAt_cons_iff.mpr rfl) hn) rfl (by exact hw)
    (atSeparator_hyphen hw cs i ln k), hentry]
  rfl

/-- **The question mark** in front of a key on lines of its own. -/
theorem reaches_question (hn : n ≤ k) :
    (between ts n outer true ⟨'?' :: ' ' :: cs, i, ln, k⟩).Reaches
      (between (.key :: (opening n k .blockMappingStart ++ ts)) k (around n k outer) true
        ⟨' ' :: cs, i + 1, ln, k + 1⟩) := by
  have hopen : (between ts n outer true ⟨'?' :: ' ' :: cs, i, ln, k⟩).openAt k ts.length
      .blockMappingStart = _ := openAt_between hn _ _
  have hkey : (between ts n outer true ⟨'?' :: ' ' :: cs, i, ln, k⟩).explicitKey =
      .ok (between (.key :: (opening n k .blockMappingStart ++ ts)) k (around n k outer) true
        ⟨' ' :: cs, i + 1, ln, k + 1⟩) := by
    change (do
      let l ← ((between ts n outer true ⟨'?' :: ' ' :: cs, i, ln, k⟩).openAt k ts.length
        .blockMappingStart).dropCandidate
      return { l.take 1 .key with keyAllowed := l.flow == 0 }) = _
    rw [hopen]
    rfl
  refine reaches_of_next ?_ (Nat.lt_succ_self _)
  rw [next_question (isSettled_between (stopsAt_cons_iff.mpr rfl) hn) rfl rfl, hkey]
  rfl

/-- **The colon** behind a key on lines of its own. -/
theorem reaches_colon {w : Char} (hw : isWhite w = true) :
    (between ts k outer true ⟨':' :: w :: cs, i, ln, k⟩).Reaches
      (between (.value :: ts) k outer true ⟨w :: cs, i + 1, ln, k + 1⟩) := by
  have hvalue : (between ts k outer true ⟨':' :: w :: cs, i, ln, k⟩).mappingValue =
      .ok (between (.value :: ts) k outer true ⟨w :: cs, i + 1, ln, k + 1⟩) := by
    have hopen : (between ts k outer true ⟨':' :: w :: cs, i, ln, k⟩).openAt k ts.length
      .blockMappingStart = between ts k outer true ⟨':' :: w :: cs, i, ln, k⟩ := by
      rw [openAt_between (Int.le_refl _)]
      simp [opening, around]
    change (do
      let l := (between ts k outer true ⟨':' :: w :: cs, i, ln, k⟩).openAt k ts.length
        .blockMappingStart
      return { l.take 1 .value with keyAllowed := l.flow == 0 }) = _
    rw [hopen]
    rfl
  refine reaches_of_next ?_ (Nat.lt_succ_self _)
  rw [next_colon (isSettled_between (stopsAt_cons_iff.mpr rfl) (Int.le_refl _)) rfl (by exact hw), hvalue]
  rfl

/-- The colon behind a key on the same line. -/
theorem mappingValue_behind {t : Token} {w : Char} {rest : List Char} {i' k' : Nat} (hn : n ≤ k) :
    ((between ts n outer true ⟨rest, i, ln, k⟩).behind t ⟨':' :: w :: cs, i', ln, k'⟩
        false).mappingValue =
      .ok (between (.value :: t :: .key :: (opening n k .blockMappingStart ++ ts)) k
        (around n k outer) false ⟨w :: cs, i' + 1, ln, k' + 1⟩) := by
  have hplace : ts.length + 1 - ts.length = 1 := by omega
  have hplace' : ts.length + 1 + 1 - ts.length = 2 := by omega
  rw [mappingValue]
  by_cases hlt : n < k
  · simp [behind, noted, between, emit, emitAt, openAt, take, opening, around, hlt, hplace, hplace']
    rfl
  · obtain rfl : n = k := by omega
    simp [behind, noted, between, emit, emitAt, openAt, take, opening, around, hplace]
    rfl

/-- Reading goes on as from another state if all is well, and fails otherwise. -/
def Leads (well : Bool) (l l' : Lexer) : Prop :=
  (well = true → l.Reaches l') ∧ (well = false → l.Yields (.error .malformed))

theorem Reaches.leads (h : l.Reaches l') : l.Leads true l' :=
  ⟨fun _ => h, fun h => by cases h⟩

theorem Leads.trans {a b c : Lexer} {x y : Bool} (h : a.Leads x b) (h' : b.Leads y c) :
    a.Leads (x && y) c := by
  cases x with
  | false => exact ⟨fun hy => (by cases hy), fun _ => h.2 rfl⟩
  | true => exact ⟨fun hy => (h.1 rfl).trans (h'.1 hy), fun hy => h.1 rfl _ (h'.2 hy)⟩

/-- The step over a key on the line of its value. -/
theorem next_key {f : Form} (hf : f.IsBare) (hsimple : f.isSimpleKey = true) {indent : Nat}
    (hindent : 0 < indent) {w : Char} (hw : isWhite w = true) (hn : n ≤ k) :
    (between ts n outer allowed ⟨f.written indent ++ ':' :: w :: cs, i, ln, k⟩).next =
      .ok (some ((between ts n outer allowed ⟨f.written indent ++ ':' :: w :: cs, i, ln, k⟩).behind
        f.token ⟨':' :: w :: cs, i + (f.written indent).length, ln, k + (f.written indent).length⟩
        false)) := by
  by_cases hplain : f.style false = .plain
  · have hread : plainScalar false (n + 1) ((f.text.toList ++ ':' :: w :: cs).length + 1) [] [] false
        ⟨f.text.toList ++ ':' :: w :: cs, i, ln, k⟩ = _ :=
      plainScalar_key (hf.isPlainText hplain) hw (by omega) (by rw [List.length_append]; omega)
    rw [next_plain_between hf hplain (stopsAt_cons_iff.mpr rfl) hn hread,
      Form.written_of_plain hplain]
  · rw [next_quoted_between hf hplain hindent (stopsAt_cons_iff.mpr rfl) hn,
      Spot.advance_inline (hf.isInline_written hsimple indent)]

/-- The state at the colon behind a key: a key that is too long is no longer a candidate, and if there
has to be one, that is an error. -/
theorem settle_behind_key {t : Token} {rest : List Char} {w : Char} (len : Nat) :
    ((between ts n outer true ⟨rest, i, ln, k⟩).behind t ⟨':' :: w :: cs, i + len, ln, k + len⟩
        false).settle =
      if len ≤ 1024 then
        .ok ((between ts n outer true ⟨rest, i, ln, k⟩).behind t
          ⟨':' :: w :: cs, i + len, ln, k + len⟩ false)
      else if n = k then .error .malformed
      else .ok (between (t :: ts) n outer false ⟨':' :: w :: cs, i + len, ln, k + len⟩) := by
  have hskip := skip_replicate (l := (between ts n outer true ⟨rest, i, ln, k⟩).behind t
    ⟨':' :: w :: cs, i + len, ln, k + len⟩ false) (m := 0) (':' :: w :: cs).length
    (stopsAt_cons_iff.mpr rfl) rfl
  rw [settle]
  refine (congrArg dropStale hskip).trans ?_
  by_cases hfits : len ≤ 1024
  · simp [dropStale, behind, noted, between, emit, hfits, Nat.not_lt.mpr hfits]
  · by_cases hrequired : n = k
    · simp [dropStale, behind, noted, between, emit, hfits, hrequired]
    · simp [dropStale, behind, noted, between, emit, hfits, hrequired]

/-- **A key on the line of its value**, which may not be longer than 1024 characters. -/
theorem leads_key {f : Form} (hf : f.IsBare) (hsimple : f.isSimpleKey = true) {indent : Nat}
    (hindent : 0 < indent) {w : Char} (hw : isWhite w = true) (hn : n ≤ k) :
    (between ts n outer true ⟨f.written indent ++ ':' :: w :: cs, i, ln, k⟩).Leads
      (decide ((f.written indent).length ≤ 1024))
      (between (.value :: f.token :: .key :: (opening n k .blockMappingStart ++ ts)) k
        (around n k outer) false ⟨w :: cs, i + (f.written indent).length + 1, ln,
          k + (f.written indent).length + 1⟩) := by
  let text := f.written indent ++ ':' :: w :: cs
  have hnext : (between ts n outer true ⟨text, i, ln, k⟩).next = _ :=
    next_key hf hsimple hindent hw hn
  have hpos := hf.length_written_pos indent
  have hreaches := reaches_of_next hnext (by simp [spot_behind, between, text]; omega)
  have hsettle : ((between ts n outer true ⟨text, i, ln, k⟩).behind f.token ⟨':' :: w :: cs,
      i + (f.written indent).length, ln, k + (f.written indent).length⟩ false).settle = _ :=
    settle_behind_key (f.written indent).length
  refine ⟨fun hfits => hreaches.trans ?_, fun hlong => hreaches _ ?_⟩
  · rw [decide_eq_true_eq] at hfits
    rw [if_pos hfits] at hsettle
    refine reaches_of_next ?_ (Nat.lt_succ_self _)
    rw [next_colon ⟨hsettle, unwindTo_of_le ?_⟩ rfl (by exact hw), mappingValue_behind hn]
    · rfl
    · change n ≤ ((k + (f.written indent).length : Nat) : Int)
      omega
  · rw [decide_eq_false_iff_not] at hlong
    rw [if_neg hlong] at hsettle
    refine yields_of_next ?_
    -- In an open map the loss of the key is an error itself, otherwise the colon behind it is.
    by_cases hrequired : n = k
    · rw [if_pos hrequired, settle] at hsettle
      rw [next, hsettle]
      rfl
    · rw [if_neg hrequired] at hsettle
      have hstops : StopsAt isSkipped (':' :: w :: cs) := stopsAt_cons_iff.mpr rfl
      rw [next_eq_of_settle (hsettle.trans (settle_between hstops).symm),
        next_colon (isSettled_between hstops (by push_cast; omega)) rfl (by exact hw)]
      rfl

/-! ### Empty collections -/

/-- The state between the brackets of an empty flow collection. -/
def inside (l : Lexer) (t : Token) : Lexer :=
  { l.noted.take 1 t with flow := 1, keyAllowed := true }

theorem spot_inside {a b : Char} {opens closes : Token} (hpair : IsBracketPair a b opens closes) :
    ((between ts n outer allowed ⟨a :: cs, i, ln, k⟩).inside opens).spot =
      ⟨cs, i + 1, ln, k + 1⟩ := by
  have hinline : isInline a = true := by rcases hpair with ⟨rfl, -⟩ | ⟨rfl, -⟩ <;> decide
  cases allowed <;> exact Spot.step_inline hinline cs i ln k

theorem isSettled_inside {a b : Char} {opens closes : Token} (hpair : IsBracketPair a b opens closes) :
    ((between ts n outer allowed ⟨a :: b :: cs, i, ln, k⟩).inside opens).IsSettled := by
  have hspot : ((between ts n outer allowed ⟨a :: b :: cs, i, ln, k⟩).inside opens).spot = _ :=
    spot_inside hpair
  have hstops : StopsAt isSkipped (b :: cs) := by
    rcases hpair with ⟨-, rfl, -⟩ | ⟨-, rfl, -⟩ <;> exact stopsAt_cons_iff.mpr rfl
  have hskip := skip_replicate (b :: cs).length (m := 0) hstops hspot
  constructor
  · rw [settle, show ((between ts n outer allowed ⟨a :: b :: cs, i, ln, k⟩).inside
      opens).spot.rest.length = (b :: cs).length by rw [hspot], hskip]
    rw [Nat.add_zero, Nat.add_zero, ← hspot]
    refine dropStale_of_fresh fun c hc => ?_
    obtain ⟨hsame, hindex, -⟩ := mem_candidates_noted c hc
    rw [hspot, hsame, hindex]
    exact ⟨rfl, by simp⟩
  · cases allowed <;> rfl

/-- **A pair of brackets** with nothing inside, at the end of a line. -/
theorem reaches_brackets {m : Nat} {a b : Char} {opens closes : Token}
    (hpair : IsBracketPair a b opens closes) (hcs : IsEntry cs) (hn : n < k) :
    (between ts n outer allowed ⟨a :: b :: (nextLine m ++ cs), i, ln, k⟩).Reaches
      (between (closes :: opens :: ts) n outer true ⟨cs, i + 2 + 1 + m, ln + 1, m⟩) := by
  let l := between ts n outer allowed ⟨a :: b :: (nextLine m ++ cs), i, ln, k⟩
  have hspot : (l.inside opens).spot = ⟨b :: (nextLine m ++ cs), i + 1, ln, k + 1⟩ :=
    spot_inside hpair
  have hstops : StopsAt isSkipped (a :: b :: (nextLine m ++ cs)) := by
    rcases hpair with ⟨rfl, -⟩ | ⟨rfl, -⟩ <;> exact stopsAt_cons_iff.mpr rfl
  have hinline : isInline b = true := by rcases hpair with ⟨-, rfl, -⟩ | ⟨-, rfl, -⟩ <;> decide
  have hopen : l.openFlow opens = .ok (l.inside opens) := by
    rw [openFlow, addCandidate_between]
    cases allowed <;> rfl
  let l' := { (l.inside opens).take 1 closes with flow := 0, keyAllowed := false }
  have hspot' : l'.spot = ⟨nextLine m ++ cs, i + 2, ln, k + 2⟩ := by
    change (l.inside opens).spot.step = _
    rw [hspot]
    exact Spot.step_inline hinline _ _ _ _
  have hclose : (l.inside opens).closeFlow closes = .ok l' := by
    cases allowed <;> rfl
  have hold : ∀ c ∈ l'.candidates, c.2.line ≤ ln ∧ c.2.required = false := by
    intro c hc
    obtain ⟨hsame, -, hrequired⟩ := mem_candidates_noted c hc
    exact ⟨Nat.le_of_eq hsame, hrequired.trans (beq_eq_false_iff_ne.mpr (Int.ne_of_lt hn))⟩
  -- One step for each of the brackets, and one to the next line.
  have hfirst : l.Reaches (l.inside opens) := by
    refine reaches_of_next ?_ ?_
    · rw [next_openFlow hpair (isSettled_between hstops (Int.le_of_lt hn)) rfl, hopen]
      rfl
    · rw [hspot]
      exact Nat.lt_succ_self _
  have hsecond : (l.inside opens).Reaches l' := by
    refine reaches_of_next ?_ ?_
    · rw [next_closeFlow hpair (isSettled_inside hpair) (by rw [hspot]), hclose]
      rfl
    · rw [hspot, hspot']
      exact Nat.lt_succ_self _
  have hthird : l'.Reaches (between (closes :: opens :: ts) n outer true
      ⟨cs, i + 2 + 1 + m, ln + 1, m⟩) := by
    cases allowed with
    | false => exact reaches_line hcs.stops hspot' rfl rfl hold
    | true => exact reaches_line hcs.stops hspot' rfl rfl hold
  exact (hfirst.trans hsecond).trans hthird

/-! ### The end of the text -/

/-- **The end of the text** closes the outermost collection. -/
theorem yields_end :
    (between ts 0 [-1] true ⟨[], i, ln, k⟩).Yields (.ok (.blockEnd :: ts).reverse) := by
  intro fuel hfuel
  obtain ⟨fuel, rfl⟩ := Nat.exists_eq_add_one_of_ne_zero (Nat.ne_of_gt hfuel)
  rfl

end RouteAtlas.Yaml.Lexer
