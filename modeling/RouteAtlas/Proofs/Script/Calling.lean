import RouteAtlas.Proofs.Script.Reading
import RouteAtlas.Script.Parsing

/-!
# Reading a call

How a statement is read that consists of a method call on a name, with names and quoted texts as
its arguments. Each production has a law in terms of the parts it reads; the laws for names, texts
and calls at the end put them together for the grammar itself. An expression ends where a comma, a
closing parenthesis or a semicolon follows (`EndsExpression`), so no production goes on there.
-/

namespace RouteAtlas.Script

open Reader

/-! ### Where an expression begins and ends -/

/-- On the line of the token before, a statement ends only with the text or before a brace. -/
theorem endsStatement_cursor {x : Char} (hx : x ≠ '\x7d') (cs : List Char) (row : Nat)
    (furthest : Place) :
    endsStatement true ((⟨x :: cs, row⟩ : Position).cursor furthest) = false := by
  have hbrace : (x == '\x7d') = false := beq_eq_false_iff_ne.mpr hx
  simp only [endsStatement, Position.cursor, hbrace]
  rfl

/-- A text that goes on with a mark behind which an expression cannot go on. -/
def EndsExpression (cs : List Char) : Prop :=
  ∃ x rest, cs = x :: rest ∧ (x = ')' ∨ x = ',' ∨ x = ';')

namespace EndsExpression

theorem head?_ne {cs : List Char} (h : EndsExpression cs) {x : Char}
    (hx : ¬(x = ')' ∨ x = ',' ∨ x = ';')) : cs.head? ≠ some x := by
  obtain ⟨y, rest, rfl, hy⟩ := h
  rintro ⟨rfl⟩
  exact hx hy

theorem endsWord {cs : List Char} (h : EndsExpression cs) : EndsWord cs := by
  obtain ⟨x, rest, rfl, hx⟩ := h
  obtain ⟨hpart, hslash⟩ : isWordPart x = false ∧ x ≠ '\\' := by
    rcases hx with rfl | rfl | rfl <;> decide +kernel
  exact endsWord_cons hpart hslash rest

theorem startsToken {cs : List Char} (h : EndsExpression cs) : StartsToken cs := by
  obtain ⟨x, rest, rfl, hx⟩ := h
  obtain ⟨hspace, hslash⟩ : isSpace x = false ∧ x ≠ '/' := by
    rcases hx with rfl | rfl | rfl <;> decide +kernel
  exact startsToken_cons hspace hslash rest

/-- No production goes on where an expression ends. -/
theorem stops {s : Position} (h : EndsExpression s.rest) (furthest : Place) :
    endsStatement true (s.cursor furthest) = false ∧
      operatorAhead (s.cursor furthest).rest = "" ∧
      startsChoice (s.cursor furthest).rest = false ∧
      wordAhead (s.cursor furthest).rest = "" := by
  obtain ⟨cs, row⟩ := s
  obtain ⟨x, rest, rfl, hx⟩ := h
  obtain ⟨hbrace, hoperator, hchoice, hpart, hslash⟩ : x ≠ '\x7d' ∧ x ∉ operatorStarts ∧ x ≠ '?' ∧
      isWordPart x = false ∧ x ≠ '\\' := by
    rcases hx with rfl | rfl | rfl <;> decide +kernel
  refine ⟨endsStatement_cursor hbrace rest row furthest, operatorAhead_eq_empty fun y hy => ?_, ?_,
    wordAhead_cons_eq_empty hpart hslash rest⟩
  · obtain rfl := Option.some.inj hy
    exact hoperator
  · show startsChoice (x :: rest) = false
    rw [startsChoice.eq_def]
    split
    · rename_i heq
      exact absurd (List.cons.inj heq).1 hchoice
    · rfl

end EndsExpression

/-- A text that goes on with an operand, and not with an operator or a word in front of one. -/
structure StartsOperand (cs : List Char) : Prop where
  /-- No operator is in front. -/
  operator : operatorAhead cs = ""
  /-- No word is in front that is an operator, or creates an object. -/
  word : wordAhead cs ∉ "new" :: "yield" :: prefixWords

/-! ### Expressions -/

section

variable {g : Grammar} {mode : Mode} {s s' s'' : Position} {t : Tree} {base found : Operand}

theorem reads_expression (hread : Reads (g (.operand mode)) s t s')
    (hend : EndsExpression s'.rest) : Reads (expression g mode) s t s' := by
  have hrest : Reads (expressionRest g mode (s'.rest.length + 1)) s' [] s' := by
    refine reads_here_bind fun furthest => ?_
    obtain ⟨hstatement, hoperator, hchoice, hword⟩ := hend.stops furthest
    have hbinary : binaryOperators.contains "" = false := by decide +kernel
    rw [hstatement, Bool.and_false, if_neg Bool.false_ne_true]
    dsimp only
    rw [hoperator, hbinary, if_neg Bool.false_ne_true, hchoice, if_neg Bool.false_ne_true, hword]
    exact reads_pure [] s'
  exact hread.bind (reads_here_bind fun _ => hrest.bind (reads_pure t s'))

theorem reads_operand (hs : StartsOperand s.rest) (hread : Reads (suffixed g mode) s found s')
    (hend : EndsExpression s'.rest) : Reads (operand g mode) s found.tree s' := by
  obtain ⟨hyield, hprefix⟩ : wordAhead s.rest ≠ "yield" ∧ wordAhead s.rest ∉ prefixWords := by
    have hword := hs.word
    simp only [List.mem_cons, not_or] at hword
    exact hword.2
  refine (reads_ahead s).bind ?_
  dsimp only
  rw [if_neg (by simpa using hprefix), if_neg (by simpa using hyield), hs.operator,
    if_neg (by decide)]
  refine hread.bind (reads_here_bind fun furthest => ?_)
  obtain ⟨-, hoperator, -, -⟩ := hend.stops furthest
  have hupdating : ("" == "=" || updatingOperators.contains "") = false := by decide +kernel
  split
  · exact reads_pure _ s'
  · rw [hoperator, hupdating]
    exact reads_pure _ s'

theorem reads_suffixed (hs : StartsOperand s.rest) (hbase : Reads (primary g mode) s base s')
    (hsuffixes : Reads (suffixes g mode s.row base (s'.rest.length + 1)) s' found s'') :
    Reads (suffixed g mode) s found s'' := by
  have hnew : wordAhead s.rest ≠ "new" := fun h => hs.word (by rw [h]; exact List.mem_cons_self)
  refine reads_here_bind fun furthest => ?_
  have hword : (wordAhead (s.cursor furthest).rest == "new") = false :=
    beq_eq_false_iff_ne.mpr hnew
  rw [hword]
  exact hbase.bind (reads_here_bind fun _ => hsuffixes)

/-! ### Suffixes -/

theorem reads_suffixes_nil (hend : EndsExpression s.rest) (row n : Nat) :
    Reads (suffixes g mode row found n) s found s := by
  cases n with
  | zero => exact reads_pure found s
  | succ n =>
    refine reads_here_bind fun furthest => ?_
    rw [(hend.stops furthest).1, Bool.and_false, if_neg Bool.false_ne_true]
    obtain ⟨cs, srow⟩ := s
    obtain ⟨x, rest, rfl, hx⟩ := hend
    rcases hx with rfl | rfl | rfl <;> exact reads_pure found _

theorem reads_suffixes_member {w : Word} {after rest : List Char} {row srow n : Nat}
    (hw : w.IsPlain) (hafter : Leads after rest) (hend : EndsWord after)
    (hread : Reads (suffixes g mode row ⟨.member base.tree (some w), true⟩ n) ⟨rest, srow⟩ found
      s'') :
    Reads (suffixes g mode row base (n + 1)) ⟨'.' :: (w.text.toList ++ after), srow⟩ found s'' := by
  have hpoint : Reads (pass 1) ⟨'.' :: (w.text.toList ++ after), srow⟩ ()
      ⟨w.text.toList ++ after, srow⟩ :=
    reads_char (hw.startsToken_append _).leads srow (by decide)
  have hname : Reads (memberName g) ⟨w.text.toList ++ after, srow⟩ ⟨some w, .other []⟩
      ⟨rest, srow⟩ := by
    refine (reads_ahead _).bind ?_
    rw [if_pos (hw.startsWord_append _)]
    exact (reads_word hafter srow hw hend).bind (reads_pure _ _)
  have hstarts := hw.startsWord_append after
  obtain ⟨c, cs, hcs, -, hpart⟩ := hw.exists_cons_append after
  rw [hcs] at hpoint hname hstarts ⊢
  refine reads_here_bind fun furthest => ?_
  rw [endsStatement_cursor (by decide), Bool.and_false, if_neg Bool.false_ne_true]
  dsimp only [Position.cursor]
  split
  · rename_i heq
    obtain rfl := (List.cons.inj (List.cons.inj heq).2).1
    exact absurd hpart (by decide +kernel)
  · refine hpoint.bind ((reads_ahead _).bind ?_)
    dsimp only
    split
    · rename_i heq
      obtain rfl := (List.cons.inj heq).1
      exact absurd hpart (by decide +kernel)
    · rw [hstarts, Bool.true_or, if_pos rfl]
      exact hname.bind hread
  -- What begins with a point begins with no other mark.
  all_goals first
    | rename_i heq
      exact absurd (List.cons.inj heq).1 (by decide)
    | exact absurd rfl (‹∀ tail, '.' :: c :: cs = '.' :: tail → False› _)

theorem reads_suffixes_call {cs : List Char} {ts : List Tree} {row srow n : Nat}
    (harguments : Reads (arguments g) ⟨'(' :: cs, srow⟩ ts s')
    (hread : Reads (suffixes g mode row ⟨.call row base.tree [] ts, false⟩ n) s' found s'') :
    Reads (suffixes g mode row base (n + 1)) ⟨'(' :: cs, srow⟩ found s'' := by
  refine reads_here_bind fun furthest => ?_
  rw [endsStatement_cursor (by decide), Bool.and_false, if_neg Bool.false_ne_true]
  exact harguments.bind hread

/-! ### Operands -/

/-- Words that begin an expression of their own kind. -/
def operandWords : List String :=
  ["function", "async", "class", "this", "super", "null", "true", "false", "import", "undefined"]

theorem reads_primary_name {w : Word} {after rest : List Char} (hw : w.IsPlain)
    (hafter : Leads after rest) (hend : EndsWord after) (hreserved : w.text ∉ operandWords)
    (harrow : rest.head? ≠ some '=') (row : Nat) :
    Reads (primary g mode) ⟨w.text.toList ++ after, row⟩ ⟨.identifier w.text, true⟩
      ⟨rest, row⟩ := by
  simp only [operandWords, List.mem_cons, List.not_mem_nil, or_false, not_or] at hreserved
  have hname : Reads (nameOrArrow g mode) ⟨w.text.toList ++ after, row⟩
      ⟨.identifier w.text, true⟩ ⟨rest, row⟩ := by
    refine (reads_word hafter row hw hend).bind ?_
    refine (reads_optionalOperator_of_ne (operatorAhead_ne rfl harrow)).bind ?_
    rw [if_neg Bool.false_ne_true, if_neg (by simp [hreserved])]
    exact reads_pure _ _
  refine (reads_ahead _).bind ?_
  dsimp only
  rw [if_pos (hw.startsWord_append _), hw.wordAhead_append hend]
  simpa [hreserved] using hname

theorem reads_primary_text {text : String} (hword : startsWord s.rest = false)
    (hstarts : startsQuoted s.rest = true) (hread : Reads quoted s text s') :
    Reads (primary g mode) s ⟨.text text, false⟩ s' := by
  refine (reads_ahead s).bind ?_
  rw [hword, if_neg Bool.false_ne_true, hstarts, if_pos rfl]
  exact hread.bind (reads_pure _ s')

end

/-! ### Arguments -/

section

variable {g : Grammar} {item : Reader Tree} {closing : Char} {s s' : Position} {t : Tree}
  {ts : List Tree} {after rest : List Char} {row n : Nat}

/-- Neither the end of the list nor a missing item. -/
theorem reads_looseItemsUpTo_item (hclosing : s.rest.head? ≠ some closing)
    (hcomma : s.rest.head? ≠ some ',')
    (hread : Reads (do
      let t ← item
      if ← optionalMark closing then return [t]
      else
        mark ','
        let ts ← looseItemsUpTo item closing n
        return t :: ts) s ts s') :
    Reads (looseItemsUpTo item closing (n + 1)) s ts s' := by
  refine (reads_optionalMark_of_ne hclosing).bind ?_
  rw [if_neg Bool.false_ne_true]
  refine (reads_optionalMark_of_ne hcomma).bind ?_
  rw [if_neg Bool.false_ne_true]
  exact hread

theorem reads_looseItemsUpTo_last (hclosing : s.rest.head? ≠ some closing)
    (hcomma : s.rest.head? ≠ some ',') (hline : closing ≠ '\n')
    (hitem : Reads item s t ⟨closing :: after, row⟩) (hafter : Leads after rest) :
    Reads (looseItemsUpTo item closing (n + 1)) s [t] ⟨rest, row⟩ := by
  refine reads_looseItemsUpTo_item hclosing hcomma (hitem.bind ?_)
  refine (reads_optionalMark hafter row hline).bind ?_
  rw [if_pos rfl]
  exact reads_pure [t] _

theorem reads_looseItemsUpTo_cons (hclosing : s.rest.head? ≠ some closing)
    (hcomma : s.rest.head? ≠ some ',') (hne : ',' ≠ closing)
    (hitem : Reads item s t ⟨',' :: after, row⟩) (hafter : Leads after rest)
    (hread : Reads (looseItemsUpTo item closing n) ⟨rest, row⟩ ts s') :
    Reads (looseItemsUpTo item closing (n + 1)) s (t :: ts) s' := by
  refine reads_looseItemsUpTo_item hclosing hcomma (hitem.bind ?_)
  refine (reads_optionalMark_of_ne (by simpa using hne)).bind ?_
  rw [if_neg Bool.false_ne_true]
  exact (reads_mark hafter row (by decide)).bind (hread.bind (reads_pure _ s'))

theorem reads_spreadable (hs : StartsOperand s.rest)
    (hread : Reads (g (.expression .inner)) s t s') : Reads (spreadable g) s t s' := by
  refine (reads_optionalOperator_of_ne (by rw [hs.operator]; decide)).bind ?_
  rw [if_neg Bool.false_ne_true]
  exact hread

theorem reads_arguments {cs : List Char} (hcs : StartsToken cs)
    (hread : Reads (looseItemsUpTo (spreadable g) ')' (cs.length + 1)) ⟨cs, row⟩ ts s') :
    Reads (arguments g) ⟨'(' :: cs, row⟩ ts s' :=
  (reads_mark hcs.leads row (by decide)).bind (reads_here_bind fun _ => hread)

end

/-! ### Statements and whole texts -/

/-- Words that begin a statement of their own kind. -/
def statementWords : List String :=
  ["if", "for", "while", "with", "do", "try", "switch", "break", "continue", "return", "throw",
    "debugger", "export", "import", "declare", "var", "const", "let", "function", "async", "class",
    "abstract", "enum", "interface", "type", "namespace", "module"]

section

variable {g : Grammar} {mode : Mode} {s s' : Position} {t : Tree} {after rest : List Char}
  {row : Nat}

theorem reads_expressions (hread : Reads (g (.expression mode)) s t s')
    (hcomma : s'.rest.head? ≠ some ',') : Reads (expressions g mode) s t s' := by
  have hat := reads_atMark ',' s'
  rw [beq_eq_false_iff_ne.mpr hcomma] at hat
  refine hread.bind (hat.bind ?_)
  rw [if_neg Bool.false_ne_true]
  exact reads_pure t s'

theorem reads_expressionStatement (hread : Reads (g (.expression .outer)) s t ⟨';' :: after, row⟩)
    (hafter : Leads after rest) : Reads (expressionStatement g) s (.other [t]) ⟨rest, row⟩ := by
  have hend : Reads (statementEnd true) ⟨';' :: after, row⟩ () ⟨rest, row⟩ := by
    refine (reads_optionalMark hafter row (by decide)).bind ?_
    rw [if_pos rfl]
    exact reads_pure () _
  exact (reads_expressions hread (by simp)).bind (hend.bind (reads_pure _ _))

/-- What begins with another word, and goes on with no colon, is an expression. -/
theorem reads_statement {w : Word} (hw : w.IsPlain) (hafter : Leads after rest)
    (hend : EndsWord after) (hreserved : w.text ∉ statementWords) (hcolon : rest.head? ≠ some ':')
    (hread : Reads (expressionStatement g) ⟨w.text.toList ++ after, row⟩ t s') :
    Reads (statement g) ⟨w.text.toList ++ after, row⟩ t s' := by
  simp only [statementWords, List.mem_cons, List.not_mem_nil, or_false, not_or] at hreserved
  have hahead := hw.wordAhead_append hend
  have hlabel : Refuses label ⟨w.text.toList ++ after, row⟩ :=
    (reads_word hafter row hw hend).refuses_bind (refuses_mark hcolon)
  have hplain : Reads (plainDeclaration g) ⟨w.text.toList ++ after, row⟩ none
      ⟨w.text.toList ++ after, row⟩ := by
    refine (reads_nextWord _).bind ?_
    rw [hahead]
    simpa [hreserved] using reads_pure none _
  have hdeclaration : Reads (declaration g) ⟨w.text.toList ++ after, row⟩ none
      ⟨w.text.toList ++ after, row⟩ := by
    refine (reads_nextWord _).bind ?_
    rw [hahead, if_pos (by simp [hreserved])]
    exact hplain
  refine (reads_ahead _).bind ?_
  dsimp only
  rw [if_pos (hw.startsWord_append _), hahead]
  unfold wordStatement
  dsimp only
  split
  -- The word is none of those with a statement of their own kind.
  all_goals first
    | exact hlabel.attempt.bind (hdeclaration.bind hread)
    | rename_i hw
      simp [hw] at hreserved

theorem refuses_statement (row : Nat) : Refuses (statement g) ⟨[], row⟩ :=
  (reads_ahead _).refuses_bind (refuses_fail _)

/-- A text of one statement. -/
theorem reads_program (hs : StartsToken s.rest) (hhash : s.rest.head? ≠ some '#')
    (hne : s.rest ≠ []) (hread : Reads (g .statement) s t ⟨[], row⟩)
    (hend : Refuses (g .statement) ⟨[], row⟩) :
    Reads (program g) s (.other [t]) ⟨[], row⟩ := by
  have hline : Reads skipInterpreterLine s () s := by
    refine (reads_ahead s).bind ?_
    split
    · rename_i hrest
      exact absurd (by rw [hrest]; rfl) hhash
    · exact reads_pure () s
  refine (reads_skipTrivia hs).bind (hline.bind ((hread.many hend hne).bind ?_))
  exact (reads_ahead _).bind ((reads_guard rfl _).bind (reads_pure _ _))

end

theorem parse_eq_ok {source : String} {t : Tree} {s : Position}
    (h : Reads (program (grammarOf (4 * source.toList.length + 16))) ⟨source.toList, 0⟩ t s) :
    parse source = .ok t := by
  obtain ⟨furthest, hread⟩ := h ⟨source.toList.length + 1, 0⟩
  rw [Position.cursor] at hread
  rw [parse, hread]

/-! ### Names, texts and calls of methods -/

/-- A word without escapes that means nothing to the grammar. -/
structure Word.IsName (w : Word) : Prop extends w.IsPlain where
  /-- It begins no statement and no expression of its own kind. -/
  free : w.text ∉ statementWords ++ operandWords ++ "new" :: "yield" :: prefixWords

/-- A text that can be a name is one as a word. -/
theorem Word.exists_isName (text : String) (hne : text ≠ "")
    (hhead : text.toList.head?.all (fun x => !x.isDigit) = true)
    (hpart : text.toList.all isWordPart = true)
    (hfree : text ∉ statementWords ++ operandWords ++ "new" :: "yield" :: prefixWords) :
    ∃ w : Word, w.text = text ∧ w.IsName := by
  rw [List.all_eq_true] at hpart
  have hword : ∀ c ∈ text.toList, isWordChar c = true := fun c hc => by
    rw [isWordChar, hpart c hc]
    rfl
  refine ⟨⟨text, hne, hword⟩, rfl, ⟨⟨fun x hx => ?_, hpart⟩, hfree⟩⟩
  rw [Option.mem_def.mp hx] at hhead
  simpa using hhead

namespace Word.IsName

variable {w : Word} (hw : w.IsName)

include hw

theorem not_mem_statementWords : w.text ∉ statementWords :=
  fun h => hw.free (List.mem_append_left _ (List.mem_append_left _ h))

theorem not_mem_operandWords : w.text ∉ operandWords :=
  fun h => hw.free (List.mem_append_left _ (List.mem_append_right _ h))

theorem startsOperand {after : List Char} (hend : EndsWord after) :
    StartsOperand (w.text.toList ++ after) where
  operator := by
    have hall : operatorStarts.all (fun x => !isWordPart x) = true := by decide +kernel
    refine operatorAhead_eq_empty fun x hx hmem => ?_
    have hpart : isWordPart x = false := by simpa using List.all_eq_true.mp hall x hmem
    exact hw.head?_append_ne hpart after (Option.mem_def.mp hx)
  word := by
    rw [hw.wordAhead_append hend]
    exact fun h => hw.free (List.mem_append_right _ h)

end Word.IsName

section

variable {mode : Mode} {after rest : List Char} (n row : Nat)

/-- An expression that is one operand without prefixes. -/
theorem reads_expression_of_primary {s s' s'' : Position} {base found : Operand}
    (hs : StartsOperand s.rest) (hprimary : Reads (primary (grammarOf n) mode) s base s')
    (hsuffixes : Reads (suffixes (grammarOf n) mode s.row base (s'.rest.length + 1)) s' found s'')
    (hend : EndsExpression s''.rest) :
    Reads (grammarOf (n + 2) (.expression mode)) s found.tree s'' := by
  have hoperand : Reads (grammarOf (n + 1) (.operand mode)) s found.tree s'' :=
    reads_operand hs (reads_suffixed hs hprimary hsuffixes) hend
  exact reads_expression hoperand hend

theorem reads_name {w : Word} (hw : w.IsName) (hafter : Leads after rest) (hend : EndsWord after)
    (hrest : EndsExpression rest) :
    Reads (grammarOf (n + 2) (.expression mode)) ⟨w.text.toList ++ after, row⟩
      (.identifier w.text) ⟨rest, row⟩ := by
  have hprimary : Reads (primary (grammarOf n) mode) ⟨w.text.toList ++ after, row⟩
      ⟨.identifier w.text, true⟩ ⟨rest, row⟩ :=
    reads_primary_name hw.toIsPlain hafter hend hw.not_mem_operandWords
      (hrest.head?_ne (by decide)) row
  exact reads_expression_of_primary n (hw.startsOperand hend) hprimary
    (reads_suffixes_nil hrest _ _) hrest

theorem startsOperand_quoted {mark : Char} (hmark : mark = '\'' ∨ mark = '"') (cs : List Char) :
    StartsOperand (mark :: cs) := by
  obtain ⟨hpart, hslash, hoperator⟩ : isWordPart mark = false ∧ mark ≠ '\\' ∧
      mark ∉ operatorStarts := by
    rcases hmark with rfl | rfl <;> decide +kernel
  refine ⟨operatorAhead_eq_empty fun x hx => ?_, ?_⟩
  · obtain rfl := Option.some.inj hx
    exact hoperator
  · rw [wordAhead_cons_eq_empty hpart hslash]
    decide

theorem reads_text {mark : Char} {body : List Char} (hmark : mark = '\'' ∨ mark = '"')
    (hlength : ∀ after, quotedLength? mark ((body ++ mark :: after).length + 1)
      (body ++ mark :: after) = some body.length)
    (hafter : Leads after rest) (hrest : EndsExpression rest) :
    Reads (grammarOf (n + 2) (.expression mode)) ⟨mark :: (body ++ mark :: after), row⟩
      (.text (String.ofList body)) ⟨rest, row + body.count '\n'⟩ := by
  obtain ⟨hpart, hslash, hquote⟩ : isWordPart mark = false ∧ mark ≠ '\\' ∧
      (mark == '\'' || mark == '"') = true := by
    rcases hmark with rfl | rfl <;> decide +kernel
  have hprimary : Reads (primary (grammarOf n) mode) ⟨mark :: (body ++ mark :: after), row⟩
      ⟨.text (String.ofList body), false⟩ ⟨rest, row + body.count '\n'⟩ :=
    reads_primary_text (startsWord_cons_eq_false hpart hslash _) hquote
      (reads_quoted hafter row hmark hlength)
  exact reads_expression_of_primary n (startsOperand_quoted hmark _) hprimary
    (reads_suffixes_nil hrest _ _) hrest

/-- A call of a method on a name. -/
theorem reads_methodCall {owner method : Word} {cs : List Char} {ts : List Tree} {s' : Position}
    (howner : owner.IsName) (hmethod : method.IsPlain)
    (harguments : Reads (arguments (grammarOf n)) ⟨'(' :: cs, row⟩ ts s')
    (hrest : EndsExpression s'.rest) :
    Reads (grammarOf (n + 2) (.expression mode))
      ⟨owner.text.toList ++ '.' :: (method.text.toList ++ '(' :: cs), row⟩
      (.call row (.member (.identifier owner.text) (some method)) [] ts) s' := by
  have hopen : StartsToken ('(' :: cs) := startsToken_cons (by decide +kernel) (by decide) cs
  have hopenEnds : EndsWord ('(' :: cs) := endsWord_cons (by decide +kernel) (by decide) cs
  have hpoint : StartsToken ('.' :: (method.text.toList ++ '(' :: cs)) :=
    startsToken_cons (by decide +kernel) (by decide) _
  have hpointEnds : EndsWord ('.' :: (method.text.toList ++ '(' :: cs)) :=
    endsWord_cons (by decide +kernel) (by decide) _
  have hprimary : Reads (primary (grammarOf n) mode)
      ⟨owner.text.toList ++ '.' :: (method.text.toList ++ '(' :: cs), row⟩
      ⟨.identifier owner.text, true⟩ ⟨'.' :: (method.text.toList ++ '(' :: cs), row⟩ :=
    reads_primary_name howner.toIsPlain hpoint.leads hpointEnds howner.not_mem_operandWords
      (by simp) row
  have hsuffixes (k : Nat) :
      Reads (suffixes (grammarOf n) mode row ⟨.identifier owner.text, true⟩ (k + 2))
        ⟨'.' :: (method.text.toList ++ '(' :: cs), row⟩
        ⟨.call row (.member (.identifier owner.text) (some method)) [] ts, false⟩ s' :=
    reads_suffixes_member hmethod hopen.leads hopenEnds
      (reads_suffixes_call harguments (reads_suffixes_nil hrest _ _))
  exact reads_expression_of_primary n (howner.startsOperand hpointEnds) hprimary (hsuffixes _)
    hrest

end

end RouteAtlas.Script
