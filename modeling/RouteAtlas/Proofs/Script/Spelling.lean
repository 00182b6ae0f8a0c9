import Mathlib.Data.List.TakeWhile
import Mathlib.Tactic.SplitIfs
import RouteAtlas.Script.Types

/-!
# What stands between two places of a source text

`IsTrivia` says what blanks and comments are. A reader of a token moves over characters that are
known and over the trivia behind them: `Cursor.Spells` says this of the places before and behind
the token. A word is followed by a character that cannot be part of it (`word_spells`).
-/

namespace RouteAtlas.Script

/-! ### Blanks and comments -/

/-- A text of blanks and comments only. A block comment ends where it is first closed, a line
comment at the end of its line. -/
inductive IsTrivia : List Char → Prop
  | nil : IsTrivia []
  | space {x : Char} {cs : List Char} (hx : isSpace x = true) (hcs : IsTrivia cs) :
    IsTrivia (x :: cs)
  | lineComment {body cs : List Char} (hbody : ∀ x ∈ body, isLineEnd x = false)
    (hend : ∀ x ∈ cs.head?, isLineEnd x = true) (hcs : IsTrivia cs) :
    IsTrivia ('/' :: '/' :: (body ++ cs))
  | blockComment {body cs : List Char} (hbody : ¬['*', '/'] <:+: body ++ ['*'])
    (hcs : IsTrivia cs) : IsTrivia ('/' :: '*' :: (body ++ '*' :: '/' :: cs))

theorem blockCommentLength?_eq_some {cs : List Char} {n k : Nat}
    (h : blockCommentLength? cs n = some k) :
    ∃ body rest, cs = body ++ '*' :: '/' :: rest ∧ ¬['*', '/'] <:+: body ++ ['*'] ∧
      k = body.length + n + 2 := by
  fun_induction blockCommentLength? cs n with
  | case1 => cases h
  | case2 rest n =>
    refine ⟨[], rest, rfl, fun hinfix => ?_, by rw [← Option.some.inj h, List.length_nil]; omega⟩
    exact absurd hinfix.length_le (by decide)
  | case3 x cs n hopen ih =>
    obtain ⟨body, rest, rfl, hbody, rfl⟩ := ih h
    refine ⟨x :: body, rest, rfl, fun hinfix => ?_, by rw [List.length_cons]; omega⟩
    rcases List.infix_cons_iff.mp hinfix with hprefix | hinfix
    · -- The comment would be closed by the first two characters.
      obtain ⟨hx, hprefix⟩ := List.cons_prefix_cons.mp hprefix
      cases body with
      | nil => exact absurd (List.cons_prefix_cons.mp hprefix).1 (by decide)
      | cons y body =>
        obtain ⟨hy, -⟩ := List.cons_prefix_cons.mp hprefix
        exact hopen _ hx.symm (by rw [← hy]; rfl)
    · exact hbody hinfix

namespace Cursor

theorem rest_step (c : Cursor) : c.step.rest = c.rest.drop 1 := by
  rw [step]
  split
  · rename_i hrest
    rw [hrest]
    rfl
  · rename_i hrest
    rw [hrest]
    rfl

theorem rest_advance (n : Nat) (c : Cursor) : (c.advance n).rest = c.rest.drop n := by
  induction n generalizing c with
  | zero => rfl
  | succ n ih => rw [advance, ih, rest_step, List.drop_drop, Nat.add_comm]

/-- A line comment is passed up to the end of its line. -/
theorem rest_advance_lineComment {c : Cursor} {cs : List Char} (hrest : c.rest = '/' :: '/' :: cs) :
    (c.advance (c.rest.takeWhile fun x => !isLineEnd x).length).rest =
      cs.dropWhile fun x => !isLineEnd x := by
  have hline : cs = cs.takeWhile (fun x => !isLineEnd x) ++ cs.dropWhile fun x => !isLineEnd x :=
    List.takeWhile_append_dropWhile.symm
  rw [rest_advance, hrest]
  exact (congrArg (List.drop (cs.takeWhile fun x => !isLineEnd x).length) hline).trans
    List.drop_left

/-- A block comment is passed with the two characters that close it. -/
theorem rest_advance_blockComment {c : Cursor} {body rest : List Char}
    (hrest : c.rest = '/' :: '*' :: (body ++ '*' :: '/' :: rest)) :
    (c.advance (body.length + 2 + 2)).rest = rest := by
  rw [rest_advance, hrest]
  show List.drop (body.length + 2) (body ++ '*' :: '/' :: rest) = rest
  rw [List.drop_length_add_append]
  rfl

/-- What is skipped between two tokens are blanks and comments. -/
theorem exists_isTrivia_skipTrivia (fuel : Nat) (c : Cursor) :
    ∃ gap, IsTrivia gap ∧ c.rest = gap ++ (c.skipTrivia fuel).rest := by
  fun_induction skipTrivia fuel c with
  | case1 c => exact ⟨[], .nil, rfl⟩
  | case2 fuel c hrest => exact ⟨[], .nil, rfl⟩
  | case3 fuel c cs hrest ih =>
    obtain ⟨gap, hgap, hafter⟩ := ih
    rw [rest_advance_lineComment hrest] at hafter
    refine ⟨'/' :: '/' :: (cs.takeWhile (fun x => !isLineEnd x) ++ gap),
      .lineComment (fun x hx => ?_) (fun x hx => ?_) hgap, ?_⟩
    · simpa using List.mem_takeWhile_imp hx
    · -- What is skipped next begins at the end of the line.
      have hstop := List.head?_dropWhile_not (fun x => !isLineEnd x) cs
      rw [hafter, List.head?_append, Option.mem_def.mp hx] at hstop
      simpa using hstop
    · rw [List.cons_append, List.cons_append, List.append_assoc, ← hafter,
        List.takeWhile_append_dropWhile, hrest]
  | case4 fuel c cs hrest n hlength ih =>
    obtain ⟨gap, hgap, hafter⟩ := ih
    obtain ⟨body, rest, rfl, hbody, rfl⟩ := blockCommentLength?_eq_some hlength
    refine ⟨'/' :: '*' :: (body ++ '*' :: '/' :: gap), .blockComment hbody hgap, ?_⟩
    rw [rest_advance_blockComment hrest] at hafter
    rw [hrest, hafter]
    simp
  | case5 fuel c cs hrest hlength => exact ⟨[], .nil, rfl⟩
  | case6 fuel c x cs _ _ hrest hx ih =>
    obtain ⟨gap, hgap, hafter⟩ := ih
    refine ⟨x :: gap, .space hx hgap, ?_⟩
    have hstep : c.step.rest = cs := (rest_step c).trans (by rw [hrest]; rfl)
    rw [hrest, ← hstep]
    exact congrArg _ hafter
  | case7 fuel c x cs hrest _ _ hx => exact ⟨[], .nil, rfl⟩

/-- Behind the characters of a token, too. -/
theorem exists_isTrivia_pass (n : Nat) (c : Cursor) :
    ∃ gap, IsTrivia gap ∧ c.rest.drop n = gap ++ (c.pass n).rest := by
  obtain ⟨gap, hgap, hrest⟩ := exists_isTrivia_skipTrivia (c.advance n).remaining
    { c.advance n with freshLine := false }
  exact ⟨gap, hgap, (rest_advance n c).symm.trans hrest⟩

/-- From one place to a later one stands a given text, and then blanks and comments. -/
def Spells (c : Cursor) (text : List Char) (c' : Cursor) : Prop :=
  ∃ gap, IsTrivia gap ∧ c.rest = text ++ (gap ++ c'.rest)

theorem spells_pass {c : Cursor} {text : List Char} (h : text <+: c.rest) :
    c.Spells text (c.pass text.length) := by
  obtain ⟨rest, hrest⟩ := h
  obtain ⟨gap, hgap, hpass⟩ := exists_isTrivia_pass text.length c
  refine ⟨gap, hgap, ?_⟩
  rw [← hpass, ← hrest, List.drop_left]

theorem Spells.rest_isSuffix {c c' : Cursor} {text : List Char} (h : c.Spells text c') :
    c'.rest <:+ c.rest := by
  obtain ⟨gap, -, hrest⟩ := h
  exact ⟨text ++ gap, by rw [hrest, List.append_assoc]⟩

end Cursor

/-! ### Words -/

/-- A word goes on as long as characters of a word or escapes follow. -/
theorem isWordPart_of_mem_head?_drop_wordRestLength {fuel : Nat} {cs : List Char}
    (hfuel : cs.length ≤ fuel) :
    ∀ x ∈ (cs.drop (wordRestLength fuel cs)).head?, isWordPart x = false := by
  fun_induction wordRestLength fuel cs with
  | case1 cs =>
    rw [List.eq_nil_of_length_eq_zero (Nat.le_zero.mp hfuel)]
    exact fun x hx => by cases hx
  | case2 fuel => exact fun x hx => by cases hx
  | case3 fuel x cs hx ih =>
    rw [List.drop_succ_cons]
    exact ih (Nat.le_of_succ_le_succ hfuel)
  | case4 fuel x cs hx n hn =>
    intro y hy
    rw [← Option.some.inj hy]
    exact Bool.eq_false_iff.mpr hx
  | case5 fuel x cs hx n hn ih =>
    rw [← List.drop_drop]
    refine ih ?_
    have hpos : n ≠ 0 := by simpa using hn
    rw [List.length_drop]
    omega

/-- The word at the beginning of a text is a beginning of the text, and no character of a word
follows it. -/
theorem exists_wordAhead_append (cs : List Char) :
    ∃ rest, cs = (wordAhead cs).toList ++ rest ∧
      (startsWord cs = true → ∀ x ∈ rest.head?, isWordPart x = false) := by
  cases cs with
  | nil => exact ⟨[], rfl, fun h => by cases h⟩
  | cons c cs =>
    rw [wordAhead]
    split
    · rename_i hdigit
      exact ⟨c :: cs, rfl, fun h => by simp [startsWord, hdigit] at h⟩
    · rename_i hdigit
      -- A word with escapes ends where its length says, one without behind its last character.
      have hescaped : ∃ rest, c :: cs =
          (String.ofList ((c :: cs).take (wordLength (c :: cs)))).toList ++ rest ∧
          (startsWord (c :: cs) = true → ∀ x ∈ rest.head?, isWordPart x = false) := by
        refine ⟨(c :: cs).drop (wordLength (c :: cs)), ?_, fun _ => ?_⟩
        · rw [String.toList_ofList, List.take_append_drop]
        · rw [wordLength, if_neg hdigit]
          exact isWordPart_of_mem_head?_drop_wordRestLength (Nat.le_refl _)
      split
      · exact hescaped
      · dsimp only
        split
        · exact hescaped
        · refine ⟨(c :: cs).dropWhile isWordPart, ?_, fun _ x hx => ?_⟩
          · rw [String.toList_ofList, List.takeWhile_append_dropWhile]
          · have hstop := List.head?_dropWhile_not isWordPart (c :: cs)
            rw [Option.mem_def.mp hx] at hstop
            simpa using hstop

theorem wordAhead_isPrefix (cs : List Char) : (wordAhead cs).toList <+: cs :=
  have ⟨rest, hrest, _⟩ := exists_wordAhead_append cs
  ⟨rest, hrest.symm⟩

theorem operatorAhead_isPrefix (cs : List Char) : (operatorAhead cs).toList <+: cs := by
  cases cs with
  | nil => exact List.prefix_rfl
  | cons c cs =>
    rw [operatorAhead]
    split
    · split
      · rename_i op hop
        have hprefix : op.isPrefixOf (c :: cs) = true :=
          List.find?_some (p := fun op : List Char => op.isPrefixOf (c :: cs)) hop
        rw [String.toList_ofList]
        exact List.isPrefixOf_iff_prefix.mp hprefix
      · exact ⟨cs, by simp⟩
    · exact List.nil_prefix

/-! ### Outcomes of readers -/

namespace Reader

variable {α β : Type} {c c' : Cursor}

theorem bind_eq_done_iff {p : Reader α} {f : α → Reader β} {b : β} :
    (p >>= f) c = .done b c' ↔ ∃ a c₁, p c = .done a c₁ ∧ f a c₁ = .done b c' := by
  show Reader.bind p f c = _ ↔ _
  rw [Reader.bind]
  cases p c with
  | done a c₁ =>
    refine ⟨fun h => ⟨a, c₁, rfl, h⟩, fun h => ?_⟩
    obtain ⟨_, _, hp, h⟩ := h
    cases hp
    exact h
  | stuck place => simp

theorem pure_eq_done_iff {a b : α} : (pure a : Reader α) c = .done b c' ↔ a = b ∧ c = c' := by
  show Outcome.done a c = _ ↔ _
  simp

theorem ahead_eq_done_iff {cs : List Char} :
    ahead c = .done cs c' ↔ c.rest = cs ∧ c = c' := by
  simp [ahead]

theorem here_eq_done_iff {c₀ : Cursor} : here c = .done c₀ c' ↔ c = c₀ ∧ c = c' := by
  simp [here]

theorem pass_eq_done_iff {n : Nat} {u : Unit} : pass n c = .done u c' ↔ c.pass n = c' := by
  simp [pass]

theorem fail_ne_done {a : α} : (fail : Reader α) c ≠ .done a c' := by
  simp [fail]

theorem guard_eq_done_iff {b : Bool} {u : Unit} :
    guard b c = .done u c' ↔ b = true ∧ c = c' := by
  cases b <;> simp [guard, fail, value]

/-- An attempt that fails leaves the text as it is. -/
theorem attempt_eq_done {p : Reader α} {found : Option α} (h : attempt p c = .done found c') :
    (∃ a, found = some a ∧ p c = .done a c') ∨ found = none ∧ c'.rest = c.rest := by
  rw [attempt, orElse] at h
  split at h
  · rename_i found' c₁ hread
    obtain ⟨a, c₂, hp, hfound⟩ := bind_eq_done_iff.mp hread
    cases hfound
    cases h
    exact .inl ⟨a, rfl, hp⟩
  · cases h
    exact .inr ⟨rfl, rfl⟩

theorem word_spells {w : Word} (h : word c = .done w c') :
    c.Spells w.text.toList c' ∧
      ∃ back, c.rest = w.text.toList ++ back ∧ ∀ x ∈ back.head?, isWordPart x = false := by
  rw [word] at h
  simp only [bind_eq_done_iff, ahead_eq_done_iff] at h
  obtain ⟨cs, c₁, ⟨rfl, rfl⟩, h⟩ := h
  split at h
  · rename_i hstarts
    simp only [bind_eq_done_iff, pass_eq_done_iff, pure_eq_done_iff] at h
    obtain ⟨-, -, rfl, rfl, rfl⟩ := h
    obtain ⟨back, hback, hend⟩ := exists_wordAhead_append c.rest
    refine ⟨?_, back, hback, hend hstarts⟩
    rw [← String.length_toList]
    exact Cursor.spells_pass (wordAhead_isPrefix c.rest)
  · exact absurd h fail_ne_done

theorem keyword_spells {name : String} {u : Unit} (h : keyword name c = .done u c') :
    c.Spells name.toList c' := by
  simp only [keyword, nextWord, bind_eq_done_iff, ahead_eq_done_iff, pure_eq_done_iff] at h
  obtain ⟨_, _, ⟨_, _, ⟨rfl, rfl⟩, rfl, rfl⟩, h⟩ := h
  split at h
  · rename_i hname
    obtain rfl := pass_eq_done_iff.mp h
    rw [← String.length_toList, ← beq_iff_eq.mp hname]
    exact Cursor.spells_pass (wordAhead_isPrefix c.rest)
  · exact absurd h fail_ne_done

/-- A word that may be absent leaves the place as it is if it is. -/
theorem eq_of_optionalKeyword_eq_done {name : String} {found : Bool} (hfound : found = false)
    (h : optionalKeyword name c = .done found c') : c' = c := by
  obtain ⟨w, c₁, hnext, hread⟩ := bind_eq_done_iff.mp h
  obtain ⟨cs, c₂, hahead, hlook⟩ := bind_eq_done_iff.mp hnext
  obtain ⟨rfl, rfl⟩ := ahead_eq_done_iff.mp hahead
  obtain ⟨rfl, rfl⟩ := pure_eq_done_iff.mp hlook
  split at hread
  · obtain ⟨-, -, -, hread⟩ := bind_eq_done_iff.mp hread
    exact absurd ((pure_eq_done_iff.mp hread).1.trans hfound) (by decide)
  · exact (pure_eq_done_iff.mp hread).2.symm

theorem optionalOperator_eq_done {op : String} {found : Bool}
    (h : optionalOperator op c = .done found c') :
    found = true ∧ c.Spells op.toList c' ∨ found = false ∧ c' = c := by
  simp only [optionalOperator, nextOperator, bind_eq_done_iff, ahead_eq_done_iff,
    pure_eq_done_iff] at h
  obtain ⟨_, _, ⟨_, _, ⟨rfl, rfl⟩, rfl, rfl⟩, h⟩ := h
  split at h
  · rename_i hop
    simp only [bind_eq_done_iff, pass_eq_done_iff, pure_eq_done_iff] at h
    obtain ⟨-, -, rfl, rfl, rfl⟩ := h
    refine .inl ⟨rfl, ?_⟩
    rw [← String.length_toList, ← beq_iff_eq.mp hop]
    exact Cursor.spells_pass (operatorAhead_isPrefix c.rest)
  · obtain ⟨rfl, rfl⟩ := pure_eq_done_iff.mp h
    exact .inr ⟨rfl, rfl⟩

theorem eq_of_optionalMark_eq_done {x : Char} {found : Bool} (hfound : found = false)
    (h : optionalMark x c = .done found c') : c' = c := by
  obtain ⟨there, c₁, hat, hread⟩ := bind_eq_done_iff.mp h
  obtain ⟨cs, c₂, hahead, hlook⟩ := bind_eq_done_iff.mp hat
  obtain ⟨rfl, rfl⟩ := ahead_eq_done_iff.mp hahead
  have hc₁ : c₁ = c := by
    cases hrest : c.rest <;> rw [hrest] at hlook <;> exact (pure_eq_done_iff.mp hlook).2.symm
  split at hread
  · obtain ⟨-, -, -, hread⟩ := bind_eq_done_iff.mp hread
    exact absurd ((pure_eq_done_iff.mp hread).1.trans hfound) (by decide)
  · rw [← (pure_eq_done_iff.mp hread).2, hc₁]

end Reader

end RouteAtlas.Script
