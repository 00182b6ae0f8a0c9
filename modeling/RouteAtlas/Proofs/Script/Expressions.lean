import RouteAtlas.Proofs.Script.Productions

/-!
# Expressions and statements
-/

namespace RouteAtlas.Script

open Reader

set_option synthInstance.maxSize 100000

variable {β : Type} {src : List Char} {g : Grammar} {mode : Mode}

/-! ### Expressions -/

variable [hg : g.Abuts src]

instance : Traces src (parenthesized g) := by unfold parenthesized; infer_instance
instance : Traces src (arrow g mode) := by unfold arrow; infer_instance
instance : Traces src (parenthesis g mode) := by unfold parenthesis; infer_instance
instance : Traces src (angle g mode) := by unfold angle; infer_instance

instance {literal : Reader Tree} [Traces src literal] : Traces src (literalOrTarget g literal) := by
  unfold literalOrTarget; infer_instance

instance : Traces src (asyncOperand g mode) := by unfold asyncOperand; infer_instance
instance : Traces src (nameOrArrow g mode) := by unfold nameOrArrow; infer_instance
instance : Traces src importOperand := by unfold importOperand; infer_instance
instance : Traces src (decoratedClass g) := by unfold decoratedClass; infer_instance

instance : Traces src (primary g mode) := by
  unfold primary
  refine traces_ahead_bind fun cs => ?_
  dsimp only
  split
  · infer_instance
  repeat' split
  all_goals infer_instance

instance {t : Tree} [StandsIn src t] [Nameless t] {n : Nat} :
    Traces src (constructorRest g t n) := by
  induction n generalizing t with
  | zero => unfold constructorRest; infer_instance
  | succ n ih =>
    unfold constructorRest
    refine traces_ahead_bind fun cs => ?_
    split <;> infer_instance

theorem tracesFrom_constructorRest {t : Tree} [StandsIn src t] {c : Cursor}
    (hc : c.rest <:+ src) (ht : c.Follows src t) {n : Nat} :
    (constructorRest g t n).TracesFrom src c := by
  cases n with
  | zero => unfold constructorRest; exact Traces.from inferInstance hc
  | succ n =>
    unfold constructorRest
    refine tracesFrom_ahead_bind ?_
    split
    · exact Traces.from inferInstance hc
    · rename_i cs _ hrest
      refine tracesFrom_pass_bind ['.'] ⟨cs, hrest.symm⟩ fun c₁ hpoint => ?_
      exact tracesFrom_memberName_bind false hc ht hpoint fun _ _ => inferInstance
    all_goals exact Traces.from inferInstance hc

/-! The operands that may be mere names. -/

instance : AvoidsNames (parenthesized g) := by unfold parenthesized; infer_instance
instance : AvoidsNames (arrow g mode) := by unfold arrow; infer_instance
instance : AvoidsNames (parenthesis g mode) := by unfold parenthesis; infer_instance
instance : AvoidsNames importOperand := by unfold importOperand; infer_instance
instance : AvoidsNames (decoratedClass g) := by unfold decoratedClass; infer_instance
instance : AvoidsNames (classRest g) := by dsimp only [classRest]; infer_instance
instance : AvoidsNames (arrayLiteral g) := by unfold arrayLiteral; infer_instance
instance : AvoidsNames (objectLiteral g) := by unfold objectLiteral; infer_instance

instance {n : Nat} : AvoidsNames (creationUpTo g mode n) := by
  cases n <;> dsimp only [creationUpTo] <;> infer_instance

instance : Abuts src (angle g mode) := by
  have : AvoidsNames (g .element) := hg.element
  have : AvoidsNames (angle g mode) := by unfold angle; infer_instance
  infer_instance

instance : Abuts src (nameOrArrow g mode) where
  out hc h := by
    obtain ⟨w, c₁, hword, hread⟩ := bind_eq_done_iff.mp h
    obtain ⟨found, c₂, harrow, hrest⟩ := bind_eq_done_iff.mp hread
    rcases optionalOperator_eq_done harrow with ⟨rfl, -⟩ | ⟨rfl, rfl⟩
    · rw [if_pos rfl] at hrest
      exact AvoidsNames.follows hrest
    · rw [if_neg Bool.false_ne_true] at hrest
      split at hrest
      · exact AvoidsNames.follows hrest
      · obtain ⟨rfl, rfl⟩ := pure_eq_done_iff.mp hrest
        exact ((word_spells hword).1.behind hc).follows rfl

instance : Abuts src (asyncOperand g mode) where
  out hc h := by
    obtain ⟨_, c₁, hasync, h₁⟩ := bind_eq_done_iff.mp h
    have hbehind := (keyword_spells hasync).behind hc
    obtain ⟨isFunction, c₂, hfunction, h₂⟩ := bind_eq_done_iff.mp h₁
    split at h₂
    · exact AvoidsNames.follows h₂
    -- The name is followed by nothing that has been tried.
    rename_i hnot
    obtain rfl := eq_of_optionalKeyword_eq_done (Bool.eq_false_iff.mpr hnot) hfunction
    obtain ⟨single, c₃, hsingle, h₃⟩ := bind_eq_done_iff.mp h₂
    rcases attempt_eq_done hsingle with ⟨w, rfl, -⟩ | ⟨rfl, hrest₃⟩
    · exact AvoidsNames.follows h₃
    obtain ⟨head, c₄, hhead, h₄⟩ := bind_eq_done_iff.mp h₃
    rcases attempt_eq_done hhead with ⟨ts, rfl, -⟩ | ⟨rfl, hrest₄⟩
    · exact AvoidsNames.follows h₄
    obtain ⟨found, c₅, harrow, h₅⟩ := bind_eq_done_iff.mp h₄
    rcases optionalOperator_eq_done harrow with ⟨rfl, -⟩ | ⟨rfl, rfl⟩
    · exact AvoidsNames.follows (if_pos (rfl : true = true) ▸ h₅)
    · obtain ⟨rfl, rfl⟩ := pure_eq_done_iff.mp h₅
      exact (hbehind.congr (hrest₄.trans hrest₃)).follows rfl

instance {literal : Reader Tree} [AvoidsNames literal] :
    Abuts src (literalOrTarget g literal) where
  out hc h := by
    obtain ⟨found, c₁, hliteral, h₁⟩ := bind_eq_done_iff.mp h
    rcases attempt_eq_done hliteral with ⟨t, rfl, ht⟩ | ⟨rfl, hrest⟩
    · have : Nameless t := AvoidsNames.out ht
      exact AvoidsNames.follows h₁
    obtain ⟨t, c₂, hpattern, h₂⟩ := bind_eq_done_iff.mp h₁
    have ht : c₂.Follows src t := hg.pattern.out (hrest ▸ hc) hpattern
    obtain ⟨cs, c₃, hahead, h₃⟩ := bind_eq_done_iff.mp h₂
    obtain ⟨-, rfl⟩ := ahead_eq_done_iff.mp hahead
    obtain ⟨_, c₄, hguard, h₄⟩ := bind_eq_done_iff.mp h₃
    obtain ⟨-, rfl⟩ := guard_eq_done_iff.mp hguard
    obtain ⟨rfl, rfl⟩ := pure_eq_done_iff.mp h₄
    exact ht

theorem abuts_ahead_bind [Named β] {f : List Char → Reader β}
    (h : ∀ cs, Abuts src (f cs)) : Abuts src (ahead >>= f) :=
  have (cs : Traced src (List Char)) : Abuts src (f cs.1) := h cs.1
  inferInstance

instance {g : Grammar} [g.Traces src] : Abuts src (pattern g) := by
  unfold pattern
  refine abuts_ahead_bind fun cs => ?_
  split
  · infer_instance
  · infer_instance
  · refine ⟨fun {c c' t} hc h => ?_⟩
    obtain ⟨w, c₁, hword, hread⟩ := bind_eq_done_iff.mp h
    obtain ⟨rfl, rfl⟩ := pure_eq_done_iff.mp hread
    exact ((word_spells hword).1.behind hc).follows rfl

instance {g : Grammar} : AvoidsNames (element g) := by
  dsimp only [element]
  refine .bind fun _ => .bind fun fragment => ?_
  cases fragment <;> simp only [Bool.false_eq_true, if_false, if_true]
  all_goals
    iterate 4 refine .bind fun _ => ?_
    split <;> infer_instance

instance : Abuts src (primary g mode) := by
  unfold primary
  refine abuts_ahead_bind fun cs => ?_
  dsimp only
  split
  · infer_instance
  repeat' split
  all_goals infer_instance

instance : Abuts src (creation g mode) where
  out hc h := by
    obtain ⟨c₀, c₁, hhere, h₁⟩ := bind_eq_done_iff.mp h
    obtain ⟨rfl, rfl⟩ := here_eq_done_iff.mp hhere
    obtain ⟨found, c₂, hcreation, h₂⟩ := bind_eq_done_iff.mp h₁
    rcases attempt_eq_done hcreation with ⟨t, rfl, ht⟩ | ⟨rfl, hrest⟩
    · have : Nameless t := AvoidsNames.out ht
      exact AvoidsNames.follows h₂
    obtain ⟨_, c₃, hnew, h₃⟩ := bind_eq_done_iff.mp h₂
    have hbehind := (keyword_spells hnew).behind (hrest ▸ hc)
    obtain ⟨c₄, c₅, hhere', h₄⟩ := bind_eq_done_iff.mp h₃
    obtain ⟨rfl, rfl⟩ := here_eq_done_iff.mp hhere'
    obtain ⟨_, c₆, hguard, h₅⟩ := bind_eq_done_iff.mp h₄
    obtain ⟨-, rfl⟩ := guard_eq_done_iff.mp hguard
    obtain ⟨rfl, rfl⟩ := pure_eq_done_iff.mp h₅
    exact hbehind.follows rfl

instance {n : Nat} : Traces src (creationUpTo g mode n) := by
  induction n with
  | zero => unfold creationUpTo; infer_instance
  | succ n ih =>
    dsimp only [creationUpTo]
    refine Traces.bind inferInstance fun _ => Traces.bind inferInstance fun _ => ?_
    split
    · infer_instance
    refine Traces.bind inferInstance fun _ => ?_
    split <;> exact Traces.bind_of_abuts fun base c hc hbase => tracesFrom_here_bind <|
      (tracesFrom_constructorRest hc hbase).bind fun _ => inferInstance

instance : Traces src (creation g mode) := by unfold creation; infer_instance
instance : Traces src (callTypes g) := by unfold callTypes; infer_instance

instance {row : Nat} {t : Operand} [StandsIn src t] [Nameless t.tree] {n : Nat} :
    Traces src (suffixes g mode row t n) := by
  induction n generalizing t with
  | zero => unfold suffixes; infer_instance
  | succ n ih =>
    unfold suffixes
    refine Traces.bind inferInstance fun c => ?_
    split
    · infer_instance
    split
    case' h_2 => refine Traces.bind inferInstance fun _ => traces_ahead_bind fun cs => ?_; split
    case' h_3 => refine Traces.bind inferInstance fun _ => traces_ahead_bind fun cs => ?_; split
    all_goals infer_instance

theorem tracesFrom_suffixes {row : Nat} {t : Operand} [StandsIn src t] {c : Cursor}
    (hc : c.rest <:+ src) (ht : c.Follows src t) {n : Nat} :
    (suffixes g mode row t n).TracesFrom src c := by
  cases n with
  | zero => unfold suffixes; exact Traces.from inferInstance hc
  | succ n =>
    unfold suffixes
    refine tracesFrom_here_bind ?_
    -- What is read before matters where a member may follow: behind a point, with or without a
    -- question mark.
    split
    · exact Traces.from inferInstance hc
    split
    · exact Traces.from inferInstance hc
    · rename_i cs _ hrest
      refine tracesFrom_pass_bind ['.'] ⟨cs, hrest.symm⟩ fun c₁ hpoint => ?_
      refine tracesFrom_ahead_bind ?_
      split
      · exact ⟨fun h => absurd h fail_ne_done⟩
      · split
        · exact tracesFrom_memberName_bind false hc ht hpoint fun _ _ => inferInstance
        · exact ⟨fun h => absurd h fail_ne_done⟩
    · rename_i cs hrest
      refine tracesFrom_pass_bind ['?', '.'] ⟨cs, hrest.symm⟩ fun c₁ hpoint => ?_
      have hc₁ := hpoint.rest_isSuffix.trans hc
      refine tracesFrom_ahead_bind ?_
      split
      case h_4 =>
        split
        · exact tracesFrom_memberName_bind true hc ht hpoint fun _ _ => inferInstance
        · exact ⟨fun h => absurd h fail_ne_done⟩
      all_goals exact Traces.from inferInstance hc₁
    all_goals exact Traces.from inferInstance hc

instance : Traces src (suffixed g mode) := by
  unfold suffixed
  dsimp only
  refine Traces.bind inferInstance fun start => ?_
  split <;> exact Traces.bind_of_abuts fun base c hc hbase =>
    tracesFrom_here_bind (tracesFrom_suffixes hc hbase)

instance : Traces src (yielded g mode) := by unfold yielded; infer_instance
instance : Traces src (operand g mode) := by dsimp only [operand]; infer_instance
instance : Traces src (choice g mode) := by dsimp only [choice]; infer_instance

instance {n : Nat} : Traces src (expressionRest g mode n) := by
  induction n with
  | zero => unfold expressionRest; infer_instance
  | succ n ih => dsimp only [expressionRest]; infer_instance

instance : Traces src (expression g mode) := by unfold expression; infer_instance

/-! ### Statements -/

instance : Traces src (declarator g) := by
  unfold declarator
  refine Traces.bind inferInstance fun _ => traces_ahead_bind fun cs => ?_
  dsimp only
  split <;> infer_instance

instance : Traces src (declarators g) := by unfold declarators; infer_instance
instance : Traces src (functionDeclaration g) := by unfold functionDeclaration; infer_instance
instance : Traces src (enumMember g) := by unfold enumMember; infer_instance
instance : Traces src (enumRest g) := by unfold enumRest; infer_instance
instance : Traces src (interfaceRest g) := by dsimp only [interfaceRest]; infer_instance
instance : Traces src (typeAliasHead g) := by unfold typeAliasHead; infer_instance
instance : Traces src namespaceName := by unfold namespaceName; infer_instance

instance {ws : List String} : Traces src (keywords ws) := by
  induction ws with
  | nil => unfold keywords; infer_instance
  | cons w ws ih => unfold keywords; infer_instance

instance {ws : List String} {test : List Char → Bool} : Traces src (begins ws test) := by
  unfold begins; infer_instance

instance : Traces src (plainDeclaration g) := by unfold plainDeclaration; infer_instance
instance : Traces src (declaration g) := by unfold declaration; infer_instance
instance : Traces src moduleName := by unfold moduleName; infer_instance
instance : Traces src specifier := by dsimp only [specifier]; infer_instance
instance : Traces src specifiers := by unfold specifiers; infer_instance
instance : Traces src (source g) := by unfold source; infer_instance
instance : Traces src (fromSource g) := by unfold fromSource; infer_instance

instance : Traces src importClause := by
  dsimp only [importClause]
  refine traces_ahead_bind fun cs => ?_
  split
  · infer_instance
  · infer_instance
  · refine Traces.bind inferInstance fun _ => Traces.bind inferInstance fun _ => ?_
    split
    · refine traces_ahead_bind fun cs => ?_
      split <;> infer_instance
    · infer_instance

instance : Traces src (importRest g) := by dsimp only [importRest]; infer_instance
instance : Traces src (exportRest g) := by dsimp only [exportRest]; infer_instance
instance : Traces src (condition g) := by unfold condition; infer_instance
instance : Traces src (loopTarget g) := by dsimp only [loopTarget]; infer_instance
instance : Traces src (collectionHead g) := by unfold collectionHead; infer_instance
instance : Traces src (countingHead g) := by dsimp only [countingHead]; infer_instance
instance : Traces src (forRest g) := by dsimp only [forRest]; infer_instance
instance : Traces src (switchCase g) := by dsimp only [switchCase]; infer_instance
instance : Traces src (switchRest g) := by unfold switchRest; infer_instance
instance : Traces src (tryRest g) := by dsimp only [tryRest]; infer_instance
instance : Traces src jumpRest := by dsimp only [jumpRest]; infer_instance
instance : Traces src (returnRest g) := by unfold returnRest; infer_instance
instance : Traces src (ifRest g) := by unfold ifRest; infer_instance
instance : Traces src (doRest g) := by unfold doRest; infer_instance
instance : Traces src (expressionStatement g) := by unfold expressionStatement; infer_instance
instance : Traces src label := by unfold label; infer_instance

instance {w : String} : Traces src (wordStatement g w) := by
  dsimp only [wordStatement]
  split <;> infer_instance

instance : Traces src (decoratedStatement g) := by dsimp only [decoratedStatement]; infer_instance

instance : Traces src (statement g) := by
  unfold statement
  refine traces_ahead_bind fun cs => ?_
  split
  · infer_instance
  · split <;> infer_instance

instance : Traces src skipInterpreterLine := by
  unfold skipInterpreterLine
  refine traces_ahead_bind fun cs => ?_
  split <;> infer_instance

instance : Traces src (program g) := by unfold program; infer_instance

/-! ### Whole texts -/

theorem abuts_grammarOf (src : List Char) (n : Nat) : (grammarOf n).Abuts src := by
  induction n with
  | zero =>
    exact { goal := fun _ => inferInstanceAs (Traces src fail)
            pattern := inferInstanceAs (Abuts src fail)
            element := inferInstanceAs (AvoidsNames fail) }
  | succ n ih =>
    have hgoal : (grammarOf (n + 1)).Traces src := ⟨fun goal => by
      cases goal with
      | expression mode => exact inferInstanceAs (Traces src (expression (grammarOf n) mode))
      | operand mode => exact inferInstanceAs (Traces src (operand (grammarOf n) mode))
      | type => exact inferInstanceAs (Traces src (typeExpression (grammarOf n)))
      | pattern => exact inferInstanceAs (Traces src (pattern (grammarOf n)))
      | statement => exact inferInstanceAs (Traces src (statement (grammarOf n)))
      | element => exact inferInstanceAs (Traces src (element (grammarOf n)))⟩
    exact { hgoal with
            pattern := inferInstanceAs (Abuts src (pattern (grammarOf n)))
            element := inferInstanceAs (AvoidsNames (element (grammarOf n))) }

/-- **Every access of a member of a name stands in the source text**: the name, a point and the
name of the member, with blanks and comments between them at most. -/
theorem standsIn_of_parse {source : String} {tree : Tree} (h : parse source = .ok tree) :
    tree.StandsIn source.toList := by
  have := abuts_grammarOf source.toList (4 * source.toList.length + 16)
  rw [parse] at h
  split at h
  · rename_i t c hread
    cases h
    have hstart : source.toList <:+ source.toList := List.suffix_rfl
    exact (Traces.out hstart hread).2.out
  · cases h

end RouteAtlas.Script
