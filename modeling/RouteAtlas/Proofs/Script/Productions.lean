import RouteAtlas.Proofs.Script.Names
import RouteAtlas.Script.Parsing

/-!
# The productions of the grammar
-/

namespace RouteAtlas.Script

open Reader

set_option synthInstance.maxSize 100000

variable {β : Type} {src : List Char} {g : Grammar} [g.Traces src] {mode : Mode}

/-! ### Types -/

instance : Traces src closeAngle := by unfold closeAngle; infer_instance
instance {item : Reader Tree} [Traces src item] : Traces src (angled item) := by
  unfold angled; infer_instance
instance : Traces src (typeArguments g) := by unfold typeArguments; infer_instance
instance : Traces src (optionalTypeArguments g) := by unfold optionalTypeArguments; infer_instance
instance : Traces src (typeParameter g) := by dsimp only [typeParameter]; infer_instance
instance : Traces src (optionalTypeParameters g) := by unfold optionalTypeParameters; infer_instance
instance : Traces src ( optionalAnnotation g) := by unfold optionalAnnotation; infer_instance
instance : Traces src (resultType g) := by dsimp only [resultType]; infer_instance
instance : Traces src (optionalResult g) := by unfold optionalResult; infer_instance
instance : Traces src (optionalDefault g) := by unfold optionalDefault; infer_instance
instance : Traces src (patternEntry g) := by unfold patternEntry; infer_instance
instance : Traces src (patternItem g) := by unfold patternItem; infer_instance

instance : Traces src (pattern g) := by
  unfold pattern
  refine traces_ahead_bind fun cs => ?_
  split <;> infer_instance

instance : Traces src (decorator g) := by unfold decorator; infer_instance
instance : Traces src (decorators g) := by unfold decorators; infer_instance

instance {modifiers : List String} {n : Nat} : Traces src (skipModifiers modifiers n) := by
  induction n with
  | zero => unfold skipModifiers; infer_instance
  | succ n ih => unfold skipModifiers; infer_instance

instance : Traces src (parameter g) := by dsimp only [parameter]; infer_instance
instance : Traces src (parameters g) := by unfold parameters; infer_instance
instance : Traces src (signature g) := by unfold signature; infer_instance

instance : Traces src ( indexAnnotation g) := by
  unfold indexAnnotation
  refine traces_ahead_bind fun cs => ?_
  dsimp only
  split <;> infer_instance

instance : Traces src (indexSignature g) := by
  unfold indexSignature
  refine traces_ahead_bind fun cs => ?_
  dsimp only
  split <;> infer_instance

instance {modifiers : List String} {n : Nat} : Traces src (skipMemberModifiers modifiers n) := by
  induction n with
  | zero => unfold skipMemberModifiers; infer_instance
  | succ n ih => unfold skipMemberModifiers; infer_instance

instance : Traces src (typeMember g) := by
  unfold typeMember
  refine Traces.bind_option inferInstance (fun _ => inferInstance) (traces_ahead_bind fun cs => ?_)
  split
  · infer_instance
  · infer_instance
  · have hconstructs : Traces src (do
        let _ ← optionalKeyword "abstract"
        keyword "new"
        match ← ahead with
        | '(' :: _ => signature g
        | '<' :: _ => signature g
        | _ => fail) :=
      .bind inferInstance fun _ => .bind inferInstance fun _ => traces_ahead_bind fun cs => by
        split <;> infer_instance
    refine Traces.bind_option inferInstance (fun _ => inferInstance) ?_
    iterate 4 refine Traces.bind inferInstance fun _ => ?_
    refine traces_ahead_bind fun cs => ?_
    split <;> infer_instance

instance : Traces src memberEnd := by unfold memberEnd; infer_instance

instance {n : Nat} : Traces src (typeMembers g n) := by
  induction n with
  | zero => unfold typeMembers; infer_instance
  | succ n ih => unfold typeMembers; infer_instance

instance : Traces src (objectType g) := by dsimp only [objectType]; infer_instance
instance : Traces src (tupleItem g) := by dsimp only [tupleItem]; infer_instance

instance : Traces src (typeQuery g) := by
  dsimp only [typeQuery]
  refine Traces.bind inferInstance fun w => ?_
  split
  · infer_instance
  · refine traces_word_bind fun w c hc hbehind => ?_
    -- The name has just been read.
    show (here >>= fun c => dottedRest (.identifier w.text) c.remaining >>= fun t =>
      optionalTypeArguments g >>= fun types => pure (Tree.other (t :: types))).TracesFrom src c
    exact tracesFrom_here_bind <|
      (tracesFrom_dottedRest hc (hbehind.follows rfl)).bind fun _ => inferInstance

instance : Traces src (functionType g) := by unfold functionType; infer_instance
instance : Traces src (namedType g) := by unfold namedType; infer_instance
instance : Traces src (wordType g) := by dsimp only [wordType]; infer_instance

instance : Traces src (simpleType g) := by
  unfold simpleType
  refine traces_ahead_bind fun cs => ?_
  repeat' split
  all_goals infer_instance

instance {t : Tree} [StandsIn src t] {n : Nat} : Traces src (typeSuffixes g t n) := by
  induction n generalizing t with
  | zero => unfold typeSuffixes; infer_instance
  | succ n ih => unfold typeSuffixes; infer_instance

instance : Traces src (suffixedType g) := by unfold suffixedType; infer_instance
instance : Traces src (unionRest g) := by unfold unionRest; infer_instance
instance : Traces src (typeExpression g) := by dsimp only [typeExpression]; infer_instance

/-! ### Functions and classes -/

instance : Traces src (functionRest g) := by dsimp only [functionRest]; infer_instance
instance : Traces src (arrowBody g mode) := by unfold arrowBody; infer_instance
instance : Traces src (arrowHead g) := by unfold arrowHead; infer_instance

instance {name : MemberName} [StandsIn src name] : Traces src (methodRest g name) := by
  unfold methodRest; infer_instance

instance : Traces src (objectEntry g) := by
  unfold objectEntry
  refine Traces.bind inferInstance fun _ => ?_
  split
  · infer_instance
  iterate 5 refine Traces.bind inferInstance fun _ => ?_
  refine traces_ahead_bind fun cs => ?_
  split
  · infer_instance
  split
  · infer_instance
  refine Traces.bind inferInstance fun _ => ?_
  split
  · infer_instance
  split <;> infer_instance

instance : Traces src (objectLiteral g) := by unfold objectLiteral; infer_instance
instance : Traces src (arrayLiteral g) := by unfold arrayLiteral; infer_instance
instance : Traces src (optionalInitializer g) := by unfold optionalInitializer; infer_instance

instance {inExpression : Bool} : Traces src (classMemberEnd inExpression) := by
  unfold classMemberEnd; infer_instance

instance : Traces src (fieldOrMethod g) := by
  unfold fieldOrMethod
  refine Traces.bind inferInstance fun _ => Traces.bind inferInstance fun name => ?_
  refine traces_ahead_bind fun cs => ?_
  dsimp only
  split <;> infer_instance

instance : Traces src (classMember g) := by
  unfold classMember
  refine traces_ahead_bind fun cs => ?_
  split <;> infer_instance

instance : Traces src (classBody g) := by unfold classBody; infer_instance
instance : Traces src (baseClass g) := by unfold baseClass; infer_instance
instance : Traces src (implemented g) := by unfold implemented; infer_instance
instance : Traces src (classRest g) := by dsimp only [classRest]; infer_instance

/-! ### Elements -/

instance : Traces src quotedAttribute := by
  unfold quotedAttribute
  refine traces_ahead_bind fun cs => ?_
  repeat' split
  all_goals infer_instance

instance : Traces src tagWord := by unfold tagWord; infer_instance

theorem tagWord_spells {c c' : Cursor} {w : String} (h : tagWord c = .done w c') :
    c.Spells w.toList c' := by
  obtain ⟨cs, c₁, hahead, hread⟩ := bind_eq_done_iff.mp h
  obtain ⟨rfl, rfl⟩ := ahead_eq_done_iff.mp hahead
  split at hread
  · dsimp only at hread
    split at hread
    · exact absurd hread fail_ne_done
    · obtain ⟨_, c₁, hpass, hread⟩ := bind_eq_done_iff.mp hread
      obtain rfl := pass_eq_done_iff.mp hpass
      obtain ⟨rfl, rfl⟩ := pure_eq_done_iff.mp hread
      rw [String.toList_ofList]
      exact Cursor.spells_pass (List.takeWhile_prefix _)
  · exact absurd hread fail_ne_done

theorem traces_tagWord_bind [Traceable β] {f : String → Reader β}
    (h : ∀ w c, c.rest <:+ src → c.Behind src w → (f w).TracesFrom src c) :
    Traces src (tagWord >>= f) where
  out hc h' := by
    obtain ⟨w, c₁, hword, hread⟩ := bind_eq_done_iff.mp h'
    have hspells := tagWord_spells hword
    exact (h w c₁ (hspells.rest_isSuffix.trans hc) (hspells.behind hc)).out hread

instance : Traces src tagName := by
  unfold tagName
  refine traces_tagWord_bind fun w c hc hbehind => ?_
  exact tracesFrom_optionalMark_bind hc inferInstance
    (tracesFrom_here_bind (tracesFrom_dottedRest hc (hbehind.follows rfl)))

instance : Traces src (braced g) := by unfold braced; infer_instance

instance : Traces src (tagAttribute g) := by
  dsimp only [tagAttribute]
  refine Traces.bind inferInstance fun _ => ?_
  split
  · infer_instance
  refine Traces.bind inferInstance fun _ => Traces.bind inferInstance fun _ => ?_
  split
  case' isTrue => refine Traces.bind inferInstance fun _ => ?_
  all_goals
    refine Traces.bind inferInstance fun _ => ?_
    split
    · refine traces_ahead_bind fun cs => ?_
      split <;> infer_instance
    · infer_instance

instance {n : Nat} : Traces src (children g n) := by
  induction n with
  | zero => unfold children; infer_instance
  | succ n ih =>
    unfold children
    refine traces_ahead_bind fun cs => ?_
    dsimp only
    repeat' split
    all_goals infer_instance

instance : Traces src (element g) := by
  dsimp only [element]
  refine Traces.bind inferInstance fun _ => Traces.bind inferInstance fun fragment => ?_
  obtain ⟨fragment, hfragment⟩ := fragment
  cases fragment <;> simp only [Bool.false_eq_true, if_false, if_true]
  all_goals
    iterate 3 refine Traces.bind inferInstance fun _ => ?_
    refine traces_ahead_bind fun cs => ?_
    split <;> infer_instance


end RouteAtlas.Script
