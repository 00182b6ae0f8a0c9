import Mathlib.Data.List.Chain
import RouteAtlas.Proofs.Template

/-!
# Path templates are normal forms

A path template is read again as a pattern whenever a model writes the template where the pattern
is asked for. `IsUnmarked` says that a text has no mark of a parameter: no colon stands directly in
front of a character that may begin a name. A text without marks is its own template
(`pieces_of_isUnmarked`), and **every template is such a text** (`isUnmarked_template`): a replaced
mark leaves a brace behind, and a colon that was not replaced still has the same character after
it, or a brace. So templates are fixed (`pathTemplate_pathTemplate`), and a text that is fixed has
no marks (`pathTemplate_eq_self_iff`).
-/

namespace RouteAtlas

/-- A text without marks of parameters: no colon stands directly in front of a character that may
begin a name. -/
def IsUnmarked (cs : List Char) : Prop :=
  cs.IsChain fun a b => a = ':' → isNameStart b = false

theorem isUnmarked_iff {cs : List Char} :
    IsUnmarked cs ↔ ∀ c, isNameStart c = true → ¬ [':', c] <:+: cs := by
  rw [IsUnmarked, List.isChain_iff_forall_rel_of_append_cons_cons]
  constructor
  · rintro h c hc ⟨front, back, rfl⟩
    have hmark : isNameStart c = false := h (List.append_assoc ..) rfl
    rw [hc] at hmark
    cases hmark
  · rintro h a c front back rfl rfl
    exact Bool.eq_false_iff.mpr fun hc => h c hc ⟨front, back, List.append_assoc ..⟩

/-- A text without marks consists of single characters. -/
theorem pieces_of_isUnmarked {cs : List Char} (h : IsUnmarked cs) :
    pieces cs = cs.map Piece.char := by
  fun_induction pieces cs with
  | case1 => rfl
  | case2 c cs hc ih =>
    have hmark : isNameStart c = false := (List.isChain_cons_cons.mp h).1 rfl
    rw [hc] at hmark
    cases hmark
  | case3 c cs hc ih => exact congrArg (List.cons _) (ih (List.isChain_cons_cons.mp h).2)
  | case4 c cs hc ih => exact congrArg (List.cons _) (ih (List.isChain_cons.mp h).2)

/-- Characters other than colons may stand in front of anything. -/
theorem IsUnmarked.append {cs : List Char} (h : IsUnmarked cs) {front : List Char}
    (hfront : ':' ∉ front) : IsUnmarked (front ++ cs) := by
  induction front with
  | nil => exact h
  | cons a front ih =>
    have ha : a ≠ ':' := fun he => hfront (he ▸ List.mem_cons_self)
    have htail : IsUnmarked (front ++ cs) := ih fun hmem => hfront (List.mem_cons_of_mem _ hmem)
    exact List.isChain_cons.mpr ⟨fun b _ he => absurd he ha, htail⟩

/-- The template of a pattern begins as the pattern does, or with a brace. -/
theorem head?_template {c b : Char} {cs : List Char}
    (h : b ∈ ((pieces (c :: cs)).flatMap Piece.template).head?) : b = c ∨ b = '\x7b' := by
  rw [pieces.eq_def] at h
  split at h
  · rename_i heq
    cases heq
  · rename_i d ds heq
    obtain ⟨rfl, rfl⟩ := List.cons.inj heq
    split_ifs at h
    · exact .inr (Option.some.inj h).symm
    · exact .inl (Option.some.inj h).symm
  · rename_i heq
    obtain ⟨rfl, rfl⟩ := List.cons.inj heq
    exact .inl (Option.some.inj h).symm

theorem ne_colon_of_isNamePart {c : Char} (h : isNamePart c = true) : c ≠ ':' := by
  rintro rfl
  revert h
  decide

/-- **Every template is without marks.** -/
theorem isUnmarked_template (cs : List Char) :
    IsUnmarked ((pieces cs).flatMap Piece.template) := by
  fun_induction pieces cs with
  | case1 => exact List.IsChain.nil
  | case2 c cs hc ih =>
    have hname : ':' ∉ (Piece.param (c :: cs.takeWhile isNamePart)).template := by
      simp only [Piece.template, List.cons_append, List.mem_cons, List.mem_append, List.not_mem_nil,
        or_false, not_or]
      refine ⟨by decide, fun he => ?_, fun hmem => ?_, by decide⟩
      · exact ne_colon_of_isNamePart (isNamePart_of_isNameStart hc) he.symm
      · exact ne_colon_of_isNamePart (List.mem_takeWhile_imp hmem) rfl
    exact ih.append hname
  | case3 c cs hc ih =>
    -- The colon stays, and what follows it is the character that did not begin a name, or a brace.
    refine List.isChain_cons.mpr ⟨fun b hb _ => ?_, ih⟩
    rcases head?_template hb with rfl | rfl
    · exact Bool.eq_false_iff.mpr hc
    · decide
  | case4 c cs hc ih =>
    refine List.isChain_cons.mpr ⟨fun b hb he => ?_, ih⟩
    cases cs with
    | nil =>
      rw [pieces] at hb
      cases hb
    | cons d ds => exact (hc d ds he rfl).elim

/-- Single characters are written as they are. -/
theorem flatMap_template_map_char (cs : List Char) :
    (cs.map Piece.char).flatMap Piece.template = cs := by
  induction cs with
  | nil => rfl
  | cons c cs ih => exact congrArg (List.cons c) ih

theorem isUnmarked_pathTemplate (path : String) : IsUnmarked (pathTemplate path).toList := by
  rw [pathTemplate, String.toList_ofList]
  exact isUnmarked_template _

/-- **The texts that are their own templates are those without marks.** -/
theorem pathTemplate_eq_self_iff {path : String} :
    pathTemplate path = path ↔ IsUnmarked path.toList := by
  constructor
  · intro h
    rw [← h]
    exact isUnmarked_pathTemplate path
  · intro h
    rw [pathTemplate, pieces_of_isUnmarked h, flatMap_template_map_char, String.ofList_toList]

/-- A path template is its own template. -/
theorem pathTemplate_pathTemplate (path : String) :
    pathTemplate (pathTemplate path) = pathTemplate path :=
  pathTemplate_eq_self_iff.mpr (isUnmarked_pathTemplate path)

end RouteAtlas
