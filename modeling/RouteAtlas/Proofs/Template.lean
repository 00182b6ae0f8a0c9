import Mathlib.Data.List.TakeWhile
import Mathlib.Tactic.SplitIfs
import RouteAtlas.Route.Template

/-!
# The names in a path template

A pattern is read twice: once for its parameters, `pathParameters`, and once for the template,
`pathTemplate`, which is all that a reader of a document sees. `enclosedNames` reads a template as
such a reader does, without knowledge of patterns: what stands between an opening brace and the next
closing one. `enclosedNames_pathTemplate` says that the readings agree, name by name and in order, on
every pattern without braces of its own. Its heart is `map_fst_parameterMarks`: the search for marks
and the division into pieces stop at the same places, whatever stands between.

The first occurrence of a name decides whether a parameter is optional, so the list of parameters
has no repetitions; `map_firstByKey` relates this to `List.eraseDups`.
-/

namespace RouteAtlas

/-! ### First occurrences -/

/-- Leaving out some elements and leaving out repetitions may be done in either order. -/
theorem eraseDups_filter {κ : Type} [BEq κ] [LawfulBEq κ] (p : κ → Bool) (l : List κ) :
    (l.filter p).eraseDups = l.eraseDups.filter p := by
  -- The tail is filtered before its repetitions are left out, so the recursion is on the length.
  match l with
  | [] => rfl
  | k :: l =>
    have hlen : (l.filter fun b => !b == k).length < l.length + 1 :=
      Nat.lt_succ_of_le (List.length_filter_le ..)
    have ih := eraseDups_filter p (l.filter fun b => !b == k)
    rw [List.filter_filter] at ih
    rw [List.eraseDups_cons, List.filter_cons, List.filter_cons]
    split_ifs with hk
    · rw [List.eraseDups_cons, List.filter_filter, ← ih]
      exact congrArg (fun q => k :: (l.filter q).eraseDups) (funext fun b => Bool.and_comm ..)
    · rw [← ih]
      refine congrArg List.eraseDups (List.filter_congr fun b _ => ?_)
      by_cases hb : b = k
      · simp [hb, hk]
      · simp [hb]
termination_by l.length

/-- The keys that are left are the keys without repetitions, in the order of first occurrence. -/
theorem map_firstByKey {α κ : Type} [BEq κ] [LawfulBEq κ] (key : α → κ) (as : List α) :
    (firstByKey key as).map key = (as.map key).eraseDups := by
  induction as with
  | nil => rfl
  | cons a as ih =>
    have hfilter : ((firstByKey key as).filter fun b => !(key b == key a)).map key =
        ((firstByKey key as).map key).filter fun k => !(k == key a) := by
      rw [List.filter_map]
      rfl
    rw [firstByKey, List.map_cons, List.map_cons, List.eraseDups_cons, hfilter, ih,
      eraseDups_filter]

/-! ### What stands in braces -/

/-- What stands between an opening brace and the next closing one, from left to right. -/
def enclosedChars : List Char → List (List Char)
  | [] => []
  | c :: cs =>
    if c = '\x7b' then
      match _ : cs.dropWhile (· != '\x7d') with
      | [] => []
      | _ :: rest => cs.takeWhile (· != '\x7d') :: enclosedChars rest
    else enclosedChars cs
termination_by cs => cs.length
decreasing_by
  · rename_i h
    have hlen := (List.dropWhile_suffix (l := cs) (· != '\x7d')).length_le
    rw [h, List.length_cons] at hlen
    simp only [List.length_cons]
    omega
  · simp

/-- The names in braces, from left to right. -/
def enclosedNames (template : String) : List String :=
  (enclosedChars template.toList).map String.ofList

theorem enclosedChars_char {c : Char} (h : c ≠ '\x7b') (cs : List Char) :
    enclosedChars (c :: cs) = enclosedChars cs := by
  rw [enclosedChars, if_neg h]

theorem enclosedChars_name {name : List Char} (h : '\x7d' ∉ name) (cs : List Char) :
    enclosedChars ('\x7b' :: (name ++ '\x7d' :: cs)) = name :: enclosedChars cs := by
  have hname : ∀ c ∈ name, (c != '\x7d') = true := fun c hc => by
    simpa using fun he : c = '\x7d' => h (he ▸ hc)
  have hdrop : (name ++ '\x7d' :: cs).dropWhile (· != '\x7d') = '\x7d' :: cs := by
    rw [List.dropWhile_append_of_pos hname]
    rfl
  have htake : (name ++ '\x7d' :: cs).takeWhile (· != '\x7d') = name := by
    rw [List.takeWhile_append_of_pos hname]
    simp
  rw [enclosedChars, if_pos rfl]
  split
  · rename_i heq
    rw [hdrop] at heq
    cases heq
  · rename_i heq
    rw [hdrop] at heq
    rw [htake, (List.cons.inj heq).2]

/-! ### The pieces of a pattern without braces -/

/-- A piece whose template has braces only around a name. -/
def Piece.IsPlain : Piece → Prop
  | .char c => c ≠ '\x7b'
  | .param name => '\x7d' ∉ name

/-- The name of a piece, if it is a parameter. -/
def Piece.name? : Piece → Option (List Char)
  | .char _ => none
  | .param name => some name

/-- What stands in braces in the template of plain pieces are the names of the pieces. -/
theorem enclosedChars_flatMap_template {ps : List Piece} (h : ∀ p ∈ ps, p.IsPlain) :
    enclosedChars (ps.flatMap Piece.template) = ps.filterMap Piece.name? := by
  induction ps with
  | nil => rw [List.flatMap_nil, enclosedChars, List.filterMap_nil]
  | cons p ps ih =>
    have hp := h p List.mem_cons_self
    have htail := ih fun p hp => h p (List.mem_cons_of_mem _ hp)
    rw [List.flatMap_cons]
    cases p with
    | char c => exact (enclosedChars_char hp _).trans htail
    | param name =>
      have hshape : (Piece.param name).template ++ ps.flatMap Piece.template =
          '\x7b' :: (name ++ '\x7d' :: ps.flatMap Piece.template) := by
        simp [Piece.template]
      rw [hshape, enclosedChars_name hp, htail]
      rfl

/-- A character of a name is no brace. -/
theorem ne_brace_of_isNamePart {c : Char} (h : isNamePart c = true) : c ≠ '\x7d' := by
  rintro rfl
  revert h
  decide

theorem isNamePart_of_isNameStart {c : Char} (h : isNameStart c = true) : isNamePart c = true := by
  rw [isNameStart, Bool.or_eq_true] at h
  rw [isNamePart, Char.isAlphanum, Bool.or_eq_true, Bool.or_eq_true]
  exact h.imp .inl id

theorem dropOptional_suffix (cs : List Char) : dropOptional cs <:+ cs := by
  unfold dropOptional
  split
  · exact List.suffix_cons ..
  · exact List.suffix_rfl

/-- The pieces of a pattern without opening braces are plain. The names need no hypothesis: a brace
is not a character of a name. -/
theorem isPlain_of_mem_pieces {cs : List Char} (h : '\x7b' ∉ cs) :
    ∀ p ∈ pieces cs, p.IsPlain := by
  fun_induction pieces cs with
  | case1 => simp
  | case2 c cs hc ih =>
    have hname : '\x7d' ∉ c :: cs.takeWhile isNamePart := by
      intro hmem
      rcases List.mem_cons.mp hmem with rfl | hmem
      · exact ne_brace_of_isNamePart (isNamePart_of_isNameStart hc) rfl
      · exact ne_brace_of_isNamePart (List.mem_takeWhile_imp hmem) rfl
    have hrest : '\x7b' ∉ dropOptional (cs.dropWhile isNamePart) := fun hmem =>
      h (List.mem_cons_of_mem _ (List.mem_cons_of_mem _
        (((dropOptional_suffix _).trans (List.dropWhile_suffix _)).subset hmem)))
    exact List.forall_mem_cons.mpr ⟨hname, ih hrest⟩
  | case3 c cs hc ih =>
    have hrest : '\x7b' ∉ c :: cs := fun hmem => h (List.mem_cons_of_mem _ hmem)
    have hcolon : ':' ≠ '\x7b' := by decide
    exact List.forall_mem_cons.mpr ⟨hcolon, ih hrest⟩
  | case4 c cs hc ih =>
    have hrest : '\x7b' ∉ cs := fun hmem => h (List.mem_cons_of_mem _ hmem)
    have hchar : c ≠ '\x7b' := fun he => h (he ▸ List.mem_cons_self)
    exact List.forall_mem_cons.mpr ⟨hchar, ih hrest⟩

/-! ### The two readings agree -/

/-- The same characters are left after a question mark, whether it is noted or not. -/
theorem splitOptional_snd (cs : List Char) : (splitOptional cs).2 = dropOptional cs := by
  unfold splitOptional dropOptional
  split <;> rfl

/-- **Marks and pieces have the same names**, in order and with repetitions. -/
theorem map_fst_parameterMarks (cs : List Char) :
    (parameterMarks cs).map Prod.fst =
      ((pieces cs).filterMap Piece.name?).map String.ofList := by
  fun_induction parameterMarks cs with
  | case1 => rw [pieces, List.filterMap_nil, List.map_nil, List.map_nil]
  | case2 c cs hc rest ih =>
    rw [pieces, if_pos hc, ← splitOptional_snd]
    exact congrArg (List.cons _) ih
  | case3 c cs hc ih =>
    rw [pieces, if_neg hc]
    exact ih
  | case4 c cs hc ih =>
    rw [pieces]
    · exact ih
    · exact hc

/-- **The names in braces of a template are the parameters of its pattern**, in order and with
repetitions, if the pattern has no braces of its own. -/
theorem enclosedNames_pathTemplate {path : String} (h : '\x7b' ∉ path.toList) :
    enclosedNames (pathTemplate path) = (parameterMarks path.toList).map Prod.fst := by
  rw [enclosedNames, pathTemplate, String.toList_ofList,
    enclosedChars_flatMap_template (isPlain_of_mem_pieces h), map_fst_parameterMarks]

/-- The parameters of a pattern, without repetitions. -/
theorem map_name_pathParameters {path : String} (h : '\x7b' ∉ path.toList) :
    (pathParameters path).map Parameter.name = (enclosedNames (pathTemplate path)).eraseDups := by
  rw [enclosedNames_pathTemplate h, ← map_firstByKey, pathParameters, List.map_map]
  rfl

end RouteAtlas
