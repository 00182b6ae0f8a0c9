import Mathlib.Data.List.Infix
import RouteAtlas.Proofs.Template

/-!
# Patterns read back from templates

A path template is written from a pattern by a scan, and nothing of the pattern is lost but the question
marks of optional parameters. `withColons` reads a template as a pattern, with a colon for each opening
brace, and **what comes back is the pattern without those question marks**
(`withColons_pathTemplate`). So patterns without braces and question marks that have one template are
one pattern (`eq_of_pathTemplate_eq`).

Which question marks are meant is said without the scan, by what stands in front of them:
`withoutOptions` leaves out the one that directly follows the mark of a parameter, a colon and a name
(`endsInMark`). That the scan finds the same marks rests on where its pieces begin. An `IsSeam` is a
place in a text that no mark reaches across. A character that is no part of a mark leads from one seam
to the next (`IsSeam.concat`), and so does a mark that is passed at once, with the question mark behind
it (`exists_isSeam_of_isNameStart`); the whole text follows by induction over its pieces
(`IsSeam.withoutOptions_eq`).
-/

namespace RouteAtlas

/-! ### Question marks of optional parameters -/

/-- Whether a text is the mark of a parameter: a colon, a character that may begin a name, and any
characters that may continue it. -/
def isParameterMark : List Char → Bool
  | ':' :: c :: cs => isNameStart c && cs.all isNamePart
  | _ => false

/-- Whether a text ends in the mark of a parameter. -/
def endsInMark (cs : List Char) : Bool := cs.tails.any isParameterMark

/-- What is left of a text without the question marks that directly follow the mark of a parameter.
`before` is what stands in front of the text. -/
def withoutOptions (before : List Char) : List Char → List Char
  | [] => []
  | c :: cs =>
    if c = '?' ∧ endsInMark before then withoutOptions (before ++ [c]) cs
    else c :: withoutOptions (before ++ [c]) cs

theorem endsInMark_iff {cs : List Char} :
    endsInMark cs = true ↔ ∃ mark, isParameterMark mark = true ∧ mark <:+ cs := by
  rw [endsInMark, List.any_eq_true]
  exact exists_congr fun mark => by rw [List.mem_tails, and_comm]

/-- A mark with its last character apart, which continues the name or begins it. -/
theorem isParameterMark_concat_iff {cs : List Char} {c : Char} :
    isParameterMark (cs ++ [c]) = true ↔
      isParameterMark cs = true ∧ isNamePart c = true ∨ cs = [':'] ∧ isNameStart c = true := by
  match cs with
  | [] => simp [isParameterMark]
  | [a] =>
    by_cases ha : a = ':'
    · subst ha
      simp [isParameterMark]
    · simp [isParameterMark, ha]
  | a :: b :: cs =>
    by_cases ha : a = ':'
    · subst ha
      simp [isParameterMark, and_assoc]
    · simp [isParameterMark, ha]

/-- Whether a text ends in a mark is told by its last character and what is in front of it. -/
theorem endsInMark_concat_iff {cs : List Char} {c : Char} :
    endsInMark (cs ++ [c]) = true ↔
      endsInMark cs = true ∧ isNamePart c = true ∨
        cs.getLast? = some ':' ∧ isNameStart c = true := by
  rw [endsInMark_iff]
  constructor
  · rintro ⟨mark, hmark, hsuffix⟩
    rcases List.suffix_concat_iff.mp hsuffix with rfl | ⟨front, rfl, hfront⟩
    · cases hmark
    · rcases isParameterMark_concat_iff.mp hmark with ⟨hmark, hc⟩ | ⟨rfl, hc⟩
      · exact .inl ⟨endsInMark_iff.mpr ⟨front, hmark, hfront⟩, hc⟩
      · obtain ⟨before, rfl⟩ := hfront
        exact .inr ⟨List.getLast?_concat, hc⟩
  · rintro (⟨h, hc⟩ | ⟨h, hc⟩)
    · obtain ⟨mark, hmark, front, rfl⟩ := endsInMark_iff.mp h
      exact ⟨mark ++ [c], isParameterMark_concat_iff.mpr (.inl ⟨hmark, hc⟩), front,
        (List.append_assoc ..).symm⟩
    · obtain ⟨front, rfl⟩ := List.getLast?_eq_some_iff.mp h
      exact ⟨[':', c], isParameterMark_concat_iff.mpr (.inr ⟨rfl, hc⟩), front, by simp⟩

/-- Where there is no question mark, none is left out. -/
theorem withoutOptions_append {run : List Char} (h : '?' ∉ run) (before rest : List Char) :
    withoutOptions before (run ++ rest) = run ++ withoutOptions (before ++ run) rest := by
  induction run generalizing before with
  | nil => rw [List.append_nil, List.nil_append, List.nil_append]
  | cons c run ih =>
    obtain ⟨hc, hrun⟩ := List.ne_and_not_mem_of_not_mem_cons h
    rw [List.cons_append, withoutOptions, if_neg fun hmark => hc hmark.1.symm, ih hrun,
      List.append_assoc, List.singleton_append, List.cons_append]

theorem withoutOptions_of_not_mem {cs : List Char} (h : '?' ∉ cs) (before : List Char) :
    withoutOptions before cs = cs := by
  simpa [withoutOptions] using withoutOptions_append h before []

theorem withoutOptions_subset (before cs : List Char) : withoutOptions before cs ⊆ cs := by
  induction cs generalizing before with
  | nil => exact List.Subset.refl []
  | cons c cs ih =>
    rw [withoutOptions]
    split_ifs
    · exact List.subset_cons_of_subset c (ih _)
    · exact List.cons_subset_cons c (ih _)

/-! ### Seams -/

/-- A place in a text, given by what stands before it and after it, that no mark of a parameter reaches
across. -/
structure IsSeam (before after : List Char) : Prop where
  /-- A mark that ends here is not continued, and its question mark is not still to come. -/
  ofMark : endsInMark before = true → ∀ c ∈ after.head?, c ≠ '?' ∧ isNamePart c = false
  /-- A colon that stands here is not followed by a name. -/
  ofColon : before.getLast? = some ':' → ∀ c ∈ after.head?, isNameStart c = false

theorem isSeam_nil (cs : List Char) : IsSeam [] cs where
  ofMark := fun h => by cases h
  ofColon := fun h => by cases h

/-- Behind a question mark, whatever it belongs to, is a seam. -/
theorem isSeam_question (before cs : List Char) : IsSeam (before ++ ['?']) cs where
  ofMark := by
    intro h
    rcases endsInMark_concat_iff.mp h with ⟨-, hpart⟩ | ⟨-, hstart⟩
    · exact absurd hpart (by decide)
    · exact absurd hstart (by decide)
  ofColon := by
    intro h
    rw [List.getLast?_concat] at h
    cases h

/-- Behind a character that stands at a seam is a seam, unless it is the colon of a mark. -/
theorem IsSeam.concat {before cs : List Char} {c : Char} (h : IsSeam before (c :: cs))
    (hcolon : c = ':' → ∀ d ∈ cs.head?, isNameStart d = false) : IsSeam (before ++ [c]) cs where
  ofMark := by
    intro hmark
    rcases endsInMark_concat_iff.mp hmark with ⟨hbefore, hpart⟩ | ⟨hbefore, hstart⟩
    · rw [(h.ofMark hbefore c rfl).2] at hpart
      cases hpart
    · rw [h.ofColon hbefore c rfl] at hstart
      cases hstart
  ofColon := by
    intro hlast
    rw [List.getLast?_concat] at hlast
    exact hcolon (Option.some.inj hlast)

/-- What stands at a seam is kept. -/
theorem IsSeam.withoutOptions_cons {before cs : List Char} {c : Char}
    (h : IsSeam before (c :: cs)) :
    withoutOptions before (c :: cs) = c :: withoutOptions (before ++ [c]) cs := by
  rw [withoutOptions, if_neg]
  rintro ⟨hc, hmark⟩
  exact (h.ofMark hmark c rfl).1 hc

/-- Behind the end of a name is a seam, once the question mark is left out that may stand there. -/
theorem exists_isSeam_of_endsInMark {before rest : List Char} (hmark : endsInMark before = true)
    (hlast : before.getLast? ≠ some ':') (hrest : ∀ c ∈ rest.head?, isNamePart c = false) :
    ∃ before', IsSeam before' (dropOptional rest) ∧
      withoutOptions before rest = withoutOptions before' (dropOptional rest) := by
  unfold dropOptional
  split
  · rename_i cs
    exact ⟨before ++ ['?'], isSeam_question before cs, by rw [withoutOptions, if_pos ⟨rfl, hmark⟩]⟩
  · rename_i hne
    refine ⟨before, ⟨fun _ c hc => ⟨?_, hrest c hc⟩, fun h => absurd h hlast⟩, rfl⟩
    rintro rfl
    obtain ⟨cs, rfl⟩ := List.head?_eq_some_iff.mp hc
    exact hne cs rfl

/-- **A mark is passed at once**: it is kept, its question mark is left out, and then there is a seam.
There need not be a seam in front of it. -/
theorem exists_isSeam_of_isNameStart {c : Char} (hc : isNameStart c = true)
    (before cs : List Char) :
    ∃ before', IsSeam before' (dropOptional (cs.dropWhile isNamePart)) ∧
      withoutOptions before (':' :: c :: cs) = ':' :: c :: cs.takeWhile isNamePart ++
        withoutOptions before' (dropOptional (cs.dropWhile isNamePart)) := by
  have hname : ∀ d ∈ c :: cs.takeWhile isNamePart, isNamePart d = true :=
    List.forall_mem_cons.mpr ⟨isNamePart_of_isNameStart hc, fun d => List.mem_takeWhile_imp⟩
  have hsplit : ':' :: c :: cs =
      (':' :: c :: cs.takeWhile isNamePart) ++ cs.dropWhile isNamePart := by
    rw [List.cons_append, List.cons_append, List.takeWhile_append_dropWhile]
  have hquestion : '?' ∉ ':' :: c :: cs.takeWhile isNamePart := by
    intro hmem
    rcases List.mem_cons.mp hmem with heq | hmem
    · cases heq
    · exact absurd (hname _ hmem) (by decide)
  have hmark : endsInMark (before ++ ':' :: c :: cs.takeWhile isNamePart) = true :=
    endsInMark_iff.mpr ⟨_, by simp [isParameterMark, hc], List.suffix_append ..⟩
  have hlast : (before ++ ':' :: c :: cs.takeWhile isNamePart).getLast? ≠ some ':' := by
    intro hcolon
    rw [List.getLast?_append_cons, List.getLast?_cons_cons] at hcolon
    exact absurd (hname _ (List.mem_of_getLast? hcolon)) (by decide)
  have hrest : ∀ d ∈ (cs.dropWhile isNamePart).head?, isNamePart d = false := by
    intro d hd
    have hstop := List.head?_dropWhile_not isNamePart cs
    rwa [Option.mem_def.mp hd] at hstop
  obtain ⟨before', hseam, heq⟩ := exists_isSeam_of_endsInMark hmark hlast hrest
  exact ⟨before', hseam, by rw [hsplit, withoutOptions_append hquestion, heq]⟩

/-! ### The scan -/

/-- A piece in the spelling of a path pattern, without a question mark. -/
def Piece.pattern : Piece → List Char
  | .char c => [c]
  | .param name => ':' :: name

/-- **What is left without the question marks of optional parameters are the pieces of the text**, from
any seam on. -/
theorem IsSeam.withoutOptions_eq {before cs : List Char} (h : IsSeam before cs) :
    withoutOptions before cs = (pieces cs).flatMap Piece.pattern := by
  fun_induction pieces cs generalizing before with
  | case1 => rfl
  | case2 c cs hc ih =>
    obtain ⟨before', hseam, heq⟩ := exists_isSeam_of_isNameStart hc before cs
    rw [heq, ih hseam]
    rfl
  | case3 c cs hc ih =>
    -- A colon in front of something that begins no name.
    have hnext : ∀ d ∈ (c :: cs).head?, isNameStart d = false := by
      intro d hd
      obtain rfl := Option.some.inj hd
      exact Bool.eq_false_iff.mpr hc
    rw [h.withoutOptions_cons, ih (h.concat fun _ => hnext)]
    rfl
  | case4 c cs hc ih =>
    -- Any other character, or a colon at the end.
    have hnext : c = ':' → ∀ d ∈ cs.head?, isNameStart d = false := by
      intro hcolon d hd
      obtain ⟨ds, rfl⟩ := List.head?_eq_some_iff.mp hd
      exact (hc d ds hcolon rfl).elim
    rw [h.withoutOptions_cons, ih (h.concat hnext)]
    rfl

/-! ### From templates to patterns -/

/-- A template in the spelling of a pattern: a colon for each opening brace, and no closing braces. -/
def withColons (template : List Char) : List Char :=
  (template.filter (· != '\x7d')).map fun c => if c = '\x7b' then ':' else c

theorem withColons_append (cs ds : List Char) :
    withColons (cs ++ ds) = withColons cs ++ withColons ds := by
  rw [withColons, List.filter_append, List.map_append]
  rfl

theorem withColons_of_not_mem {cs : List Char} (h : '\x7b' ∉ cs ∧ '\x7d' ∉ cs) :
    withColons cs = cs := by
  have hfilter : cs.filter (· != '\x7d') = cs :=
    List.filter_eq_self.mpr fun c hc => by simpa using fun heq : c = '\x7d' => h.2 (heq ▸ hc)
  have hmap : ∀ c ∈ cs, (if c = '\x7b' then ':' else c) = c :=
    fun c hc => if_neg fun heq : c = '\x7b' => h.1 (heq ▸ hc)
  rw [withColons, hfilter, List.map_congr_left hmap, List.map_id']

/-- The template of a piece without braces of its own is read back as the piece. -/
theorem withColons_template {p : Piece} (h : '\x7b' ∉ p.pattern ∧ '\x7d' ∉ p.pattern) :
    withColons p.template = p.pattern := by
  cases p with
  | char c => exact withColons_of_not_mem h
  | param name =>
    have hname : '\x7b' ∉ name ∧ '\x7d' ∉ name :=
      ⟨List.not_mem_of_not_mem_cons h.1, List.not_mem_of_not_mem_cons h.2⟩
    change withColons (['\x7b'] ++ name ++ ['\x7d']) = [':'] ++ name
    rw [withColons_append, withColons_append, withColons_of_not_mem hname]
    simp [withColons]

theorem withColons_flatMap_template {ps : List Piece}
    (h : '\x7b' ∉ ps.flatMap Piece.pattern ∧ '\x7d' ∉ ps.flatMap Piece.pattern) :
    withColons (ps.flatMap Piece.template) = ps.flatMap Piece.pattern := by
  induction ps with
  | nil => rfl
  | cons p ps ih =>
    simp only [List.flatMap_cons, List.mem_append, not_or] at h ⊢
    rw [withColons_append, withColons_template ⟨h.1.1, h.2.1⟩, ih ⟨h.1.2, h.2.2⟩]

/-- A path without braces. -/
def IsBraceless (path : String) : Prop := '\x7b' ∉ path.toList ∧ '\x7d' ∉ path.toList

instance (path : String) : Decidable (IsBraceless path) := inferInstanceAs (Decidable (_ ∧ _))

/-- **A template with colons for braces is its pattern** without the question marks of optional
parameters. -/
theorem withColons_pathTemplate {path : String} (h : IsBraceless path) :
    withColons (pathTemplate path).toList = withoutOptions [] path.toList := by
  have hpieces := (isSeam_nil path.toList).withoutOptions_eq
  have hsubset := withoutOptions_subset [] path.toList
  rw [hpieces] at hsubset ⊢
  rw [pathTemplate, String.toList_ofList]
  exact withColons_flatMap_template ⟨fun hmem => h.1 (hsubset hmem), fun hmem => h.2 (hsubset hmem)⟩

/-- A path without braces and question marks. -/
def IsPlainPattern (path : String) : Prop := IsBraceless path ∧ '?' ∉ path.toList

instance (path : String) : Decidable (IsPlainPattern path) := inferInstanceAs (Decidable (_ ∧ _))

/-- A plain pattern is read back from its template. -/
theorem IsPlainPattern.withColons_eq {path : String} (h : IsPlainPattern path) :
    withColons (pathTemplate path).toList = path.toList := by
  rw [withColons_pathTemplate h.1, withoutOptions_of_not_mem h.2]

/-- Plain patterns with one template are one pattern. -/
theorem eq_of_pathTemplate_eq {p q : String} (hp : IsPlainPattern p) (hq : IsPlainPattern q)
    (h : pathTemplate p = pathTemplate q) : p = q := by
  have hchars : p.toList = q.toList := by
    rw [← hp.withColons_eq, h, hq.withColons_eq]
  exact String.toList_inj.mp hchars

end RouteAtlas
