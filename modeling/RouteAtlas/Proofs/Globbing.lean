import Mathlib.Data.List.Lex
import Mathlib.Data.String.Basic
import RouteAtlas.Files.Glob

/-!
# What patterns find

A name without wildcards matches itself only (`matchName_iff_eq`), and a star in front of such a
name asks for an end (`matchName_star_append_iff`). So a pattern that names some folders, then any
number of them, then a file is a condition on the front and on the last name of a place
(`matchParts_append_iff`, `matchParts_anyFolders_iff`). What is found is what matches one of the
patterns, each place once and in order (`exists_find`).
-/

namespace RouteAtlas

/-! ### The order of paths -/

/-- Names are compared one after the other, like the letters of words. -/
theorem Path.partsLe_iff {a b : List String} : Path.partsLe a b = true ↔ a = b ∨ a < b := by
  induction a generalizing b with
  | nil => cases b <;> simp [Path.partsLe]
  | cons x a ih =>
    cases b with
    | nil => simp [Path.partsLe]
    | cons y b =>
      rw [Path.partsLe, List.cons_lt_cons_iff]
      split_ifs with hxy
      · obtain rfl := eq_of_beq hxy
        simp [ih]
      · have hne : x ≠ y := fun h => hxy (beq_iff_eq.mpr h)
        simp [hne]

theorem Path.partsLe_trans (a b c : List String) (hab : Path.partsLe a b = true)
    (hbc : Path.partsLe b c = true) : Path.partsLe a c = true := by
  rw [Path.partsLe_iff] at hab hbc ⊢
  rcases hab with rfl | hab
  · exact hbc
  · rcases hbc with rfl | hbc
    · exact .inr hab
    · exact .inr (hab.trans hbc)

theorem Path.partsLe_total (a b : List String) :
    (Path.partsLe a b || Path.partsLe b a) = true := by
  rw [Bool.or_eq_true, Path.partsLe_iff, Path.partsLe_iff]
  rcases lt_trichotomy a b with h | h | h
  · exact .inl (.inr h)
  · exact .inl (.inl h)
  · exact .inr (.inr h)

/-- Places that are all different are sorted into strictly increasing order. -/
theorem pairwise_lt_mergeSort {places : List (List String)} (h : places.Nodup) :
    (places.mergeSort Path.partsLe).Pairwise (· < ·) := by
  have hsorted := List.pairwise_mergeSort Path.partsLe_trans Path.partsLe_total places
  have hnodup : (places.mergeSort Path.partsLe).Nodup :=
    (List.mergeSort_perm places Path.partsLe).nodup_iff.mpr h
  exact (hsorted.and hnodup).imp fun ⟨hle, hne⟩ => (Path.partsLe_iff.mp hle).resolve_left hne

namespace Glob

/-! ### Names -/

/-- Whether a name has no wildcards. -/
def IsLiteral (name : String) : Prop :=
  ∀ c ∈ name.toList, c ≠ '*' ∧ c ≠ '?' ∧ c ≠ '['

theorem piecesUpTo_of_literal {cs : List Char} (h : ∀ c ∈ cs, c ≠ '*' ∧ c ≠ '?' ∧ c ≠ '[')
    {fuel : Nat} (hfuel : cs.length ≤ fuel) : piecesUpTo fuel cs = cs.map .char := by
  -- Each character takes one unit of fuel, since none of them opens a set.
  induction cs generalizing fuel with
  | nil => cases fuel <;> rfl
  | cons c cs ih =>
    obtain _ | fuel := fuel
    · cases hfuel
    · obtain ⟨⟨hstar, hmark, hbracket⟩, hcs⟩ := List.forall_mem_cons.mp h
      have hrest := ih hcs (Nat.le_of_succ_le_succ hfuel)
      simp [piecesUpTo, hstar, hmark, hbracket, hrest]

theorem matchPieces_chars_iff {ds cs : List Char} :
    matchPieces (ds.map .char) cs = true ↔ cs = ds := by
  induction ds generalizing cs with
  | nil => simp [matchPieces]
  | cons d ds ih =>
    cases cs with
    | nil => simp [matchPieces]
    | cons c cs => simp [matchPieces, Piece.fits, ih]

theorem matchPieces_many_chars_iff {ds cs : List Char} :
    matchPieces (.many :: ds.map .char) cs = true ↔ ds <:+ cs := by
  induction cs with
  | nil => rw [matchPieces, matchPieces_chars_iff, List.suffix_nil, eq_comm]
  | cons c cs ih =>
    rw [matchPieces, Bool.or_eq_true, matchPieces_chars_iff, ih, List.suffix_cons_iff,
      eq_comm (a := c :: cs)]

/-- A name without wildcards matches itself only. -/
theorem matchName_iff_eq {pattern name : String} (h : IsLiteral pattern) :
    matchName pattern name = true ↔ name = pattern := by
  have hpieces : piecesOf pattern = pattern.toList.map .char :=
    piecesUpTo_of_literal h (String.length_toList.le.trans (Nat.le_succ _))
  rw [matchName, hpieces, matchPieces_chars_iff, String.toList_inj]

/-- A star in front of a name without wildcards asks for names that end in it. -/
theorem matchName_star_append_iff {stem name : String} (h : IsLiteral stem) :
    matchName ("*" ++ stem) name = true ↔ stem.toList <:+ name.toList := by
  have hlength : stem.toList.length ≤ ("*" ++ stem).length := by
    rw [String.length_toList, String.length_append]
    exact Nat.le_add_left _ _
  have hpieces : piecesOf ("*" ++ stem) = .many :: stem.toList.map .char := by
    rw [piecesOf, String.toList_append]
    exact congrArg _ (piecesUpTo_of_literal h hlength)
  rw [matchName, hpieces, matchPieces_many_chars_iff]

theorem IsLiteral.ne_anyFolders {name : String} (h : IsLiteral name) : name ≠ anyFolders := by
  rintro rfl
  exact (h '*' (by simp [anyFolders])).1 rfl

/-! ### Places -/

theorem matchParts_cons_of_literal {p : String} (h : IsLiteral p) {ps place : List String} :
    matchParts (p :: ps) place = true ↔ ∃ rest, place = p :: rest ∧ matchParts ps rest = true := by
  have hp : (p == anyFolders) = false := beq_eq_false_iff_ne.mpr h.ne_anyFolders
  cases place with
  | nil => simp [matchParts]
  | cons n ns =>
    rw [matchParts, if_neg (by simp [hp]), Bool.and_eq_true, matchName_iff_eq h]
    constructor
    · rintro ⟨rfl, hrest⟩
      exact ⟨ns, rfl, hrest⟩
    · rintro ⟨_, hplace, hrest⟩
      obtain ⟨rfl, rfl⟩ := List.cons.inj hplace
      exact ⟨rfl, hrest⟩

/-- Names without wildcards are the first names of the places that match. -/
theorem matchParts_append_iff {front : List String} (h : ∀ name ∈ front, IsLiteral name)
    {ps place : List String} :
    matchParts (front ++ ps) place = true ↔
      ∃ rest, place = front ++ rest ∧ matchParts ps rest = true := by
  induction front generalizing place with
  | nil => simp
  | cons p front ih =>
    obtain ⟨hp, hfront⟩ := List.forall_mem_cons.mp h
    rw [List.cons_append, matchParts_cons_of_literal hp]
    simp only [ih hfront, List.cons_append]
    constructor
    · rintro ⟨_, rfl, rest, rfl, hrest⟩
      exact ⟨rest, rfl, hrest⟩
    · rintro ⟨rest, rfl, hrest⟩
      exact ⟨_, rfl, rest, rfl, hrest⟩

theorem matchParts_singleton_iff {last : String} (h : last ≠ anyFolders) {place : List String} :
    matchParts [last] place = true ↔ ∃ name, place = [name] ∧ matchName last name = true := by
  have hlast : (last == anyFolders) = false := beq_eq_false_iff_ne.mpr h
  cases place with
  | nil => simp [matchParts]
  | cons n ns =>
    rw [matchParts, if_neg (by simp [hlast]), Bool.and_eq_true, matchParts, List.isEmpty_iff]
    constructor
    · rintro ⟨hmatch, rfl⟩
      exact ⟨n, rfl, hmatch⟩
    · rintro ⟨_, hplace, hmatch⟩
      obtain ⟨rfl, rfl⟩ := List.cons.inj hplace
      exact ⟨hmatch, rfl⟩

/-- Two stars and the pattern of a name are matched by the places whose last name matches, however
deep they are. -/
theorem matchParts_anyFolders_iff {last : String} (h : last ≠ anyFolders) {place : List String} :
    matchParts [anyFolders, last] place = true ↔
      ∃ folders name, place = folders ++ [name] ∧ matchName last name = true := by
  induction place with
  | nil => simp [matchParts]
  | cons n ns ih =>
    -- Either the stars stand for no folder, or for one and those that follow it.
    have hstep : matchParts [anyFolders, last] (n :: ns) = true ↔
        matchParts [last] (n :: ns) = true ∨ matchParts [anyFolders, last] ns = true := by
      rw [matchParts, if_pos (beq_self_eq_true _), Bool.or_eq_true]
    rw [hstep, matchParts_singleton_iff h, ih]
    constructor
    · rintro (⟨name, hname, hmatch⟩ | ⟨folders, name, rfl, hmatch⟩)
      · exact ⟨[], name, hname, hmatch⟩
      · exact ⟨n :: folders, name, rfl, hmatch⟩
    · rintro ⟨folders, name, hplace, hmatch⟩
      cases folders with
      | nil => exact .inl ⟨name, hplace, hmatch⟩
      | cons folder folders => exact .inr ⟨folders, name, (List.cons.inj hplace).2, hmatch⟩

/-! ### Files -/

theorem below?_eq_some_iff {folder place rest : List String} :
    below? folder place = some rest ↔ place = folder ++ rest := by
  induction folder generalizing place with
  | nil => simp [below?]
  | cons f folder ih =>
    cases place with
    | nil => simp [below?]
    | cons p place =>
      rw [below?, List.cons_append, List.cons.injEq]
      split_ifs with hfp
      · rw [ih, and_iff_right (eq_of_beq hfp).symm]
      · exact iff_of_false (by simp) fun h => hfp (beq_iff_eq.mpr h.1.symm)

theorem mem_filesBelow_iff {t : FileTree} {folder place : List String} :
    place ∈ filesBelow t folder ↔ ∃ content, (folder ++ place, Entry.file content) ∈ t.entries := by
  rw [filesBelow, List.mem_filterMap]
  constructor
  · rintro ⟨⟨full, entry⟩, hentry, hbelow⟩
    cases entry with
    | folder => cases hbelow
    | file content => exact ⟨content, below?_eq_some_iff.mp hbelow ▸ hentry⟩
  · rintro ⟨content, hentry⟩
    exact ⟨_, hentry, below?_eq_some_iff.mpr rfl⟩

theorem nodup_filesBelow {t : FileTree} (h : (t.entries.map Prod.fst).Nodup)
    (folder : List String) : (filesBelow t folder).Nodup := by
  refine (List.pairwise_map.mp h).filterMap _ ?_
  -- The place seen from the folder tells the whole place.
  rintro ⟨full, entry⟩ ⟨full', entry'⟩ hne place hplace place' hplace' rfl
  cases entry with
  | folder => cases hplace
  | file =>
    cases entry' with
    | folder => cases hplace'
    | file =>
      exact hne ((below?_eq_some_iff.mp hplace).trans (below?_eq_some_iff.mp hplace').symm)

/-- **What a search finds**: the files below the folder that match one of the patterns and are
below no skipped folder, each once and in order. -/
theorem exists_find {t : FileTree} (h : (t.entries.map Prod.fst).Nodup) (folder : List String)
    {patterns : List String} {parts : List (List String)}
    (hparts : patterns.mapM partsOf = .ok parts) :
    ∃ found, find t folder patterns = .ok found ∧ found.Pairwise (· < ·) ∧
      ∀ place, place ∈ found ↔ place ∈ filesBelow t folder ∧ skippedFolder ∉ place ∧
        ∃ p ∈ parts, matchParts p place = true := by
  refine ⟨_, by rw [find, hparts]; rfl, pairwise_lt_mergeSort ((nodup_filesBelow h folder).filter _),
    fun place => ?_⟩
  simp [List.mem_mergeSort]

end Glob

end RouteAtlas
