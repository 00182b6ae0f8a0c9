import Mathlib.Data.List.TakeWhile
import Mathlib.Tactic.SplitIfs
import RouteAtlas.Yaml.Lexer

/-!
# Moving through a YAML text

What the places in a text look like after moving over characters that are known: on a line the
column grows with every character (`Spot.advance_inline`), and a line end is read on its own
(`Spot.lineBreak_cons`). Readers take the longest run of characters of a class, which is a given run
if what follows it begins with something else (`Spot.span_append`).
-/

namespace RouteAtlas.Yaml

theorem isLineEnd_iff {c : Char} :
    isLineEnd c = true ↔ c = '\n' ∨ c = '\r' ∨ c = '\x85' ∨ c = '\u2028' ∨ c = '\u2029' := by
  simp [isLineEnd, or_assoc]

/-- A character that takes up a column. -/
def isInline (c : Char) : Bool := !isLineEnd c && c != '\uFEFF'

theorem isInline_iff {c : Char} : isInline c = true ↔ isLineEnd c = false ∧ c ≠ '\uFEFF' := by
  simp [isInline]

/-- A text that does not begin with a character of a class. -/
def StopsAt (p : Char → Bool) (cs : List Char) : Prop := ∀ c ∈ cs.head?, p c = false

@[simp]
theorem stopsAt_nil (p : Char → Bool) : StopsAt p [] := fun c hc => by cases hc

@[simp]
theorem stopsAt_cons_iff {p : Char → Bool} {c : Char} {cs : List Char} :
    StopsAt p (c :: cs) ↔ p c = false := by
  simp [StopsAt]

theorem StopsAt.imp {p q : Char → Bool} {cs : List Char} (hpq : ∀ c, q c = true → p c = true)
    (h : StopsAt p cs) : StopsAt q cs := by
  intro c hc
  cases hq : q c with
  | false => rfl
  | true => rw [← h c hc, hpq c hq]

theorem takeWhile_append_of_stopsAt {p : Char → Bool} {cs rest : List Char}
    (hcs : ∀ c ∈ cs, p c = true) (hrest : StopsAt p rest) : (cs ++ rest).takeWhile p = cs := by
  have hnone : rest.takeWhile p = [] := by
    cases rest with
    | nil => rfl
    | cons c rest => rw [List.takeWhile_cons, stopsAt_cons_iff.mp hrest]; rfl
  rw [List.takeWhile_append_of_pos hcs, hnone, List.append_nil]

namespace Spot

/-! ### Characters left -/

theorem rest_step (s : Spot) : s.step.rest = s.rest.drop 1 := by
  rw [step]
  split
  · rename_i hrest
    rw [hrest]
    rfl
  · rename_i c cs hrest
    rw [hrest]
    split_ifs <;> rfl

theorem rest_advance (n : Nat) (s : Spot) : (s.advance n).rest = s.rest.drop n := by
  induction n generalizing s with
  | zero => rfl
  | succ n ih => rw [advance, ih, rest_step, List.drop_drop, Nat.add_comm]

theorem advance_add (m n : Nat) (s : Spot) : s.advance (m + n) = (s.advance m).advance n := by
  induction m generalizing s with
  | zero => rw [Nat.zero_add]; rfl
  | succ m ih => rw [Nat.add_right_comm, advance, ih, advance]

theorem advance_one (s : Spot) : s.advance 1 = s.step := rfl

theorem line_le_line_step (s : Spot) : s.line ≤ s.step.line := by
  rw [step]
  split
  · exact Nat.le_refl _
  · split_ifs
    · exact Nat.le_refl _
    · exact Nat.le_succ _
    · exact Nat.le_refl _
    · exact Nat.le_refl _

theorem line_le_line_advance (n : Nat) (s : Spot) : s.line ≤ (s.advance n).line := by
  induction n generalizing s with
  | zero => exact Nat.le_refl _
  | succ n ih => exact (line_le_line_step s).trans (ih s.step)

/-! ### Known characters -/

theorem step_inline {c : Char} (h : isInline c = true) (cs : List Char) (i l k : Nat) :
    (⟨c :: cs, i, l, k⟩ : Spot).step = ⟨cs, i + 1, l, k + 1⟩ := by
  obtain ⟨hend, hmark⟩ := isInline_iff.mp h
  have hreturn : c ≠ '\r' := by
    rintro rfl
    cases hend
  simp [step, hend, hmark, hreturn]

/-- **On a line** the column grows with every character. -/
theorem advance_inline {cs : List Char} (h : ∀ c ∈ cs, isInline c = true) (rest : List Char)
    (i l k : Nat) :
    (⟨cs ++ rest, i, l, k⟩ : Spot).advance cs.length =
      ⟨rest, i + cs.length, l, k + cs.length⟩ := by
  induction cs generalizing i k with
  | nil => rfl
  | cons c cs ih =>
    obtain ⟨hc, hcs⟩ := List.forall_mem_cons.mp h
    rw [List.length_cons, advance, List.cons_append, step_inline hc, ih hcs]
    congr 1 <;> omega

theorem advance_replicate (n : Nat) (rest : List Char) (i l k : Nat) :
    (⟨List.replicate n ' ' ++ rest, i, l, k⟩ : Spot).advance n = ⟨rest, i + n, l, k + n⟩ := by
  have hinline : ∀ c ∈ List.replicate n ' ', isInline c = true := by
    intro c hc
    rw [List.eq_of_mem_replicate hc]
    decide
  have hadvance := advance_inline hinline rest i l k
  rwa [List.length_replicate] at hadvance

/-! ### Runs of characters -/

theorem span_append {p : Char → Bool} {s : Spot} {cs rest : List Char} (hs : s.rest = cs ++ rest)
    (hcs : ∀ c ∈ cs, p c = true) (hrest : StopsAt p rest) :
    s.span p = (cs, s.advance cs.length) := by
  rw [span, hs, takeWhile_append_of_stopsAt hcs hrest]

theorem skipWhile_append {p : Char → Bool} {s : Spot} {cs rest : List Char}
    (hs : s.rest = cs ++ rest) (hcs : ∀ c ∈ cs, p c = true) (hrest : StopsAt p rest) :
    s.skipWhile p = s.advance cs.length := by
  rw [skipWhile, hs, takeWhile_append_of_stopsAt hcs hrest]

theorem skipWhile_of_stopsAt {p : Char → Bool} {s : Spot} (h : StopsAt p s.rest) :
    s.skipWhile p = s :=
  skipWhile_append (List.nil_append s.rest).symm (fun _ hc => absurd hc List.not_mem_nil) h

theorem span_of_stopsAt {p : Char → Bool} {s : Spot} (h : StopsAt p s.rest) :
    s.span p = ([], s) :=
  span_append (List.nil_append s.rest).symm (fun _ hc => absurd hc List.not_mem_nil) h

theorem atLineEnd_cons {s : Spot} {c : Char} {cs : List Char} (hs : s.rest = c :: cs) :
    s.atLineEnd = isLineEnd c := by
  rw [atLineEnd, hs]
  rfl

theorem atLineEnd_of_stopsAt {s : Spot} (h : StopsAt isLineEnd s.rest) :
    (!s.rest.isEmpty && s.atLineEnd) = false := by
  cases hs : s.rest with
  | nil => rfl
  | cons c cs =>
    rw [hs, stopsAt_cons_iff] at h
    rw [atLineEnd_cons hs, h]
    rfl

/-- Nothing but a hyphen or a point begins a mark between documents. -/
theorem atSeparator_cons_of_ne {s : Spot} {c : Char} {cs : List Char} (hs : s.rest = c :: cs)
    (hhyphen : c ≠ '-') (hpoint : c ≠ '.') : s.atSeparator = false := by
  rw [atSeparator, hs]
  split
  · rename_i heq
    exact absurd (List.cons.inj heq).1 hhyphen
  · rename_i heq
    exact absurd (List.cons.inj heq).1 hpoint
  · rfl

/-- What a line end stands for. -/
def ofLineEnd (c : Char) : Char := if c == '\x85' then '\n' else c

theorem lineBreak_cons {s : Spot} {c : Char} {cs : List Char} (hs : s.rest = c :: cs)
    (hend : isLineEnd c = true) (hreturn : c ≠ '\r') : s.lineBreak = ([ofLineEnd c], s.step) := by
  rw [lineBreak, hs]
  rcases isLineEnd_iff.mp hend with rfl | rfl | rfl | rfl | rfl
  · rfl
  · exact absurd rfl hreturn
  · rfl
  · rfl
  · rfl

theorem lineBreak_of_stopsAt {s : Spot} (h : StopsAt isLineEnd s.rest) : s.lineBreak = ([], s) := by
  rw [lineBreak]
  split
  · rename_i hs
    rw [hs, stopsAt_cons_iff] at h
    cases h
  · rename_i c cs hs
    rw [hs, stopsAt_cons_iff, isLineEnd] at h
    simp only [Bool.or_eq_false_iff] at h
    obtain ⟨⟨⟨⟨hline, hreturn⟩, hnext⟩, hseparator⟩, hparagraph⟩ := h
    simp [hline, hreturn, hnext, hseparator, hparagraph]
  · rfl

end Spot

end RouteAtlas.Yaml
