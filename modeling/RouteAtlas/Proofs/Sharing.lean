import Mathlib.Data.List.Basic
import RouteAtlas.Document.Fragment
import RouteAtlas.Proofs.Table

/-!
# Rewriting operations in place

The operations of a fragment are rewritten one after the other, and one of them may stand inside
another: an alias makes two places of one map. What a reader sees afterwards is told by
`Shared.value`. One step of the rewriting either changes a marked map in all places or an unmarked one
in its only place (`Touches`), and all that is known about a run follows from that by
induction on the number of steps:

* the keys, the marks and the tags of the operations stay (`map_outline_rewriteFirst`), so whether a
  fragment is accepted does not depend on the rewriting;
* in the end all operations have texts as response codes (`isTextCoded_rewriteFirst`);
* an operation **in which no operation stands** is rewritten once and alone, and a reader sees
  `Members.withTextCodes` of what was there before (`exists_getElem?_rewriteFirst`).
-/

namespace RouteAtlas

/-! ### Members and what is seen of them -/

namespace Members

/-- The members of an operation, with the keys of its responses turned into texts if these are a
map. -/
def withTextCodes (operation : Members) : Members :=
  match find? operation "responses" with
  | some (.map responses) =>
    put operation "responses" (.map (ofList (responses.map fun r => (.text r.1.display, r.2))))
  | _ => operation

theorem withTextCodes_of_find? {operation responses : Members}
    (h : find? operation "responses" = some (.map responses)) :
    withTextCodes operation = put operation "responses"
      (.map (ofList (responses.map fun r => (.text r.1.display, r.2)))) := by
  rw [withTextCodes, h]

theorem withTextCodes_of_forall_ne {operation : Members}
    (h : ∀ responses, find? operation "responses" ≠ some (.map responses)) :
    withTextCodes operation = operation := by
  rw [withTextCodes]
  split
  · rename_i responses hresponses
    exact absurd hresponses (h responses)
  · rfl

/-- Texts are turned into themselves. -/
theorem withTextCodes_withTextCodes (operation : Members) :
    withTextCodes (withTextCodes operation) = withTextCodes operation := by
  by_cases h : ∃ responses, find? operation "responses" = some (.map responses)
  · obtain ⟨responses, hresponses⟩ := h
    have hentries : ∀ e ∈ responses.map fun r => (Scalar.text r.1.display, r.2),
        ∃ name, e.1 = .text name := List.forall_mem_map.mpr fun r _ => ⟨_, rfl⟩
    rw [withTextCodes_of_find? hresponses, withTextCodes_of_find? (find?_put_self _ _ _), put_put_self]
    generalize hcodes : ofList (responses.map fun r => (Scalar.text r.1.display, r.2)) = codes
    have htexts : ∀ r ∈ codes, ∃ name, r.1 = .text name :=
      fun r hr => mem_ofList_text hentries (hcodes ▸ hr)
    have hsame : codes.map (fun r => (Scalar.text r.1.display, r.2)) = codes := by
      refine (List.map_congr_left fun r hr => ?_).trans (List.map_id' codes)
      obtain ⟨name, hname⟩ := htexts r hr
      have hdisplay : (Scalar.text name).display = name := rfl
      exact Prod.ext (by rw [hname, hdisplay]) rfl
    rw [hsame, ofList_of_nodup htexts (hcodes ▸ nodup_ofList fun r hr => htexts r (hcodes ▸ hr))]
  · have hnone := withTextCodes_of_forall_ne fun responses hresponses => h ⟨responses, hresponses⟩
    rw [hnone, hnone]

end Members

namespace Shared

theorem values_eq_map (xs : List Shared) : values xs = xs.map value := by
  induction xs with
  | nil => rfl
  | cons x xs ih => rw [values, ih, List.map_cons]

theorem memberValues_eq_map (ms : List (Scalar × Shared)) :
    memberValues ms = ms.map fun m => (m.1, m.2.value) := by
  induction ms with
  | nil => rfl
  | cons m ms ih =>
    obtain ⟨k, x⟩ := m
    rw [memberValues, ih, List.map_cons]

theorem changeMembers_eq_map (m : Mark) (f : List (Scalar × Shared) → List (Scalar × Shared))
    (ms : List (Scalar × Shared)) :
    changeMembers m f ms = ms.map fun o => (o.1, o.2.change m f) := by
  induction ms with
  | nil => rfl
  | cons o ms ih =>
    obtain ⟨k, x⟩ := o
    rw [changeMembers, ih, List.map_cons]

theorem changeItems_eq_map (m : Mark) (f : List (Scalar × Shared) → List (Scalar × Shared))
    (xs : List Shared) : changeItems m f xs = xs.map (change m f) := by
  induction xs with
  | nil => rfl
  | cons x xs ih => rw [changeItems, ih, List.map_cons]

theorem find?_memberValues (ms : List (Scalar × Shared)) (name : String) :
    Members.find? (memberValues ms) name = (Members.find? ms name).map value := by
  rw [memberValues_eq_map, Members.find?_map]

theorem find?_changeMembers (m : Mark) (f : List (Scalar × Shared) → List (Scalar × Shared))
    (ms : List (Scalar × Shared)) (name : String) :
    Members.find? (changeMembers m f ms) name = (Members.find? ms name).map (change m f) := by
  rw [changeMembers_eq_map, Members.find?_map]

/-- What is seen of an operation that was rewritten. -/
theorem memberValues_withTextCodes (ms : List (Scalar × Shared)) :
    memberValues (withTextCodes ms) = Members.withTextCodes (memberValues ms) := by
  rw [Members.withTextCodes, find?_memberValues, RouteAtlas.withTextCodes]
  cases h : Members.find? ms "responses" with
  | none => rfl
  | some x =>
    cases x with
    | map mark responses =>
      simp only [Option.map_some, value, memberValues_eq_map, Members.put, Members.insert_map,
        Members.ofList_map, List.map_map]
      rfl
    | _ => simp only [Option.map_some, value]

/-! ### Marks -/

/-- The mark of a map; nothing if it is no map. -/
def mark? : Shared → Option (Option Mark)
  | .map mark _ => some mark
  | _ => none

mutual

/-- The marks of all maps in a value. -/
def marks : Shared → List Mark
  | .scalar _ => []
  | .set _ => []
  | .pair a b => a.marks ++ b.marks
  | .list xs => itemMarks xs
  | .map mark ms => mark.toList ++ memberMarks ms

/-- The marks in the items of a list. -/
def itemMarks : List Shared → List Mark
  | [] => []
  | x :: xs => x.marks ++ itemMarks xs

/-- The marks in the members of a map. -/
def memberMarks : List (Scalar × Shared) → List Mark
  | [] => []
  | (_, x) :: ms => x.marks ++ memberMarks ms

end

theorem mem_memberMarks_iff {m : Mark} {ms : List (Scalar × Shared)} :
    m ∈ memberMarks ms ↔ ∃ o ∈ ms, m ∈ o.2.marks := by
  induction ms with
  | nil => simp [memberMarks]
  | cons o ms ih =>
    obtain ⟨k, x⟩ := o
    rw [memberMarks, List.mem_append, ih]
    simp

mutual

/-- A map that does not stand in a value is not changed in it. -/
theorem change_of_not_mem {m : Mark} {f : List (Scalar × Shared) → List (Scalar × Shared)}
    (s : Shared) (h : m ∉ s.marks) : s.change m f = s := by
  cases s with
  | scalar s => rw [change]
  | set ks => rw [change]
  | pair a b =>
    rw [marks, List.mem_append, not_or] at h
    rw [change, change_of_not_mem a h.1, change_of_not_mem b h.2]
  | list xs =>
    rw [marks] at h
    rw [change, changeItems_of_not_mem xs h]
  | map mark ms =>
    rw [marks, List.mem_append, not_or, Option.mem_toList] at h
    rw [change, if_neg h.1, changeMembers_of_not_mem ms h.2]

theorem changeItems_of_not_mem {m : Mark} {f : List (Scalar × Shared) → List (Scalar × Shared)}
    (xs : List Shared) (h : m ∉ itemMarks xs) : changeItems m f xs = xs := by
  cases xs with
  | nil => rw [changeItems]
  | cons x xs =>
    rw [itemMarks, List.mem_append, not_or] at h
    rw [changeItems, change_of_not_mem x h.1, changeItems_of_not_mem xs h.2]

theorem changeMembers_of_not_mem {m : Mark} {f : List (Scalar × Shared) → List (Scalar × Shared)}
    (ms : List (Scalar × Shared)) (h : m ∉ memberMarks ms) : changeMembers m f ms = ms := by
  cases ms with
  | nil => rw [changeMembers]
  | cons o ms =>
    obtain ⟨k, x⟩ := o
    rw [memberMarks, List.mem_append, not_or] at h
    rw [changeMembers, change_of_not_mem x h.1, changeMembers_of_not_mem ms h.2]

end

theorem mark?_change (m : Mark) (f : List (Scalar × Shared) → List (Scalar × Shared)) (s : Shared) :
    (s.change m f).mark? = s.mark? := by
  cases s <;> rw [change] <;> rfl

end Shared

/-! ### Response codes -/

theorem withTextCodes_cases (ms : List (Scalar × Shared)) :
    (∃ mark responses, Members.find? ms "responses" = some (.map mark responses) ∧
      withTextCodes ms = Members.put ms "responses"
        (.map none (Members.ofList (responses.map fun r => (.text r.1.display, r.2))))) ∨
    (∀ mark responses, Members.find? ms "responses" ≠ some (.map mark responses)) ∧
      withTextCodes ms = ms := by
  rw [withTextCodes]
  split
  · rename_i mark responses hresponses
    exact .inl ⟨mark, responses, hresponses, rfl⟩
  · rename_i hnone
    exact .inr ⟨hnone, rfl⟩

/-- Rewriting an operation brings no maps into it. -/
theorem memberMarks_withTextCodes {m : Mark} {ms : List (Scalar × Shared)}
    (h : m ∈ Shared.memberMarks (withTextCodes ms)) : m ∈ Shared.memberMarks ms := by
  rcases withTextCodes_cases ms with ⟨mark, responses, hresponses, heq⟩ | ⟨-, heq⟩
  · rw [heq, Shared.mem_memberMarks_iff] at h
    obtain ⟨o, ho, hm⟩ := h
    rcases Members.mem_put ho with rfl | ho
    · -- The new responses have the values of the old ones.
      rw [Shared.marks, Option.toList_none, List.nil_append, Shared.mem_memberMarks_iff] at hm
      obtain ⟨r, hr, hm⟩ := hm
      obtain ⟨e, he, hvalue⟩ := Members.exists_mem_of_mem_ofList hr
      obtain ⟨r', hr', rfl⟩ := List.mem_map.mp he
      refine Shared.mem_memberMarks_iff.mpr ⟨_, Members.mem_of_find? hresponses, ?_⟩
      rw [Shared.marks, List.mem_append, Shared.mem_memberMarks_iff]
      exact .inr ⟨r', hr', hvalue ▸ hm⟩
    · exact Shared.mem_memberMarks_iff.mpr ⟨o, ho, hm⟩
  · rwa [heq] at h

/-- Members whose responses, if they are a map, have texts as keys. -/
def IsTextCoded (ms : List (Scalar × Shared)) : Prop :=
  ∀ mark responses, Members.find? ms "responses" = some (.map mark responses) →
    ∀ r ∈ responses, ∃ code, r.1 = .text code

theorem isTextCoded_withTextCodes (ms : List (Scalar × Shared)) : IsTextCoded (withTextCodes ms) := by
  intro mark responses hresponses
  rcases withTextCodes_cases ms with ⟨mark', codes, -, heq⟩ | ⟨hnone, heq⟩
  · rw [heq, Members.find?_put_self, Option.some.injEq, Shared.map.injEq] at hresponses
    rw [← hresponses.2]
    exact fun r hr => Members.mem_ofList_text (List.forall_mem_map.mpr fun r _ => ⟨_, rfl⟩) hr
  · rw [heq] at hresponses
    exact absurd hresponses (hnone mark responses)

/-- Texts as response codes stay when a map inside is rewritten. -/
theorem IsTextCoded.changeMembers {ms : List (Scalar × Shared)} (h : IsTextCoded ms) (m : Mark) :
    IsTextCoded (Shared.changeMembers m withTextCodes ms) := by
  intro mark responses hresponses
  rw [Shared.find?_changeMembers, Option.map_eq_some_iff] at hresponses
  obtain ⟨x, hx, hchange⟩ := hresponses
  cases x with
  | map mark' responses' =>
    have hcodes : ∀ r ∈ Shared.changeMembers m withTextCodes responses', ∃ code, r.1 = .text code := by
      rw [Shared.changeMembers_eq_map]
      exact List.forall_mem_map.mpr (h mark' responses' hx)
    rw [Shared.change, Shared.map.injEq] at hchange
    rw [← hchange.2]
    split_ifs
    · rcases withTextCodes_cases (Shared.changeMembers m withTextCodes responses') with
        ⟨_, _, -, heq⟩ | ⟨-, heq⟩
      · rw [heq]
        intro r hr
        rcases Members.mem_put hr with rfl | hr
        · exact ⟨_, rfl⟩
        · exact hcodes r hr
      · rwa [heq]
    · exact hcodes
  | _ => rw [Shared.change] at hchange; cases hchange

/-! ### Steps -/

/-- What the step that rewrites one operation does to another, or to itself. -/
inductive Touches (operations : List (Scalar × Shared)) (i j : Nat) : Shared → Shared → Prop
  /-- The operation has a mark and is rewritten wherever it stands. -/
  | everywhere {m : Mark} {s : Shared}
      (hmark : ∃ key ms, operations[i]? = some (key, .map (some m) ms))
      (hself : j = i → s.mark? = some (some m)) : Touches operations i j s (s.change m withTextCodes)
  /-- The operation has no mark and stands only here. -/
  | here {ms : List (Scalar × Shared)} (hself : j = i) :
      Touches operations i j (.map none ms) (.map none (withTextCodes ms))
  /-- It is not touched. -/
  | kept {s : Shared} (hself : j = i → s.mark? = none) : Touches operations i j s s

theorem exists_of_getElem?_rewriteAt {operations : List (Scalar × Shared)} {i j : Nat}
    {o : Scalar × Shared} (h : (rewriteAt operations i)[j]? = some o) :
    ∃ s, operations[j]? = some (o.1, s) ∧ Touches operations i j s o.2 := by
  rw [rewriteAt] at h
  -- A marked map is changed wherever it stands, another one only in its own place.
  split at h
  · rename_i key m ms hi
    rw [List.getElem?_map, Option.map_eq_some_iff] at h
    obtain ⟨o', ho', rfl⟩ := h
    refine ⟨o'.2, ho', .everywhere ⟨key, ms, hi⟩ ?_⟩
    rintro rfl
    rw [Option.some.inj (ho'.symm.trans hi)]
    rfl
  · rename_i key ms hi
    by_cases hij : j = i
    · subst hij
      have hlt : j < operations.length := (List.getElem?_eq_some_iff.mp hi).1
      rw [List.getElem?_set_self hlt, Option.some.injEq] at h
      rw [← h]
      exact ⟨_, hi, .here rfl⟩
    · rw [List.getElem?_set_ne (Ne.symm hij)] at h
      exact ⟨o.2, h, .kept fun h => absurd h hij⟩
  · rename_i hmarked hunmarked
    refine ⟨o.2, h, .kept ?_⟩
    rintro rfl
    cases hs : o.2 with
    | map mark ms =>
      have ho : operations[j]? = some (o.1, .map mark ms) := by rw [h, ← hs]
      cases mark with
      | none => exact absurd ho (hunmarked o.1 ms)
      | some m => exact absurd ho (hmarked o.1 m ms)
    | _ => rfl

theorem length_rewriteAt (operations : List (Scalar × Shared)) (i : Nat) :
    (rewriteAt operations i).length = operations.length := by
  rw [rewriteAt]
  split <;> simp

theorem length_rewriteFirst (operations : List (Scalar × Shared)) (n : Nat) :
    (rewriteFirst operations n).length = operations.length := by
  induction n with
  | zero => rfl
  | succ n ih => rw [rewriteFirst, length_rewriteAt, ih]

theorem Touches.mark?_eq {operations : List (Scalar × Shared)} {i j : Nat} {s s' : Shared}
    (h : Touches operations i j s s') : s'.mark? = s.mark? := by
  cases h with
  | everywhere => exact Shared.mark?_change ..
  | here => rfl
  | kept => rfl

/-- **What holds of every run of the rewriting**: a relation between what an operation was and what it
has become that every step keeps. -/
theorem rewriteFirst_induction {operations : List (Scalar × Shared)}
    {P : Nat → Nat → Shared → Shared → Prop} (hstart : ∀ j s, P 0 j s s)
    (hstep : ∀ n j s s' s'', P n j s s' → Touches operations n j s' s'' → P (n + 1) j s s'')
    {n j : Nat} {o : Scalar × Shared} (h : (rewriteFirst operations n)[j]? = some o) :
    ∃ s, operations[j]? = some (o.1, s) ∧ o.2.mark? = s.mark? ∧ P n j s o.2 := by
  induction n generalizing j o with
  | zero => exact ⟨o.2, h, rfl, hstart j o.2⟩
  | succ n ih =>
    obtain ⟨key, s''⟩ := o
    rw [rewriteFirst] at h
    obtain ⟨s', hs', htouches⟩ := exists_of_getElem?_rewriteAt h
    obtain ⟨s, hs, hmark, hP⟩ := ih hs'
    refine ⟨s, hs, htouches.mark?_eq.trans hmark, hstep n j s s' s'' hP ?_⟩
    -- The marks are those of the beginning, so the step can be told from there.
    cases htouches with
    | everywhere hm hself =>
      refine .everywhere ?_ hself
      obtain ⟨key, ms, hi⟩ := hm
      obtain ⟨t, ht, hmark, -⟩ := ih hi
      cases t with
      | map mark ms' =>
        obtain rfl : some _ = mark := Option.some.inj hmark
        exact ⟨key, ms', ht⟩
      | _ => cases hmark
    | here hself => exact .here hself
    | kept hself => exact .kept hself

/-! ### What a run leaves -/

section Run

variable {operations : List (Scalar × Shared)}

/-- A step gives texts as response codes to the operation that it rewrites, and takes them from no
other. -/
theorem Touches.isTextCoded {n j : Nat} {s s' : Shared} (h : Touches operations n j s s')
    (hs : j < n → ∀ mark ms, s = .map mark ms → IsTextCoded ms) (hj : j < n + 1) :
    ∀ mark ms, s' = .map mark ms → IsTextCoded ms := by
  rintro mark ms rfl
  generalize heq : Shared.map mark ms = s' at h
  cases h with
  | @everywhere m _ hmark hself =>
    cases s with
    | map mark' ms' =>
      rw [Shared.change, Shared.map.injEq] at heq
      obtain ⟨rfl, rfl⟩ := heq
      split_ifs with hm
      · exact isTextCoded_withTextCodes _
      · -- It is not the operation of this step, so it is one of those before.
        have hne : j ≠ n := fun hjn => hm (Option.some.inj (hself hjn))
        have hlt : j < n := by omega
        exact (hs hlt mark ms' rfl).changeMembers m
    | _ => rw [Shared.change] at heq; cases heq
  | here hself =>
    rw [(Shared.map.inj heq).2]
    exact isTextCoded_withTextCodes _
  | kept hself =>
    have hne : j ≠ n := fun hjn => by
      have hnone := hself hjn
      rw [← heq] at hnone
      cases hnone
    exact hs (by omega) mark ms heq.symm

/-- **All operations have texts as response codes in the end.** -/
theorem isTextCoded_rewriteFirst {key : Scalar} {mark : Option Mark} {ms : List (Scalar × Shared)}
    (h : (key, .map mark ms) ∈ rewriteFirst operations operations.length) : IsTextCoded ms := by
  obtain ⟨j, hj⟩ := List.getElem?_of_mem h
  have hlt : j < operations.length := by
    rw [← length_rewriteFirst operations operations.length]
    exact (List.getElem?_eq_some_iff.mp hj).1
  obtain ⟨-, -, -, hcoded⟩ := rewriteFirst_induction
    (P := fun n j _ s => j < n → ∀ mark ms, s = .map mark ms → IsTextCoded ms)
    (fun j _ hj => absurd hj (Nat.not_lt_zero j))
    (fun _ _ _ _ _ hs htouches hj => htouches.isTextCoded hs hj) hj
  exact hcoded hlt mark ms rfl

/-- What is kept of an operation: its mark and its tags. -/
def outline (o : Scalar × Shared) : Scalar × Option (Option Mark) × List String :=
  (o.1, o.2.mark?, Document.textTags o.2.value)

theorem text?_value_change (m : Mark) (s : Shared) :
    (s.change m withTextCodes).value.text? = s.value.text? := by
  cases s <;> rw [Shared.change] <;> rfl

theorem textTags_value_map (mark : Option Mark) (ms : List (Scalar × Shared)) :
    Document.textTags (Shared.map mark ms).value =
      match Members.find? ms "tags" with
      | some (.list xs) => xs.filterMap fun x => x.value.text?
      | _ => [] := by
  rw [Shared.value, Document.textTags, Shared.find?_memberValues]
  cases Members.find? ms "tags" with
  | none => rfl
  | some x =>
    cases x with
    | list xs =>
      rw [Option.map_some, Shared.value, Shared.values_eq_map]
      exact List.filterMap_map
    | _ => rfl

theorem textTags_withTextCodes (mark : Option Mark) (ms : List (Scalar × Shared)) :
    Document.textTags (Shared.map mark (withTextCodes ms)).value =
      Document.textTags (Shared.map mark ms).value := by
  have hfind : Members.find? (withTextCodes ms) "tags" = Members.find? ms "tags" := by
    rcases withTextCodes_cases ms with ⟨_, _, -, heq⟩ | ⟨-, heq⟩
    · rw [heq, Members.find?_put_of_ne (by decide)]
    · rw [heq]
  rw [textTags_value_map, textTags_value_map, hfind]

theorem textTags_change (m : Mark) (s : Shared) :
    Document.textTags (s.change m withTextCodes).value = Document.textTags s.value := by
  cases s with
  | map mark ms =>
    have hchange : Document.textTags (Shared.map mark (Shared.changeMembers m withTextCodes ms)).value =
        Document.textTags (Shared.map mark ms).value := by
      rw [textTags_value_map, textTags_value_map, Shared.find?_changeMembers]
      cases Members.find? ms "tags" with
      | none => rfl
      | some x =>
        cases x with
        | list xs =>
          rw [Option.map_some, Shared.change, Shared.changeItems_eq_map]
          simp only [List.filterMap_map]
          exact congrArg (List.filterMap · xs) (funext (text?_value_change m))
        | _ => rfl
    rw [Shared.change]
    split_ifs
    · rw [textTags_withTextCodes, hchange]
    · exact hchange
  | _ => rfl

theorem Touches.textTags_eq {i j : Nat} {s s' : Shared} (h : Touches operations i j s s') :
    Document.textTags s'.value = Document.textTags s.value := by
  cases h with
  | everywhere => exact textTags_change ..
  | here => exact textTags_withTextCodes ..
  | kept => rfl

/-- **Keys, marks and tags stay**, in their order. -/
theorem map_outline_rewriteFirst (n : Nat) :
    (rewriteFirst operations n).map outline = operations.map outline := by
  refine List.ext_getElem? fun j => ?_
  rw [List.getElem?_map, List.getElem?_map]
  cases hj : (rewriteFirst operations n)[j]? with
  | none =>
    rw [List.getElem?_eq_none_iff, length_rewriteFirst, ← List.getElem?_eq_none_iff] at hj
    rw [hj]
  | some o =>
    obtain ⟨s, hs, hmark, htags⟩ := rewriteFirst_induction
      (P := fun _ _ s s' => Document.textTags s'.value = Document.textTags s.value)
      (fun _ _ => rfl) (fun _ _ _ _ _ htags htouches => htouches.textTags_eq.trans htags) hj
    rw [hs, Option.map_some, Option.map_some, outline, outline, hmark, htags]

/-- No operation stands inside some members. -/
def HoldsNone (operations ms : List (Scalar × Shared)) : Prop :=
  ∀ o ∈ operations, ∀ m, o.2.mark? = some (some m) → m ∉ Shared.memberMarks ms

/-- An operation as it was, or rewritten once. -/
structure IsStage (n j : Nat) (ms ms' : List (Scalar × Shared)) : Prop where
  /-- No maps have come into it. -/
  marks : ∀ m ∈ Shared.memberMarks ms', m ∈ Shared.memberMarks ms
  /-- Those before the next one to be rewritten are rewritten, and others may be. -/
  values : Shared.memberValues ms' = Members.withTextCodes (Shared.memberValues ms) ∨
    n ≤ j ∧ Shared.memberValues ms' = Shared.memberValues ms

theorem IsStage.rewrite {n j : Nat} {ms ms' : List (Scalar × Shared)} (h : IsStage n j ms ms') :
    IsStage (n + 1) j ms (withTextCodes ms') where
  marks m hm := h.marks m (memberMarks_withTextCodes hm)
  values := by
    left
    rw [Shared.memberValues_withTextCodes]
    rcases h.values with hvalues | ⟨-, hvalues⟩
    · rw [hvalues, Members.withTextCodes_withTextCodes]
    · rw [hvalues]

theorem IsStage.keep {n j : Nat} {ms ms' : List (Scalar × Shared)} (h : IsStage n j ms ms')
    (hne : j ≠ n) : IsStage (n + 1) j ms ms' where
  marks := h.marks
  values := h.values.imp id fun ⟨hle, hvalues⟩ => ⟨by omega, hvalues⟩

/-- A step either rewrites an operation in which no operation stands, or leaves it as it is. -/
theorem Touches.isStage {n j : Nat} {mark : Option Mark} {ms ms' : List (Scalar × Shared)} {s : Shared}
    (h : Touches operations n j (.map mark ms') s) (hms : IsStage n j ms ms')
    (hapart : ∀ m key ms', operations[n]? = some (key, .map (some m) ms') →
      m ∉ Shared.memberMarks ms) :
    ∃ ms'', s = .map mark ms'' ∧ IsStage (n + 1) j ms ms'' := by
  cases h with
  | @everywhere m _ hmark hself =>
    obtain ⟨key, ops, hn⟩ := hmark
    have houtside : m ∉ Shared.memberMarks ms' := fun hm => hapart m key ops hn (hms.marks m hm)
    rw [Shared.change, Shared.changeMembers_of_not_mem ms' houtside]
    refine ⟨_, rfl, ?_⟩
    split_ifs with hm
    · exact hms.rewrite
    · exact hms.keep fun hjn => hm (Option.some.inj (hself hjn))
  | here => exact ⟨_, rfl, hms.rewrite⟩
  | kept hself => exact ⟨ms', rfl, hms.keep fun hjn => by cases hself hjn⟩

/-- **An operation in which no operation stands is rewritten once and alone.** -/
theorem exists_getElem?_rewriteFirst {j : Nat} {key : Scalar} {mark : Option Mark}
    {ms : List (Scalar × Shared)} (hj : operations[j]? = some (key, .map mark ms))
    (hnone : HoldsNone operations ms) :
    ∃ ms', (rewriteFirst operations operations.length)[j]? = some (key, .map mark ms') ∧
      Shared.memberValues ms' = Members.withTextCodes (Shared.memberValues ms) := by
  have hlt : j < operations.length := (List.getElem?_eq_some_iff.mp hj).1
  obtain ⟨o, ho⟩ : ∃ o, (rewriteFirst operations operations.length)[j]? = some o :=
    ⟨_, List.getElem?_eq_getElem (by rwa [length_rewriteFirst])⟩
  obtain ⟨s, hs, -, hstage⟩ := rewriteFirst_induction
    (P := fun n j s s' => ∀ mark ms, s = .map mark ms → HoldsNone operations ms →
      ∃ ms', s' = .map mark ms' ∧ IsStage n j ms ms')
    (fun j s mark ms hs _ => ⟨ms, hs, fun _ hm => hm, .inr ⟨Nat.zero_le j, rfl⟩⟩)
    (fun n j s s' s'' hsofar htouches mark ms hs hms => by
      obtain ⟨ms', rfl, hstage⟩ := hsofar mark ms hs hms
      exact htouches.isStage hstage fun m key ops hn => hms _ (List.mem_of_getElem? hn) m rfl) ho
  obtain ⟨hkey, rfl⟩ := Prod.mk.inj (Option.some.inj (hs.symm.trans hj))
  obtain ⟨ms', hms', hstage⟩ := hstage mark ms rfl hnone
  refine ⟨ms', ?_, hstage.values.resolve_right fun h => Nat.not_le_of_lt hlt h.1⟩
  rw [ho, ← hkey, ← hms']

end Run

/-! ### Fragments -/

theorem Shared.eq_map_of_value {s : Shared} {ms : Members} (h : s.value = .map ms) :
    ∃ mark ms', s = .map mark ms' ∧ memberValues ms' = ms := by
  cases s with
  | map mark ms' => exact ⟨mark, ms', rfl, by rwa [value, Value.map.injEq] at h⟩
  | _ => cases h

/-- What is seen as one path with operations is the rewritten form of one. -/
theorem exists_of_rewritten_eq {v : Shared} {key : Scalar} {ops : Members}
    (h : rewritten v = .map [(key, .map ops)]) :
    ∃ mark mark' operations, v = .map mark [(key, .map mark' operations)] ∧
      ops = Shared.memberValues (rewriteFirst operations operations.length) := by
  rw [rewritten.eq_def] at h
  split at h
  · rename_i mark key' mark' operations
    obtain ⟨hkey, hops⟩ := Prod.mk.inj (List.cons.inj (Value.map.inj h)).1
    exact ⟨mark, mark', operations, by rw [hkey], (Value.map.inj hops).symm⟩
  · rename_i hother
    obtain ⟨mark, ms, rfl, hms⟩ := Shared.eq_map_of_value h
    rw [Shared.memberValues_eq_map] at hms
    obtain ⟨o, rfl, ho⟩ := List.map_eq_singleton_iff.mp hms
    obtain ⟨mark', operations, hoperations, -⟩ := Shared.eq_map_of_value (congrArg Prod.snd ho)
    exact absurd (congrArg (fun s => Shared.map mark [(o.1, s)]) hoperations)
      (hother mark o.1 mark' operations)

end RouteAtlas
