import Mathlib.Data.List.Forall2
import Mathlib.Data.List.Induction
import Mathlib.Order.Nat

/-!
# Sequences of what is seen at places

Much of what the library collects is a sequence: things are seen at places, the places have an order,
and the list has what is seen at each of them, with **no place left out and none gone through twice**.
`InOrder` says so of a list. Sequences are built from the end: one is put behind another if all its
places come later (`InOrder.append`).
-/

namespace RouteAtlas

section InOrder

variable {β σ : Type} {r : β → β → Prop} {Sees Sees' : β → σ → Prop} {seen seen' : List σ}

/-- A list of what is seen at places, in the order of the places, in which no place is left out. -/
def InOrder (r : β → β → Prop) (Sees : β → σ → Prop) (seen : List σ) : Prop :=
  ∃ places : List β, places.Pairwise r ∧ (∀ p, p ∈ places ↔ ∃ s, Sees p s) ∧
    List.Forall₂ Sees places seen

theorem InOrder.congr (h : InOrder r Sees seen) (hiff : ∀ p s, Sees' p s ↔ Sees p s) :
    InOrder r Sees' seen := by
  obtain ⟨places, hsorted, hmem, hseen⟩ := h
  refine ⟨places, hsorted, fun p => ?_, hseen.imp fun p s => (hiff p s).mpr⟩
  simp only [hmem, hiff]

theorem inOrder_nil (h : ∀ p s, ¬Sees p s) : InOrder r Sees [] :=
  ⟨[], List.Pairwise.nil, fun p => by simpa using h p, List.Forall₂.nil⟩

/-- What is seen at one place, if anything is. -/
theorem inOrder_option (p : β) (s : Option σ) :
    InOrder r (fun q t => q = p ∧ s = some t) s.toList := by
  cases s with
  | none => exact inOrder_nil (by simp)
  | some s =>
    refine ⟨[p], List.pairwise_singleton r p, fun q => by simp, ?_⟩
    exact List.Forall₂.cons ⟨rfl, rfl⟩ List.Forall₂.nil

/-- Sequences are put one behind the other if their places are. -/
theorem InOrder.append (h : InOrder r Sees seen) (h' : InOrder r Sees' seen')
    (hbehind : ∀ p s q t, Sees p s → Sees' q t → r p q) :
    InOrder r (fun p s => Sees p s ∨ Sees' p s) (seen ++ seen') := by
  obtain ⟨places, hsorted, hmem, hseen⟩ := h
  obtain ⟨places', hsorted', hmem', hseen'⟩ := h'
  refine ⟨places ++ places', ?_, fun p => ?_, ?_⟩
  · refine List.pairwise_append.mpr ⟨hsorted, hsorted', fun p hp q hq => ?_⟩
    obtain ⟨s, hs⟩ := (hmem p).mp hp
    obtain ⟨t, ht⟩ := (hmem' q).mp hq
    exact hbehind p s q t hs ht
  · rw [List.mem_append, hmem, hmem', exists_or]
  · exact List.rel_append (hseen.imp fun _ _ => .inl) (hseen'.imp fun _ _ => .inr)

/-- Places may be renamed if that keeps their order. -/
theorem InOrder.rename {γ : Type} {r' : γ → γ → Prop} (h : InOrder r Sees seen) (f : β → γ)
    (hf : ∀ p q, r p q → r' (f p) (f q)) :
    InOrder r' (fun q s => ∃ p, f p = q ∧ Sees p s) seen := by
  obtain ⟨places, hsorted, hmem, hseen⟩ := h
  refine ⟨places.map f, List.pairwise_map.mpr (hsorted.imp fun hr => hf _ _ hr), fun q => ?_, ?_⟩
  · rw [List.mem_map]
    simp only [hmem]
    exact ⟨fun ⟨p, ⟨s, hs⟩, hp⟩ => ⟨s, p, hp, hs⟩, fun ⟨s, p, hp, hs⟩ => ⟨p, ⟨s, hs⟩, hp⟩⟩
  · exact List.forall₂_map_left_iff.mpr (hseen.imp fun p s hs => ⟨p, rfl, hs⟩)

end InOrder

theorem getElem?_concat_eq_some_iff {α : Type} {as : List α} {a b : α} {i : Nat} :
    (as ++ [a])[i]? = some b ↔ as[i]? = some b ∨ i = as.length ∧ a = b := by
  rcases lt_trichotomy i as.length with h | rfl | h
  · simp [List.getElem?_append_left h, h.ne]
  · simp
  · have hout : (as ++ [a]).length ≤ i := by rwa [List.length_append, List.length_singleton]
    simp [List.getElem?_eq_none h.le, List.getElem?_eq_none hout, h.ne']

/-- What a test that gives at most one result for each entry finds in a list. -/
theorem inOrder_filterMap {α σ : Type} (f : α → Option σ) (as : List α) :
    InOrder (· < ·) (fun (i : Nat) s => ∃ a, as[i]? = some a ∧ f a = some s) (as.filterMap f) := by
  induction as using List.reverseRecOn with
  | nil => exact inOrder_nil (by simp)
  | append_singleton as a ih =>
    have hone : List.filterMap f [a] = (f a).toList := by cases h : f a <;> simp [h]
    rw [List.filterMap_append, hone]
    refine (ih.append (inOrder_option as.length (f a)) ?_).congr fun i s => ?_
    · rintro i s j t ⟨b, hb, -⟩ ⟨rfl, -⟩
      exact (List.getElem?_eq_some_iff.mp hb).1
    · simp only [getElem?_concat_eq_some_iff, or_and_right, exists_or, and_assoc, exists_and_left,
        exists_eq_left']

end RouteAtlas
