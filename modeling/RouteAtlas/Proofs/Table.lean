import Mathlib.Tactic.SplitIfs
import Mathlib.Tactic.Tauto
import RouteAtlas.Value.Access

/-!
# Ordered tables

The laws of `Members` under text keys, and `Table`, a list of entries in the order of insertion
whose keys are of one type. A table keeps what `Members` cannot express: that the keys of a path
item are methods and its values operations. `Members.put_ofTable` and `Members.find?_ofTable` say
that a table written out as members behaves like the table, so a proof about a document can be a
proof about tables.

What a whole run of settings does to the order of the keys is said once, in `Members.keys_foldl`. The
one law about two keys is `Table.set_comm`: two entries may be set in either order **if one of the
keys is there already**. Two new keys may not, since the order of the entries would differ.
-/

namespace RouteAtlas

/-- Steps that each only add at the end do so as a whole. -/
theorem prefix_foldl {α β : Type} {f : List α → β → List α} (h : ∀ l b, l <+: f l b) (l : List α)
    (bs : List β) : l <+: bs.foldl f l := by
  induction bs generalizing l with
  | nil => exact List.prefix_rfl
  | cons b bs ih => exact (h l b).trans (ih _)

/-- A text is the same key as an equal text and as nothing else. -/
theorem Scalar.same_text_iff {a : Scalar} {name : String} :
    a.same (.text name) = true ↔ a = .text name := by
  cases a with
  | text s => rw [Scalar.same_text_text, beq_iff_eq, Scalar.text.injEq]
  | _ => simp [Scalar.same, Scalar.integer?]

namespace Members

/-! ### Members under text keys -/

variable {α : Type}

@[simp]
theorem find?_nil (name : String) : find? ([] : List (Scalar × α)) name = none := rfl

theorem find?_cons (m : Scalar × α) (ms : List (Scalar × α)) (name : String) :
    find? (m :: ms) name = if m.1.same (.text name) then some m.2 else find? ms name := by
  simp only [find?, get?, List.find?_cons]
  cases m.1.same (.text name) <;> rfl

theorem put_cons (m : Scalar × α) (ms : List (Scalar × α)) (name : String) (v : α) :
    put (m :: ms) name v =
      if m.1.same (.text name) then (m.1, v) :: ms else m :: put ms name v := rfl

/-- A member that was set is found. -/
@[simp]
theorem find?_put_self (ms : List (Scalar × α)) (name : String) (v : α) :
    find? (put ms name v) name = some v := by
  induction ms with
  | nil => simp [put, insert, find?_cons]
  | cons m ms ih =>
    rw [put_cons]
    split_ifs with h
    · rw [find?_cons, if_pos h]
    · rw [find?_cons, if_neg h, ih]

/-- Of two values set under one key the second one stays. -/
@[simp]
theorem put_put_self (ms : List (Scalar × α)) (name : String) (v w : α) :
    put (put ms name v) name w = put ms name w := by
  induction ms with
  | nil => simp [put, insert]
  | cons m ms ih =>
    rw [put_cons, put_cons]
    split_ifs with h
    · rw [put_cons, if_pos h]
    · rw [put_cons, if_neg h, ih]

/-- Setting a member to what it is changes nothing. -/
theorem put_of_find? {ms : List (Scalar × α)} {name : String} {v : α} (h : find? ms name = some v) :
    put ms name v = ms := by
  induction ms with
  | nil => cases h
  | cons m ms ih =>
    rw [find?_cons] at h
    rw [put_cons]
    split_ifs at h ⊢ with hsame
    · rw [← Option.some.inj h]
    · rw [ih h]

/-- The members after one is set are that one and others that were there before. -/
theorem mem_put {ms : List (Scalar × α)} {name : String} {v : α} {m : Scalar × α}
    (h : m ∈ put ms name v) : m = (.text name, v) ∨ m ∈ ms := by
  induction ms with
  | nil => exact .inl (List.mem_singleton.mp h)
  | cons m' ms ih =>
    rw [put_cons] at h
    split_ifs at h with hsame
    · rw [Scalar.same_text_iff.mp hsame] at h
      exact (List.mem_cons.mp h).imp id (List.mem_cons_of_mem _)
    · rcases List.mem_cons.mp h with rfl | h
      · exact .inr List.mem_cons_self
      · exact (ih h).imp id (List.mem_cons_of_mem _)

/-- The members after several are set are these and others that were there before. -/
theorem mem_foldl_put {β : Type} {name : β → String} {value : β → α} {as : List β}
    {ms : List (Scalar × α)} {m : Scalar × α}
    (h : m ∈ as.foldl (fun ms a => put ms (name a) (value a)) ms) :
    (∃ a ∈ as, m = (.text (name a), value a)) ∨ m ∈ ms := by
  induction as generalizing ms with
  | nil => exact .inr h
  | cons a as ih =>
    rcases ih h with ⟨a', ha', hm⟩ | hm
    · exact .inl ⟨a', List.mem_cons_of_mem _ ha', hm⟩
    · exact (mem_put hm).imp (fun hm => ⟨a, List.mem_cons_self, hm⟩) id

theorem has_iff {ms : Members} {name : String} :
    has ms (.text name) = true ↔ .text name ∈ keys ms := by
  simp only [has, List.any_eq_true, keys, List.mem_map, Scalar.same_text_iff]

theorem mem_keys_put_self (ms : Members) (name : String) (v : Value) :
    .text name ∈ keys (put ms name v) := by
  induction ms with
  | nil => exact List.mem_cons_self
  | cons m ms ih =>
    rw [put_cons]
    split_ifs with h
    · rw [Scalar.same_text_iff.mp h]
      exact List.mem_cons_self
    · exact List.mem_cons_of_mem _ ih

/-- A new member goes to the end. -/
theorem put_of_not_mem {ms : Members} {name : String} (h : .text name ∉ keys ms) (v : Value) :
    put ms name v = ms ++ [(.text name, v)] := by
  induction ms with
  | nil => rfl
  | cons m ms ih =>
    obtain ⟨hm, hms⟩ := not_or.mp (mt List.mem_cons.mpr h)
    rw [put_cons, if_neg fun hsame => hm (Scalar.same_text_iff.mp hsame).symm, ih hms,
      List.cons_append]

/-- Setting a member keeps the keys different. -/
theorem nodup_keys_put {ms : Members} (h : (keys ms).Nodup) (name : String) (v : Value) :
    (keys (put ms name v)).Nodup := by
  induction ms with
  | nil => exact List.nodup_cons.mpr ⟨List.not_mem_nil, List.nodup_nil⟩
  | cons m ms ih =>
    obtain ⟨hm, hms⟩ := List.nodup_cons.mp h
    rw [put_cons]
    split_ifs with hsame
    · exact h
    · refine List.nodup_cons.mpr ⟨fun hmem => ?_, ih hms⟩
      obtain ⟨m', hm', hkey⟩ := List.mem_map.mp hmem
      rcases mem_put hm' with rfl | hm'
      · exact hsame (Scalar.same_text_iff.mpr hkey.symm)
      · exact hm (hkey ▸ List.mem_map_of_mem hm')

/-- Members with different texts as keys stay as they are. -/
theorem ofList_of_nodup {ms : Members} (htexts : ∀ m ∈ ms, ∃ name, m.1 = .text name)
    (hnodup : (keys ms).Nodup) : ofList ms = ms := by
  -- Every member is new where it is set, so it goes to the end of those before it.
  suffices h : ∀ front, (keys (front ++ ms)).Nodup → insertAll front ms = front ++ ms from
    h [] hnodup
  clear hnodup
  induction ms with
  | nil => exact fun front _ => (List.append_nil front).symm
  | cons m ms ih =>
    obtain ⟨⟨name, hname⟩, htexts⟩ := List.forall_mem_cons.mp htexts
    intro front hfront
    have hnew : .text name ∉ keys front := by
      rw [keys, List.map_append, List.map_cons, List.nodup_append, hname] at hfront
      exact fun hmem => hfront.2.2 _ hmem _ List.mem_cons_self rfl
    have hstep : insert m.1 m.2 front = front ++ [m] := by
      rw [hname, ← put, put_of_not_mem hnew, ← hname]
    rw [insertAll, List.foldl_cons, hstep, ← insertAll, ih htexts, List.append_assoc]
    · rfl
    · rwa [List.append_assoc]

/-! ### Members and their values -/

variable {β : Type}

theorem find?_map (f : α → β) (ms : List (Scalar × α)) (name : String) :
    find? (ms.map fun m => (m.1, f m.2)) name = (find? ms name).map f := by
  induction ms with
  | nil => rfl
  | cons m ms ih =>
    rw [List.map_cons, find?_cons, find?_cons, ih]
    split_ifs <;> rfl

theorem insert_map (f : α → β) (key : Scalar) (a : α) (ms : List (Scalar × α)) :
    (insert key a ms).map (fun m => (m.1, f m.2)) =
      insert key (f a) (ms.map fun m => (m.1, f m.2)) := by
  induction ms with
  | nil => rfl
  | cons m ms ih =>
    rw [insert, List.map_cons, insert]
    split_ifs
    · rfl
    · rw [List.map_cons, ih]

theorem ofList_map (f : α → β) (ms : List (Scalar × α)) :
    (ofList ms).map (fun m => (m.1, f m.2)) = ofList (ms.map fun m => (m.1, f m.2)) := by
  suffices h : ∀ front, (insertAll front ms).map (fun m => (m.1, f m.2)) =
      insertAll (front.map fun m => (m.1, f m.2)) (ms.map fun m => (m.1, f m.2)) from h []
  induction ms with
  | nil => exact fun front => rfl
  | cons m ms ih =>
    intro front
    have hstep := ih (insert m.1 m.2 front)
    rw [insert_map] at hstep
    exact hstep

theorem mem_of_find? {ms : List (Scalar × α)} {name : String} {a : α} (h : find? ms name = some a) :
    (.text name, a) ∈ ms := by
  induction ms with
  | nil => cases h
  | cons m ms ih =>
    rw [find?_cons] at h
    split_ifs at h with hsame
    · rw [← Scalar.same_text_iff.mp hsame, ← Option.some.inj h]
      exact List.mem_cons_self
    · exact List.mem_cons_of_mem _ (ih h)

theorem find?_put_of_ne {name other : String} (h : other ≠ name) (ms : List (Scalar × α)) (a : α) :
    find? (put ms name a) other = find? ms other := by
  induction ms with
  | nil =>
    have hsame : (Scalar.text name).same (.text other) = false := by
      simpa using h.symm
    rw [put, insert, find?_cons, hsame]
    rfl
  | cons m ms ih =>
    rw [put_cons]
    split_ifs with hsame
    · have hother : m.1.same (.text other) = false := by
        rw [Scalar.same_text_iff.mp hsame]
        simpa using h.symm
      rw [find?_cons, find?_cons, hother]
      rfl
    · rw [find?_cons, find?_cons, ih]

/-- The values after one is set are that one and others that were there before. -/
theorem snd_of_mem_insert {key : Scalar} {a : α} {ms : List (Scalar × α)} {m : Scalar × α}
    (h : m ∈ insert key a ms) : m.2 = a ∨ m ∈ ms := by
  induction ms with
  | nil => exact .inl (congrArg Prod.snd (List.mem_singleton.mp h))
  | cons m' ms ih =>
    rw [insert] at h
    split_ifs at h with hsame
    · rcases List.mem_cons.mp h with rfl | h
      · exact .inl rfl
      · exact .inr (List.mem_cons_of_mem _ h)
    · rcases List.mem_cons.mp h with rfl | h
      · exact .inr List.mem_cons_self
      · exact (ih h).imp id (List.mem_cons_of_mem _)

/-- The values of members come from the entries that were set. -/
theorem exists_mem_of_mem_ofList {entries : List (Scalar × α)} {m : Scalar × α}
    (h : m ∈ ofList entries) : ∃ e ∈ entries, m.2 = e.2 := by
  suffices hall : ∀ front, m ∈ insertAll front entries → (∃ e ∈ entries, m.2 = e.2) ∨ m ∈ front from
    (hall [] h).resolve_right List.not_mem_nil
  clear h
  induction entries with
  | nil => exact fun front h => .inr h
  | cons e entries ih =>
    intro front h
    rcases ih (insert e.1 e.2 front) h with ⟨e', he', heq⟩ | h
    · exact .inl ⟨e', List.mem_cons_of_mem _ he', heq⟩
    · rcases snd_of_mem_insert h with heq | h
      · exact .inl ⟨e, List.mem_cons_self, heq⟩
      · exact .inr h

theorem mem_ofList_text {entries : List (Scalar × α)}
    (htexts : ∀ e ∈ entries, ∃ name, e.1 = .text name) {m : Scalar × α} (h : m ∈ ofList entries) :
    ∃ name, m.1 = .text name := by
  suffices hall : ∀ front, (∀ e ∈ front, ∃ name, e.1 = .text name) →
      m ∈ insertAll front entries → ∃ name, m.1 = .text name from
    hall [] (fun e he => absurd he List.not_mem_nil) h
  clear h
  induction entries with
  | nil => exact fun front hfront h => hfront m h
  | cons e entries ih =>
    obtain ⟨⟨name, hname⟩, htexts⟩ := List.forall_mem_cons.mp htexts
    intro front hfront h
    refine ih htexts (put front name e.2) (fun e' he' => ?_) ?_
    · rcases mem_put he' with rfl | he'
      · exact ⟨name, rfl⟩
      · exact hfront e' he'
    · rw [put, ← hname]
      exact h

/-- The keys after a value is set: a key that is there stays, a new one goes to the end. -/
theorem map_fst_insert (key : Scalar) (a : α) (ms : List (Scalar × α)) :
    (insert key a ms).map Prod.fst =
      if has ms key then ms.map Prod.fst else ms.map Prod.fst ++ [key] := by
  induction ms with
  | nil => rfl
  | cons m ms ih =>
    have hhas : has (m :: ms) key = (m.1.same key || has ms key) := List.any_cons
    rw [insert, hhas]
    cases m.1.same key with
    | true => simp
    | false =>
      rw [if_neg Bool.false_ne_true, List.map_cons, ih, Bool.false_or]
      split_ifs <;> simp

/-- No key of a map is the same as an earlier one. -/
theorem pairwise_ofList (entries : List (Scalar × α)) :
    ((ofList entries).map Prod.fst).Pairwise fun k k' => k.same k' = false := by
  suffices h : ∀ front : List (Scalar × α),
      (front.map Prod.fst).Pairwise (fun k k' => k.same k' = false) →
        ((insertAll front entries).map Prod.fst).Pairwise fun k k' => k.same k' = false from
    h [] List.Pairwise.nil
  induction entries with
  | nil => exact fun front h => h
  | cons e entries ih =>
    intro front hfront
    refine ih _ ?_
    rw [map_fst_insert]
    split_ifs with hhas
    · exact hfront
    · have hnew : ∀ k ∈ front.map Prod.fst, k.same e.1 = false := by
        simpa [has] using hhas
      exact List.pairwise_append.mpr ⟨hfront, List.pairwise_singleton .., by simpa using hnew⟩

/-- If all keys of a map are texts, then they are different. -/
theorem nodup_ofList {entries : List (Scalar × α)}
    (htexts : ∀ m ∈ ofList entries, ∃ name, m.1 = .text name) :
    ((ofList entries).map Prod.fst).Nodup := by
  refine (pairwise_ofList entries).imp_of_mem fun {k k'} _ hk' hsame heq => ?_
  obtain ⟨m, hm, rfl⟩ := List.mem_map.mp hk'
  obtain ⟨name, hname⟩ := htexts m hm
  rw [heq, hname, Scalar.same_text_text, beq_self_eq_true] at hsame
  cases hsame

theorem find?_of_mem {ms : List (Scalar × α)} (hnodup : (ms.map Prod.fst).Nodup) {name : String} {a : α}
    (h : (.text name, a) ∈ ms) : find? ms name = some a := by
  induction ms with
  | nil => cases h
  | cons m ms ih =>
    obtain ⟨hm, hnodup⟩ := List.nodup_cons.mp hnodup
    rw [find?_cons]
    rcases List.mem_cons.mp h with rfl | h
    · rw [if_pos (Scalar.same_text_iff.mpr rfl)]
    · have hne : ¬ m.1.same (.text name) = true := fun hsame =>
        hm (Scalar.same_text_iff.mp hsame ▸ List.mem_map_of_mem h)
      rw [if_neg hne, ih hnodup h]

theorem find?_eq_none_iff {ms : List (Scalar × α)} {name : String} :
    find? ms name = none ↔ .text name ∉ ms.map Prod.fst := by
  induction ms with
  | nil => simp
  | cons m ms ih =>
    rw [find?_cons, List.map_cons, List.mem_cons, not_or, ← ih]
    split_ifs with hsame
    · simp [Scalar.same_text_iff.mp hsame]
    · exact ⟨fun h => ⟨fun heq => hsame (Scalar.same_text_iff.mpr heq.symm), h⟩, And.right⟩

theorem has_eq_isSome_find? (ms : Members) (name : String) :
    has ms (.text name) = (find? ms name).isSome := by
  rw [Bool.eq_iff_iff, has_iff, keys, ← Option.ne_none_iff_isSome, Ne, find?_eq_none_iff, not_not]

/-- Members that are set replace those of the same keys and leave the others. -/
theorem find?_insertAll {ms new : List (Scalar × α)} (htexts : ∀ m ∈ new, ∃ name, m.1 = .text name)
    (hnodup : (new.map Prod.fst).Nodup) (name : String) :
    find? (insertAll ms new) name = (find? new name).or (find? ms name) := by
  induction new generalizing ms with
  | nil => rfl
  | cons m new ih =>
    obtain ⟨⟨key, hkey⟩, htexts⟩ := List.forall_mem_cons.mp htexts
    obtain ⟨hm, hnodup⟩ := List.nodup_cons.mp hnodup
    rw [insertAll, List.foldl_cons, ← insertAll, ih htexts hnodup, hkey, ← put, find?_cons, hkey,
      Scalar.same_text_text]
    by_cases h : key = name
    · have hnone : find? new name = none := find?_eq_none_iff.mpr (h ▸ hkey ▸ hm)
      rw [hnone, h, find?_put_self, beq_self_eq_true]
      rfl
    · rw [find?_put_of_ne (Ne.symm h), if_neg (by simpa using h)]

/-! ### Keys of a run -/

/-- Whether a key is there is a matter of the keys alone. -/
theorem has_eq_any_keys (ms : Members) (key : Scalar) : has ms key = (keys ms).any (·.same key) := by
  rw [keys, List.any_map]
  rfl

/-- **The keys after several steps that set one member each**: keys that were there keep their places,
and new ones go to the end in the order in which they come first. -/
theorem keys_foldl {σ : Type} {f : σ → β → σ} {view : σ → Members} {name : β → String}
    (hstep : ∀ s b, keys (view (f s b)) = if has (view s) (.text (name b)) then keys (view s)
      else keys (view s) ++ [.text (name b)]) (s : σ) (bs : List β) :
    keys (view (bs.foldl f s)) = keys (view s) ++
      (((bs.map name).filter fun n => !has (view s) (.text n)).eraseDups).map .text := by
  induction bs generalizing s with
  | nil => simp
  | cons b bs ih =>
    rw [List.foldl_cons, ih, List.map_cons]
    have hkeys := hstep s b
    split_ifs at hkeys with hold
    · -- The key is there, so the step changes nothing that the later ones look at.
      have hhas : ∀ n, has (view (f s b)) (.text n) = has (view s) (.text n) := by
        intro n
        rw [has_eq_any_keys, has_eq_any_keys, hkeys]
      rw [List.filter_cons_of_neg (by simp [hold]), hkeys]
      simp only [hhas]
    · -- The key is new, so the later steps that come to it find it there.
      have hhas : ∀ n, (!has (view (f s b)) (.text n)) =
          (!n == name b && !has (view s) (.text n)) := by
        intro n
        rw [has_eq_any_keys, has_eq_any_keys, hkeys, List.any_append, Bool.not_or, Bool.and_comm,
          Bool.beq_comm]
        simp
      rw [List.filter_cons_of_pos (by simp [hold]), List.eraseDups_cons, List.filter_filter, hkeys,
        List.map_cons, List.append_assoc, List.singleton_append]
      simp only [hhas]

end Members

/-! ### Tables -/

namespace Table

variable {κ α : Type} [DecidableEq κ]

/-- Sets the entry of a key: a present key keeps its place, a new one goes to the end. -/
def set (key : κ) (a : α) : List (κ × α) → List (κ × α)
  | [] => [(key, a)]
  | e :: es => if e.1 = key then (key, a) :: es else e :: set key a es

/-- Sets several entries, one after the other. -/
def setAll (es new : List (κ × α)) : List (κ × α) :=
  new.foldl (fun acc e => set e.1 e.2 acc) es

/-- The entry of a key. -/
def get? (key : κ) (es : List (κ × α)) : Option α :=
  (es.find? fun e => e.1 = key).map (·.2)

theorem get?_cons (key : κ) (e : κ × α) (es : List (κ × α)) :
    get? key (e :: es) = if e.1 = key then some e.2 else get? key es := by
  by_cases h : e.1 = key <;> simp [get?, h]

theorem set_cons (key : κ) (a : α) (e : κ × α) (es : List (κ × α)) :
    set key a (e :: es) = if e.1 = key then (key, a) :: es else e :: set key a es := rfl

@[simp]
theorem get?_set_self (key : κ) (a : α) (es : List (κ × α)) :
    get? key (set key a es) = some a := by
  induction es with
  | nil => simp [set, get?]
  | cons e es ih =>
    rw [set_cons]
    split_ifs with h
    · rw [get?_cons, if_pos rfl]
    · rw [get?_cons, if_neg h, ih]

theorem get?_set_of_ne {key other : κ} (h : other ≠ key) (a : α) (es : List (κ × α)) :
    get? other (set key a es) = get? other es := by
  induction es with
  | nil => simp [set, get?, h.symm]
  | cons e es ih =>
    rw [set_cons]
    split_ifs with he
    · rw [get?_cons, get?_cons, if_neg h.symm, if_neg fun h' => h (h'.symm.trans he)]
    · rw [get?_cons, get?_cons, ih]

/-- Looking up in a table with a new entry at its end. -/
theorem get?_concat {key : κ} {es : List (κ × α)} (hnew : get? key es = none) (a : α) (other : κ) :
    get? other (es ++ [(key, a)]) = if other = key then some a else get? other es := by
  induction es with
  | nil => simp [get?, eq_comm]
  | cons e es ih =>
    rw [get?_cons] at hnew
    split_ifs at hnew with he
    rw [List.cons_append, get?_cons, get?_cons, ih hnew]
    split_ifs with h1 h2
    · exact absurd (h1.trans h2) he
    all_goals rfl

/-- Looking up in a table in which all entries of a key were replaced. -/
theorem get?_replaceAll (key : κ) (b : α) (other : κ) (es : List (κ × α)) :
    get? other (es.map fun e => if e.1 = key then (key, b) else e) =
      if other = key then (get? key es).map fun _ => b else get? other es := by
  induction es with
  | nil => simp [get?]
  | cons e es ih =>
    rw [List.map_cons, get?_cons, get?_cons, get?_cons, ih]
    by_cases he : e.1 = key
    · by_cases hother : other = key
      · simp [he, hother]
      · simp [he, hother, Ne.symm hother]
    · by_cases hother : other = key
      · simp [he, hother]
      · simp [he, hother]

@[simp]
theorem set_set_self (key : κ) (a b : α) (es : List (κ × α)) :
    set key b (set key a es) = set key b es := by
  induction es with
  | nil => simp [set]
  | cons e es ih =>
    rw [set_cons, set_cons]
    split_ifs with h
    · rw [set_cons, if_pos rfl]
    · rw [set_cons, if_neg h, ih]

/-- **Entries of different keys may be set in either order**, if one of the keys is there
already. -/
theorem set_comm {key other : κ} (h : other ≠ key) {es : List (κ × α)}
    (hk : key ∈ es.map Prod.fst) (a b : α) :
    set key a (set other b es) = set other b (set key a es) := by
  induction es with
  | nil => simp at hk
  | cons e es ih =>
    -- The head is the entry of `key`, that of `other`, or neither; a new `other` goes to the
    -- end in all three cases because the place of `key` is taken.
    by_cases hek : e.1 = key
    · have heo : e.1 ≠ other := fun he => h (he.symm.trans hek)
      rw [set_cons, if_neg heo, set_cons, if_pos hek, set_cons, if_pos hek, set_cons,
        if_neg h.symm]
    · have hk' : key ∈ es.map Prod.fst := by
        rcases List.mem_cons.mp hk with rfl | hk
        · exact absurd rfl hek
        · exact hk
      by_cases heo : e.1 = other
      · rw [set_cons, if_pos heo, set_cons, if_neg h, set_cons, if_neg hek, set_cons, if_pos heo]
      · rw [set_cons, if_neg heo, set_cons, if_neg hek, set_cons, if_neg hek, set_cons,
          if_neg heo, ih hk']

theorem mem_keys_set {key k : κ} {a : α} {es : List (κ × α)} :
    k ∈ (set key a es).map Prod.fst ↔ k = key ∨ k ∈ es.map Prod.fst := by
  induction es with
  | nil => simp [set]
  | cons e es ih =>
    rw [set_cons]
    split_ifs with h
    · simp [h]
    · rw [List.map_cons, List.map_cons, List.mem_cons, List.mem_cons, ih]
      tauto

/-- An entry that is set is either new or was there before. -/
theorem mem_set {key : κ} {a : α} {es : List (κ × α)} {e : κ × α} (h : e ∈ set key a es) :
    e = (key, a) ∨ e ∈ es := by
  induction es with
  | nil => exact .inl (List.mem_singleton.mp h)
  | cons e' es ih =>
    rw [set_cons] at h
    split_ifs at h with he
    · rcases List.mem_cons.mp h with rfl | h
      · exact .inl rfl
      · exact .inr (List.mem_cons_of_mem _ h)
    · rcases List.mem_cons.mp h with rfl | h
      · exact .inr List.mem_cons_self
      · exact (ih h).imp id (List.mem_cons_of_mem _)

/-- Setting an entry keeps the keys different. -/
theorem nodup_keys_set {key : κ} {a : α} {es : List (κ × α)} (h : (es.map Prod.fst).Nodup) :
    ((set key a es).map Prod.fst).Nodup := by
  induction es with
  | nil => simp [set]
  | cons e es ih =>
    obtain ⟨he, hes⟩ := List.nodup_cons.mp h
    rw [set_cons]
    split_ifs with hk
    · rw [List.map_cons, ← hk]
      exact h
    · refine List.nodup_cons.mpr ⟨fun hmem => ?_, ih hes⟩
      rcases mem_keys_set.mp hmem with hkey | hold
      · exact hk hkey
      · exact he hold

theorem mem_keys_setAll {k : κ} {es new : List (κ × α)} :
    k ∈ (setAll es new).map Prod.fst ↔ k ∈ new.map Prod.fst ∨ k ∈ es.map Prod.fst := by
  induction new generalizing es with
  | nil => simp [setAll]
  | cons e new ih =>
    rw [setAll, List.foldl_cons, ← setAll, ih, mem_keys_set, List.map_cons, List.mem_cons]
    tauto

theorem mem_setAll {es new : List (κ × α)} {e : κ × α} (h : e ∈ setAll es new) :
    e ∈ new ∨ e ∈ es := by
  induction new generalizing es with
  | nil => exact .inr h
  | cons e' new ih =>
    rcases ih h with h | h
    · exact .inl (List.mem_cons_of_mem _ h)
    · rcases mem_set h with rfl | h
      · exact .inl List.mem_cons_self
      · exact .inr h

theorem nodup_keys_setAll {es : List (κ × α)} (h : (es.map Prod.fst).Nodup)
    (new : List (κ × α)) : ((setAll es new).map Prod.fst).Nodup := by
  induction new generalizing es with
  | nil => exact h
  | cons e new ih => exact ih (nodup_keys_set h)

/-- What is found under a key is an entry. -/
theorem mem_of_get? {key : κ} {a : α} {es : List (κ × α)} (h : get? key es = some a) :
    (key, a) ∈ es := by
  induction es with
  | nil => simp [get?] at h
  | cons e es ih =>
    rw [get?_cons] at h
    split_ifs at h with he
    · rw [← he, ← Option.some.inj h]
      exact List.mem_cons_self
    · exact List.mem_cons_of_mem _ (ih h)

/-- An entry of a table without two entries for one key is what is found under its key. -/
theorem get?_of_mem {es : List (κ × α)} (hnodup : (es.map Prod.fst).Nodup) {e : κ × α}
    (h : e ∈ es) : get? e.1 es = some e.2 := by
  induction es with
  | nil => cases h
  | cons first es ih =>
    obtain ⟨hfirst, hnodup⟩ := List.nodup_cons.mp hnodup
    rw [get?_cons]
    rcases List.mem_cons.mp h with rfl | h
    · rw [if_pos rfl]
    · have hne : first.1 ≠ e.1 := fun heq => hfirst (heq ▸ List.mem_map_of_mem h)
      rw [if_neg hne, ih hnodup h]

/-- Setting an entry to what it is changes nothing. -/
theorem set_of_get? {key : κ} {a : α} {es : List (κ × α)} (h : get? key es = some a) :
    set key a es = es := by
  induction es with
  | nil => simp [get?] at h
  | cons e es ih =>
    rw [get?_cons] at h
    rw [set_cons]
    split_ifs at h ⊢ with he
    · rw [← he, ← Option.some.inj h]
    · rw [ih h]

theorem isSome_get?_iff {key : κ} {es : List (κ × α)} :
    (get? key es).isSome ↔ key ∈ es.map Prod.fst := by
  induction es with
  | nil => simp [get?]
  | cons e es ih =>
    rw [get?_cons, List.map_cons, List.mem_cons, ← ih]
    by_cases h : e.1 = key
    · simp [h]
    · rw [if_neg h]
      exact ⟨.inr, fun h' => h'.resolve_left fun he => h he.symm⟩

/-! ### Tables of lists -/

variable {β : Type}

/-- Changes the list of a key; a key without an entry has the empty list and gets an entry. -/
def update (key : κ) (f : List β → List β) (es : List (κ × List β)) : List (κ × List β) :=
  set key (f ((get? key es).getD [])) es

/-- Two changes of one list are one change. -/
theorem update_update_self (key : κ) (f g : List β → List β) (es : List (κ × List β)) :
    update key g (update key f es) = update key (g ∘ f) es := by
  rw [update, update, get?_set_self, set_set_self]
  rfl

/-- The change that does nothing only matters to a new key. -/
theorem update_id {key : κ} {es : List (κ × List β)} (h : key ∈ es.map Prod.fst) :
    update key id es = es := by
  obtain ⟨a, ha⟩ := Option.isSome_iff_exists.mp (isSome_get?_iff.mpr h)
  rw [update, ha]
  exact set_of_get? ha

theorem mem_keys_update {key k : κ} {f : List β → List β} {es : List (κ × List β)} :
    k ∈ (update key f es).map Prod.fst ↔ k = key ∨ k ∈ es.map Prod.fst :=
  mem_keys_set

/-- A property of all lists stays if the change has it, starting from the empty list or from one
with the property. -/
theorem forall_update {Q : κ → List β → Prop} {es : List (κ × List β)} (h : ∀ e ∈ es, Q e.1 e.2)
    {key : κ} {f : List β → List β} (hf : ∀ l, l = [] ∨ Q key l → Q key (f l)) :
    ∀ e ∈ update key f es, Q e.1 e.2 := by
  intro e he
  rcases mem_set he with rfl | he
  · refine hf _ ?_
    cases hl : get? key es with
    | none => exact .inl rfl
    | some l => exact .inr (h _ (mem_of_get? hl))
  · exact h e he

/-- Changes of different lists may be made in either order, if one of the keys is there
already. -/
theorem update_comm {key other : κ} (h : other ≠ key) {es : List (κ × List β)}
    (hk : key ∈ es.map Prod.fst) (f g : List β → List β) :
    update key f (update other g es) = update other g (update key f es) := by
  rw [update, update, update, update, get?_set_of_ne h.symm, get?_set_of_ne h]
  exact set_comm h hk _ _

end Table

/-! ### Tables as members -/

namespace Members

variable {κ α : Type}

/-- A table written out as members. -/
def ofTable (name : κ → String) (value : α → Value) (es : List (κ × α)) : Members :=
  es.map fun e => (.text (name e.1), value e.2)

variable {name : κ → String} {value : α → Value}

theorem ofTable_cons (e : κ × α) (es : List (κ × α)) :
    ofTable name value (e :: es) = (.text (name e.1), value e.2) :: ofTable name value es := rfl

private theorem same_name_iff (hname : Function.Injective name) {k key : κ} :
    (Scalar.text (name k)).same (.text (name key)) = true ↔ k = key := by
  rw [Scalar.same_text_iff, Scalar.text.injEq, hname.eq_iff]

variable [DecidableEq κ]

/-- Looking up a key of a written table is looking it up in the table. -/
theorem find?_ofTable (hname : Function.Injective name) (key : κ) (es : List (κ × α)) :
    find? (ofTable name value es) (name key) = (Table.get? key es).map value := by
  induction es with
  | nil => rfl
  | cons e es ih =>
    rw [ofTable_cons, find?_cons, Table.get?_cons, ih]
    by_cases h : e.1 = key
    · rw [if_pos ((same_name_iff hname).mpr h), if_pos h, Option.map_some]
    · rw [if_neg (mt (same_name_iff hname).mp h), if_neg h]

/-- Setting a member of a written table is setting the entry of the table. -/
theorem put_ofTable (hname : Function.Injective name) (key : κ) (a : α) (es : List (κ × α)) :
    put (ofTable name value es) (name key) (value a) =
      ofTable name value (Table.set key a es) := by
  induction es with
  | nil => rfl
  | cons e es ih =>
    rw [ofTable_cons, put_cons, Table.set_cons, ih]
    by_cases h : e.1 = key
    · rw [if_pos ((same_name_iff hname).mpr h), if_pos h, ofTable_cons, h]
    · rw [if_neg (mt (same_name_iff hname).mp h), if_neg h, ofTable_cons]

/-- Setting the members of one written table in another is setting its entries. -/
theorem insertAll_ofTable (hname : Function.Injective name) (es new : List (κ × α)) :
    insertAll (ofTable name value es) (ofTable name value new) =
      ofTable name value (Table.setAll es new) := by
  induction new generalizing es with
  | nil => rfl
  | cons e new ih =>
    have hput : insert (.text (name e.1)) (value e.2) (ofTable name value es) =
        ofTable name value (Table.set e.1 e.2 es) := put_ofTable hname e.1 e.2 es
    rw [ofTable_cons, insertAll, List.foldl_cons, hput, ← insertAll, ih]
    rfl

end Members

end RouteAtlas
