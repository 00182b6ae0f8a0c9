import Mathlib.Data.List.Perm.Subperm
import RouteAtlas.Proofs.Table
import RouteAtlas.Proofs.Yaml.Nodes

/-!
# What is read back

A map that is written and read again comes to the map of what is read for its scalars (`reread`), if
no key in it is too long to be found (`load_render`). The nodes of a written value hold neither
aliases nor keys that merge another map, so a map is built of its own entries alone
(`sharedOf_nodeOf`). A later member replaces an earlier one with the same key, and two keys may be
read as the same text; a count of the members tells that apart (`Members.ofList_eq_iff`). So a value
comes back exactly if each text in it does (`reread_eq_self_iff`).
-/

namespace RouteAtlas

/-! ### Members -/

namespace Members

theorem mem_insertAll {ms new : Members} (htexts : ∀ m ∈ new, ∃ name, m.1 = .text name)
    {m : Scalar × Value} (h : m ∈ insertAll ms new) : m ∈ new ∨ m ∈ ms := by
  induction new generalizing ms with
  | nil => exact .inr h
  | cons m' new ih =>
    obtain ⟨⟨name, hname⟩, htexts⟩ := List.forall_mem_cons.mp htexts
    rw [insertAll, List.foldl_cons, hname, ← insertAll] at h
    rcases ih htexts h with hm | hm
    · exact .inl (List.mem_cons_of_mem _ hm)
    · refine (mem_put hm).imp (fun heq => ?_) id
      rw [heq, ← hname]
      exact List.mem_cons_self

/-- If members become as many with different keys, then no key stood twice among them. -/
theorem ofList_eq_iff {entries ms : Members} (htexts : ∀ m ∈ entries, ∃ name, m.1 = .text name)
    (hlength : entries.length = ms.length) (hnodup : (keys ms).Nodup) :
    ofList entries = ms ↔ entries = ms := by
  constructor
  · intro h
    have hsubset : keys ms ⊆ keys entries := by
      intro k hk
      obtain ⟨m, hm, rfl⟩ := List.mem_map.mp hk
      rw [← h] at hm
      rcases mem_insertAll htexts hm with hm | hm
      · exact List.mem_map_of_mem hm
      · cases hm
    have hperm := (List.Nodup.subperm hnodup hsubset).perm_of_length_le
      (by rw [keys, keys, List.length_map, List.length_map, hlength])
    rw [← ofList_of_nodup htexts (hperm.nodup_iff.mp hnodup), h]
  · rintro rfl
    exact ofList_of_nodup htexts hnodup

end Members

namespace Yaml

/-! ### Values -/

/-- The scalar that is read for one that was written. -/
def rereadScalar : Scalar → Scalar
  | .text s => .text (Form.ofScalar (.text s)).heard
  | s => s

mutual

/-- The value that is read for one that was written. -/
def reread : Value → Value
  | .scalar s => .scalar (rereadScalar s)
  | .list xs => .list (rereadItems xs)
  | .map ms => .map (Members.ofList (rereadMembers ms))
  | .set ks => .set ks
  | .pair a b => .pair a b

/-- The items that are read. -/
def rereadItems : List Value → List Value
  | [] => []
  | x :: xs => reread x :: rereadItems xs

/-- The members that are read, of which a later one replaces an earlier one with the same key. -/
def rereadMembers : List (Scalar × Value) → List (Scalar × Value)
  | [] => []
  | (k, v) :: ms => (rereadScalar k, reread v) :: rereadMembers ms

end

mutual

/-- A value in which no map stands in several places. -/
def unshared : Value → Shared
  | .scalar s => .scalar s
  | .set ks => .set ks
  | .pair a b => .pair (unshared a) (unshared b)
  | .list xs => .list (unsharedItems xs)
  | .map ms => .map none (unsharedMembers ms)

/-- The items of a list in which no map stands in several places. -/
def unsharedItems : List Value → List Shared
  | [] => []
  | x :: xs => unshared x :: unsharedItems xs

/-- The members of a map in which no map stands in several places. -/
def unsharedMembers : List (Scalar × Value) → List (Scalar × Shared)
  | [] => []
  | (k, v) :: ms => (k, unshared v) :: unsharedMembers ms

end

theorem unsharedMembers_eq_map (ms : List (Scalar × Value)) :
    unsharedMembers ms = ms.map fun m => (m.1, unshared m.2) := by
  induction ms with
  | nil => rfl
  | cons m ms ih =>
    obtain ⟨k, v⟩ := m
    rw [unsharedMembers, ih, List.map_cons]

mutual

theorem value_unshared (v : Value) : (unshared v).value = v := by
  cases v with
  | scalar s => rfl
  | set ks => rfl
  | pair a b => rw [unshared, Shared.value, value_unshared a, value_unshared b]
  | list xs => rw [unshared, Shared.value, values_unsharedItems xs]
  | map ms => rw [unshared, Shared.value, memberValues_unsharedMembers ms]

theorem values_unsharedItems (xs : List Value) : Shared.values (unsharedItems xs) = xs := by
  cases xs with
  | nil => rfl
  | cons x xs => rw [unsharedItems, Shared.values, value_unshared x, values_unsharedItems xs]

theorem memberValues_unsharedMembers (ms : List (Scalar × Value)) :
    Shared.memberValues (unsharedMembers ms) = ms := by
  cases ms with
  | nil => rfl
  | cons m ms =>
    obtain ⟨k, v⟩ := m
    rw [unsharedMembers, Shared.memberValues, value_unshared v, memberValues_unsharedMembers ms]

end

/-- A text is never taken for anything else. -/
theorem node_text (s : String) :
    (Form.ofScalar (.text s)).node = .scalar .text (Form.ofScalar (.text s)).heard := by
  rw [Form.node]
  split_ifs with hplain
  · have htag : Tag.ofPlain s = .text := by simpa [Form.ofScalar] using Form.plainTag_of_style hplain
    have hheard : (Form.ofScalar (.text s)).heard = s := by
      rw [Form.heard, hplain]
      rfl
    rw [hheard, htag]
  · rfl

/-- A word that is written without quotes. -/
theorem node_of_plain {f : Form} (h : f.style false = .plain) :
    f.node = .scalar (.ofPlain f.text) f.text := by
  rw [Form.node, Form.heard, h]
  rfl

theorem sharedOf_scalar {s : Scalar} (h : s.isPlain = true) (fuel depth : Nat) :
    sharedOf (fuel + 1) depth (Form.ofScalar s).node = .ok (.scalar (rereadScalar s)) := by
  cases s with
  | text s =>
    rw [node_text]
    rfl
  | null =>
    have hstyle : (Form.ofScalar .null).style false = .plain := by decide +kernel
    have htag : Tag.ofPlain "null" = .null := by decide +kernel
    rw [node_of_plain hstyle, show (Form.ofScalar .null).text = "null" from rfl, htag]
    rfl
  | bool b =>
    have hstyle : (Form.ofScalar (.bool b)).style false = .plain := by cases b <;> decide +kernel
    have htags : Tag.ofPlain "true" = .bool ∧ Tag.ofPlain "false" = .bool := by decide +kernel
    have hvalues : boolOf "true" = .ok true ∧ boolOf "false" = .ok false := by
      constructor <;> rfl
    rw [node_of_plain hstyle]
    cases b with
    | true =>
      rw [show (Form.ofScalar (.bool true)).text = "true" from rfl, htags.1, sharedOf]
      simp [isCollectionTag, scalarOf, hvalues, rereadScalar]
      rfl
    | false =>
      rw [show (Form.ofScalar (.bool false)).text = "false" from rfl, htags.2, sharedOf]
      simp [isCollectionTag, scalarOf, hvalues, rereadScalar]
      rfl
  | int n => cases h
  | float x => cases h
  | date d => cases h
  | stamp t => cases h
  | bytes b => cases h

theorem loadAll_cons {α β : Type} {load : α → Loaded β} {a : α} {as : List α} {b : β} {bs : List β}
    (ha : load a = .ok b) (has : loadAll load as = .ok bs) :
    loadAll load (a :: as) = .ok (b :: bs) := by
  rw [loadAll, ha, has]
  rfl

/-- No key of a written map merges another map. -/
theorem mergedEntries_entryNodes {ms : List (Scalar × Value)}
    (h : Value.membersArePlain ms = true) : mergedEntries (entryNodes ms) = some [] := by
  induction ms with
  | nil => rfl
  | cons m ms ih =>
    obtain ⟨k, v⟩ := m
    rw [Value.membersArePlain, Bool.and_eq_true, Bool.and_eq_true, Scalar.isPlainKey_iff] at h
    obtain ⟨⟨⟨⟨name, rfl⟩, -⟩, -⟩, hms⟩ := h
    rw [entryNodes, node_text, mergedEntries, ih hms]
    rfl

theorem ownEntries_entryNodes {ms : List (Scalar × Value)} (h : Value.membersArePlain ms = true) :
    ownEntries (entryNodes ms) = entryNodes ms := by
  induction ms with
  | nil => rfl
  | cons m ms ih =>
    obtain ⟨k, v⟩ := m
    rw [Value.membersArePlain, Bool.and_eq_true, Bool.and_eq_true, Scalar.isPlainKey_iff] at h
    obtain ⟨⟨⟨⟨name, rfl⟩, -⟩, -⟩, hms⟩ := h
    have hrest := ih hms
    rw [ownEntries] at hrest
    rw [ownEntries, entryNodes, node_text, List.filter_cons_of_pos rfl, List.map_cons, hrest]
    rfl

theorem flatten_entryNodes {ms : List (Scalar × Value)} (h : Value.membersArePlain ms = true) :
    flatten (entryNodes ms) = some (entryNodes ms) := by
  rw [flatten, mergedEntries_entryNodes h, ownEntries_entryNodes h]
  rfl

theorem length_itemTokens_le (xs : List Value) (behindKey : Bool) :
    (itemTokens xs).length ≤ (tokensOf behindKey (.list xs)).length := by
  cases xs with
  | nil => exact Nat.zero_le _
  | cons x xs =>
    rw [tokensOf]
    split_ifs
    · exact Nat.le_refl _
    · rw [List.length_cons, List.length_append]
      omega

theorem length_memberTokens_le (ms : List (Scalar × Value)) (behindKey : Bool) :
    (memberTokens ms).length ≤ (tokensOf behindKey (.map ms)).length := by
  cases ms with
  | nil => exact Nat.zero_le _
  | cons m ms =>
    rw [tokensOf, List.length_cons, List.length_append]
    omega

mutual

/-- **The value of a node** that was written for a value; aliases are never written. -/
theorem sharedOf_nodeOf (v : Value) (hv : v.isPlain = true) (behindKey : Bool) {fuel : Nat}
    (hfuel : (tokensOf behindKey v).length ≤ fuel) (depth : Nat) :
    sharedOf fuel depth (nodeOf v) = .ok (unshared (reread v)) := by
  have hpos : 0 < (tokensOf behindKey v).length := by
    obtain ⟨t, ts, htokens, -⟩ := Parse.exists_tokensOf_eq_cons hv behindKey
    rw [htokens]
    exact Nat.succ_pos _
  obtain ⟨fuel, rfl⟩ : ∃ g, fuel = g + 1 := ⟨fuel - 1, by omega⟩
  cases v with
  | scalar s =>
    rw [Value.isPlain] at hv
    rw [nodeOf, reread]
    exact sharedOf_scalar hv fuel depth
  | set xs => rw [Value.isPlain] at hv; cases hv
  | pair a b => rw [Value.isPlain] at hv; cases hv
  | list xs =>
    rw [Value.isPlain] at hv
    have hitems := loadAll_itemNodes xs hv ((length_itemTokens_le xs behindKey).trans hfuel) (depth + 1)
    rw [nodeOf, reread, unshared, sharedOf]
    simp only [hitems]
    rfl
  | map ms =>
    rw [Value.isPlain] at hv
    have hmembers := loadAll_entryNodes ms hv ((length_memberTokens_le ms behindKey).trans hfuel)
      (depth + 1)
    have hmap : unsharedMembers (Members.ofList (rereadMembers ms)) =
        Members.ofList (unsharedMembers (rereadMembers ms)) := by
      rw [unsharedMembers_eq_map, unsharedMembers_eq_map, Members.ofList_map]
    rw [nodeOf, reread, unshared, hmap, sharedOf]
    simp only [flatten_entryNodes hv, hmembers]
    rfl

theorem loadAll_itemNodes (xs : List Value) (hxs : Value.itemsArePlain xs = true) {fuel : Nat}
    (hfuel : (itemTokens xs).length ≤ fuel + 1) (depth : Nat) :
    loadAll (sharedOf fuel depth) (itemNodes xs) = .ok (unsharedItems (rereadItems xs)) := by
  cases xs with
  | nil => rfl
  | cons x xs =>
    rw [Value.itemsArePlain, Bool.and_eq_true] at hxs
    rw [itemTokens, List.length_cons, List.length_append] at hfuel
    exact loadAll_cons (sharedOf_nodeOf x hxs.1 false (by omega) depth)
      (loadAll_itemNodes xs hxs.2 (by omega) depth)

theorem loadAll_entryNodes (ms : List (Scalar × Value)) (hms : Value.membersArePlain ms = true)
    {fuel : Nat} (hfuel : (memberTokens ms).length ≤ fuel + 1) (depth : Nat) :
    loadAll (fun e => both (keyOf depth e.1) (sharedOf fuel depth e.2)) (entryNodes ms) =
      .ok (unsharedMembers (rereadMembers ms)) := by
  cases ms with
  | nil => rfl
  | cons m ms =>
    obtain ⟨k, v⟩ := m
    rw [Value.membersArePlain, Bool.and_eq_true, Bool.and_eq_true, Scalar.isPlainKey_iff] at hms
    obtain ⟨⟨⟨⟨name, rfl⟩, -⟩, hv⟩, hms⟩ := hms
    rw [memberTokens, List.length_cons, List.length_cons, List.length_cons,
      List.length_append] at hfuel
    have hvalue := sharedOf_nodeOf v hv (Form.ofScalar (.text name)).isSimpleKey
      (show _ ≤ fuel by omega) depth
    rw [entryNodes, rereadMembers]
    refine loadAll_cons ?_ (loadAll_entryNodes ms hms (by omega) depth)
    rw [node_text, hvalue]
    rfl

end

theorem load_eq_ok {source : String} {ts : List Token} {n : Node} {s : Shared}
    (htokens : tokens source = .ok ts) (hnode : Node.ofTokens ts = .ok (some n))
    (hvalue : sharedOf (ts.length + 2) 0 n = .ok s) : load source = .ok s.value := by
  simp only [load, loadShared, htokens, hnode, hvalue, Except.mapError, bind, Except.bind, Except.map]

/-- **Loading what was written** for a map with members fails if a key is too long, and gives the map
with its texts as they are read otherwise. -/
theorem load_render {ms : Members} (hne : ms ≠ []) (h : (Value.map ms).isPlain = true) :
    load (render (.map ms)) = if membersFit ms then .ok (reread (.map ms)) else .error .malformed := by
  have hms : Value.membersArePlain ms = true := by rwa [Value.isPlain] at h
  have hrendered := tokens_render hne h
  cases hfits : membersFit ms with
  | false =>
    rw [hfits] at hrendered
    rw [load, loadShared, hrendered]
    rfl
  | true =>
    rw [hfits, if_pos rfl] at hrendered
    have htokens : tokensOf false (.map ms) =
        .blockMappingStart :: (memberTokens ms ++ [.blockEnd]) := by
      obtain ⟨m, ms, rfl⟩ := List.exists_cons_of_ne_nil hne
      rw [tokensOf]
    have hvalue := sharedOf_nodeOf (.map ms) h false (Nat.le_add_right _ 2) 0
    rw [htokens, nodeOf] at hvalue
    rw [load_eq_ok hrendered (ofTokens_memberTokens hms) hvalue, value_unshared]
    rfl

/-! ### Values that come back -/

/-- Whether a scalar is read as it was written: a text in single quotes has no next-line
characters. -/
def isKept : Scalar → Bool
  | .text s => !s.toList.contains '\x85' || (Form.ofScalar (.text s)).style false != .single
  | _ => true

mutual

/-- Whether all texts inside a value are read as they were written. -/
def keepsTexts : Value → Bool
  | .scalar s => isKept s
  | .list xs => itemsKeepTexts xs
  | .map ms => membersKeepTexts ms
  | .set _ => true
  | .pair _ _ => true

/-- Whether all texts inside the items of a list are read as they were written. -/
def itemsKeepTexts : List Value → Bool
  | [] => true
  | x :: xs => keepsTexts x && itemsKeepTexts xs

/-- Whether all keys of a map, and all texts inside its values, are read as they were written. -/
def membersKeepTexts : List (Scalar × Value) → Bool
  | [] => true
  | (k, v) :: ms => isKept k && keepsTexts v && membersKeepTexts ms

end

theorem rereadScalar_eq_self_iff {s : Scalar} : rereadScalar s = s ↔ isKept s = true := by
  cases s with
  | text s =>
    have htext : (Form.ofScalar (.text s)).text = s := rfl
    rw [rereadScalar, isKept, Form.heard, Scalar.text.injEq, htext]
    cases (Form.ofScalar (.text s)).style false with
    | single =>
      rw [← String.toList_inj, String.toList_ofList, refold_eq_self_iff]
      simp
    | _ => simp
  | _ => simp [rereadScalar, isKept]

theorem length_rereadMembers (ms : List (Scalar × Value)) :
    (rereadMembers ms).length = ms.length := by
  induction ms with
  | nil => rfl
  | cons m ms ih => rw [rereadMembers, List.length_cons, List.length_cons, ih]

theorem rereadMembers_text {ms : List (Scalar × Value)}
    (h : ∀ m ∈ ms, ∃ name, m.1 = .text name) : ∀ m ∈ rereadMembers ms, ∃ name, m.1 = .text name := by
  induction ms with
  | nil => exact fun m hm => absurd hm List.not_mem_nil
  | cons m ms ih =>
    obtain ⟨⟨name, hname⟩, hms⟩ := List.forall_mem_cons.mp h
    obtain ⟨k, v⟩ := m
    rw [rereadMembers]
    exact List.forall_mem_cons.mpr ⟨⟨_, congrArg rereadScalar hname⟩, ih hms⟩

mutual

/-- **A value comes back** exactly if all its texts do. -/
theorem reread_eq_self_iff (v : Value) (hv : v.isPlain = true) :
    reread v = v ↔ keepsTexts v = true := by
  cases v with
  | scalar s => rw [reread, keepsTexts, Value.scalar.injEq, rereadScalar_eq_self_iff]
  | set xs => rw [Value.isPlain] at hv; cases hv
  | pair a b => rw [Value.isPlain] at hv; cases hv
  | list xs =>
    rw [Value.isPlain] at hv
    rw [reread, keepsTexts, Value.list.injEq, rereadItems_eq_self_iff xs hv]
  | map ms =>
    obtain ⟨hmembers, hnodup⟩ := Value.isPlain_map_iff.mp hv
    rw [Value.isPlain] at hv
    rw [reread, keepsTexts, Value.map.injEq, ← rereadMembers_eq_self_iff ms hv]
    exact Members.ofList_eq_iff (rereadMembers_text fun m hm => (hmembers m hm).1)
      (length_rereadMembers ms) hnodup

theorem rereadItems_eq_self_iff (xs : List Value) (hxs : Value.itemsArePlain xs = true) :
    rereadItems xs = xs ↔ itemsKeepTexts xs = true := by
  cases xs with
  | nil => simp [rereadItems, itemsKeepTexts]
  | cons x xs =>
    rw [Value.itemsArePlain, Bool.and_eq_true] at hxs
    rw [rereadItems, itemsKeepTexts, List.cons.injEq, Bool.and_eq_true, reread_eq_self_iff x hxs.1,
      rereadItems_eq_self_iff xs hxs.2]

theorem rereadMembers_eq_self_iff (ms : List (Scalar × Value))
    (hms : Value.membersArePlain ms = true) :
    rereadMembers ms = ms ↔ membersKeepTexts ms = true := by
  cases ms with
  | nil => simp [rereadMembers, membersKeepTexts]
  | cons m ms =>
    obtain ⟨k, v⟩ := m
    rw [Value.membersArePlain, Bool.and_eq_true, Bool.and_eq_true] at hms
    rw [rereadMembers, membersKeepTexts, List.cons.injEq, Prod.mk.injEq, Bool.and_eq_true,
      Bool.and_eq_true, rereadScalar_eq_self_iff, reread_eq_self_iff v hms.1.2,
      rereadMembers_eq_self_iff ms hms.2]

end

/-- **A written map comes back** exactly if no key is too long to be found and no text is changed. -/
theorem load_render_eq_ok_iff {ms : Members} (hne : ms ≠ []) (h : (Value.map ms).isPlain = true) :
    load (render (.map ms)) = .ok (.map ms) ↔ membersFit ms = true ∧ membersKeepTexts ms = true := by
  have hkept := reread_eq_self_iff (.map ms) h
  rw [keepsTexts] at hkept
  rw [load_render hne h, ← hkept]
  cases membersFit ms <;> simp

end Yaml

end RouteAtlas
