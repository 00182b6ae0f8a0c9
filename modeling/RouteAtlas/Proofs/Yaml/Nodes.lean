import RouteAtlas.Proofs.Yaml.Tokens
import RouteAtlas.Yaml.Reading

/-!
# Nodes
-/

namespace RouteAtlas.Yaml

/-- The node of a scalar. -/
def Form.node (f : Form) : Node :=
  .scalar (if f.style false = .plain then .ofPlain f.heard else .text) f.heard

mutual

/-- The node of a value. -/
def nodeOf : Value → Node
  | .scalar s => (Form.ofScalar s).node
  | .list xs => .seq .seq (itemNodes xs)
  | .map ms => .map .map (entryNodes ms) none
  | .set _ => .empty
  | .pair _ _ => .empty

/-- The nodes of the items of a list. -/
def itemNodes : List Value → List Node
  | [] => []
  | x :: xs => nodeOf x :: itemNodes xs

/-- The nodes of the members of a map. -/
def entryNodes : List (Scalar × Value) → List (Node × Node)
  | [] => []
  | (k, v) :: ms => ((Form.ofScalar k).node, nodeOf v) :: entryNodes ms

end

namespace Parse

/-- What is known in front of tokens of which none is a tag or an anchor. -/
def feed (ts : List Token) : Feed := { tokens := ts }

variable {fuel : Nat} {t : Token} {ts ts' ts'' rest : List Token} {block indentless : Bool}
  {n k : Node} {ns : List Node} {es : List (Node × Node)}

theorem bind_eq {α β : Type} {p : Parse α} {g : α → Parse β} {f f' : Feed} {a : α}
    (h : p f = .ok (a, f')) : (p >>= g) f = g a f' := by
  change Except.bind (p f) _ = _
  rw [h]
  rfl

theorem optional_cons (t : Token) : optional t (feed (t :: ts)) = .ok (true, feed ts) := by
  rw [optional, bind_eq (a := some t) rfl]
  simp
  rfl

theorem optional_of_ne (h : ts.head? ≠ some t) : optional t (feed ts) = .ok (false, feed ts) := by
  rw [optional, bind_eq (a := ts.head?) rfl]
  simp [h]
  rfl

theorem atAny_cons (t : Token) (us : List Token) :
    atAny us (feed (t :: ts)) = .ok (us.contains t, feed (t :: ts)) := rfl

theorem node_scalar (text : String) (plain : Bool) :
    node (fuel + 1) block indentless (feed (.scalar text plain :: rest)) =
      .ok (.scalar (if plain then .ofPlain text else .text) text, feed rest) := by
  cases plain <;> rfl

theorem node_flowSequence :
    node (fuel + 2) block indentless (feed (.flowSequenceStart :: .flowSequenceEnd :: rest)) =
      .ok (.seq .seq [], feed rest) := rfl

theorem node_flowMapping :
    node (fuel + 2) block indentless (feed (.flowMappingStart :: .flowMappingEnd :: rest)) =
      .ok (.map .map [] none, feed rest) := rfl

theorem node_blockSequence (h : blockItems fuel (feed ts) = .ok (ns, feed rest)) :
    node (fuel + 1) true indentless (feed (.blockSequenceStart :: ts)) =
      .ok (.seq .seq ns, feed rest) := by
  have hnode : node (fuel + 1) true indentless (feed (.blockSequenceStart :: ts)) =
      (blockItems fuel >>= fun ns => pure (Node.seq .seq ns)) (feed ts) := rfl
  rw [hnode, bind_eq h]
  rfl

theorem node_blockMapping (h : blockEntries fuel (feed ts) = .ok (es, feed rest)) :
    node (fuel + 1) true indentless (feed (.blockMappingStart :: ts)) =
      .ok (.map .map es none, feed rest) := by
  have hnode : node (fuel + 1) true indentless (feed (.blockMappingStart :: ts)) =
      (blockEntries fuel >>= fun es => pure (Node.map .map es none)) (feed ts) := rfl
  rw [hnode, bind_eq h]
  rfl

theorem node_indentless (h : indentlessItems fuel (feed (.blockEntry :: ts)) = .ok (ns, feed rest)) :
    node (fuel + 1) block true (feed (.blockEntry :: ts)) = .ok (.seq .seq ns, feed rest) := by
  have hnode : node (fuel + 1) block true (feed (.blockEntry :: ts)) =
      (indentlessItems fuel >>= fun ns => pure (Node.seq .seq ns)) (feed (.blockEntry :: ts)) := rfl
  rw [hnode, bind_eq h]
  rfl

theorem blockItems_nil : blockItems (fuel + 1) (feed (.blockEnd :: rest)) = .ok ([], feed rest) := rfl

theorem blockItems_cons (ht : [.blockEntry, .blockEnd].contains t = false)
    (hnode : node fuel true false (feed (t :: ts)) = .ok (n, feed ts'))
    (hrest : blockItems fuel (feed ts') = .ok (ns, feed rest)) :
    blockItems (fuel + 1) (feed (.blockEntry :: t :: ts)) = .ok (n :: ns, feed rest) := by
  rw [blockItems, bind_eq (optional_cons _), if_pos rfl, bind_eq (atAny_cons _ _), ht]
  simp only [Bool.false_eq_true, if_false]
  rw [bind_eq hnode, bind_eq hrest]
  rfl

theorem indentlessItems_nil (h : rest.head? ≠ some .blockEntry) :
    indentlessItems (fuel + 1) (feed rest) = .ok ([], feed rest) := by
  rw [indentlessItems, bind_eq (optional_of_ne h)]
  rfl

theorem indentlessItems_cons (ht : [.blockEntry, .key, .value, .blockEnd].contains t = false)
    (hnode : node fuel true false (feed (t :: ts)) = .ok (n, feed ts'))
    (hrest : indentlessItems fuel (feed ts') = .ok (ns, feed rest)) :
    indentlessItems (fuel + 1) (feed (.blockEntry :: t :: ts)) = .ok (n :: ns, feed rest) := by
  rw [indentlessItems, bind_eq (optional_cons _), if_pos rfl, bind_eq (atAny_cons _ _), ht]
  simp only [Bool.false_eq_true, if_false]
  rw [bind_eq hnode, bind_eq hrest]
  rfl

theorem blockEntries_nil :
    blockEntries (fuel + 1) (feed (.blockEnd :: rest)) = .ok ([], feed rest) := rfl

theorem node_token (f : Form) :
    node (fuel + 1) block indentless (feed (f.token :: rest)) = .ok (f.node, feed rest) := by
  rw [Form.token, node_scalar, Form.node]
  simp

theorem blockEntries_cons (f : Form) (ht : [.key, .value, .blockEnd].contains t = false)
    (hvalue : node (fuel + 1) true true (feed (t :: ts)) = .ok (n, feed ts'))
    (hrest : blockEntries (fuel + 1) (feed ts') = .ok (es, feed rest)) :
    blockEntries (fuel + 2) (feed (.key :: f.token :: .value :: t :: ts)) =
      .ok ((f.node, n) :: es, feed rest) := by
  have hkey : [.key, .value, .blockEnd].contains f.token = false := rfl
  rw [blockEntries, bind_eq (optional_cons _), if_pos rfl, bind_eq (atAny_cons _ _), hkey]
  simp only [Bool.false_eq_true, if_false]
  rw [bind_eq (node_token f), bind_eq (optional_cons _), if_pos rfl, bind_eq (atAny_cons _ _), ht]
  simp only [Bool.false_eq_true, if_false]
  rw [bind_eq hvalue, bind_eq hrest]
  rfl

/-- The first token of a value. -/
theorem exists_tokensOf_eq_cons {v : Value} (hv : v.isPlain = true) (behindKey : Bool) :
    ∃ t ts, tokensOf behindKey v = t :: ts ∧ [.key, .value, .blockEnd].contains t = false ∧
      (behindKey = false → t ≠ .blockEntry) := by
  cases v with
  | scalar s =>
    rw [tokensOf]
    exact ⟨_, _, rfl, rfl, fun _ h => by cases h⟩
  | set xs => rw [Value.isPlain] at hv; cases hv
  | pair a b => rw [Value.isPlain] at hv; cases hv
  | list xs =>
    cases xs with
    | nil =>
      rw [tokensOf]
      exact ⟨_, _, rfl, rfl, fun _ h => by cases h⟩
    | cons x xs =>
      rw [tokensOf, itemTokens]
      cases behindKey with
      | true => exact ⟨_, _, rfl, rfl, fun h => by cases h⟩
      | false => exact ⟨_, _, rfl, rfl, fun _ h => by cases h⟩
  | map ms =>
    cases ms with
    | nil =>
      rw [tokensOf]
      exact ⟨_, _, rfl, rfl, fun _ h => by cases h⟩
    | cons m ms =>
      rw [tokensOf]
      exact ⟨_, _, rfl, rfl, fun _ h => by cases h⟩

theorem contains_of_ne_blockEntry (ht : [.key, .value, .blockEnd].contains t = false)
    (hentry : t ≠ .blockEntry) : [.blockEntry, .key, .value, .blockEnd].contains t = false ∧
      [.blockEntry, .blockEnd].contains t = false := by
  simp only [List.contains_cons, List.contains_nil, Bool.or_false, Bool.or_eq_false_iff,
    beq_eq_false_iff_ne] at ht ⊢
  exact ⟨⟨hentry, ht⟩, hentry, ht.2.2⟩

theorem head?_memberTokens (ms : List (Scalar × Value)) :
    (memberTokens ms ++ .blockEnd :: rest).head? ≠ some .blockEntry := by
  cases ms with
  | nil => exact fun h => by cases h
  | cons m ms =>
    rw [memberTokens]
    exact fun h => by cases h

mutual

/-- **The node of a value** is read from its tokens. -/
theorem node_tokensOf (v : Value) (hv : v.isPlain = true) {behindKey indentless : Bool}
    (hkey : behindKey = true → indentless = true) {fuel : Nat}
    (hfuel : 2 * (tokensOf behindKey v).length + 2 ≤ fuel) {rest : List Token}
    (hrest : behindKey = true → rest.head? ≠ some .blockEntry) :
    node fuel true indentless (feed (tokensOf behindKey v ++ rest)) = .ok (nodeOf v, feed rest) := by
  obtain ⟨fuel, rfl⟩ : ∃ g, fuel = g + 2 := ⟨fuel - 2, by omega⟩
  cases v with
  | scalar s =>
    rw [tokensOf, nodeOf]
    exact node_token _
  | set xs => rw [Value.isPlain] at hv; cases hv
  | pair a b => rw [Value.isPlain] at hv; cases hv
  | list xs =>
    rw [Value.isPlain] at hv
    rw [nodeOf]
    cases xs with
    | nil =>
      rw [tokensOf, itemNodes]
      exact node_flowSequence
    | cons x xs =>
      -- Items behind a key are not indented: what follows them must not look like one more.
      cases behindKey with
      | true =>
        rw [tokensOf, if_pos rfl] at hfuel ⊢
        have hitems := indentlessItems_itemTokens (x :: xs) hv (Nat.le_of_succ_le_succ hfuel)
          (hrest rfl)
        rw [hkey rfl]
        rw [itemTokens] at hitems ⊢
        exact node_indentless hitems
      | false =>
        rw [tokensOf, if_neg Bool.false_ne_true, List.length_cons, List.length_append] at hfuel
        rw [tokensOf, if_neg Bool.false_ne_true, List.cons_append, List.append_assoc]
        exact node_blockSequence (blockItems_itemTokens (x :: xs) hv (by omega))
  | map ms =>
    rw [Value.isPlain] at hv
    rw [nodeOf]
    cases ms with
    | nil =>
      rw [tokensOf, entryNodes]
      exact node_flowMapping
    | cons m ms =>
      rw [tokensOf, List.length_cons, List.length_append] at hfuel
      rw [tokensOf, List.cons_append, List.append_assoc]
      exact node_blockMapping (blockEntries_memberTokens (m :: ms) hv (by omega))

theorem blockItems_itemTokens (xs : List Value) (hxs : Value.itemsArePlain xs = true) {fuel : Nat}
    (hfuel : 2 * (itemTokens xs).length + 1 ≤ fuel) {rest : List Token} :
    blockItems fuel (feed (itemTokens xs ++ .blockEnd :: rest)) = .ok (itemNodes xs, feed rest) := by
  obtain ⟨fuel, rfl⟩ : ∃ g, fuel = g + 1 := ⟨fuel - 1, by omega⟩
  cases xs with
  | nil => exact blockItems_nil
  | cons x xs =>
    rw [Value.itemsArePlain, Bool.and_eq_true] at hxs
    rw [itemTokens, List.length_cons, List.length_append] at hfuel
    obtain ⟨t, ts, htokens, ht, hentry⟩ := exists_tokensOf_eq_cons hxs.1 false
    have hitem : node fuel true false
        (feed (tokensOf false x ++ (itemTokens xs ++ .blockEnd :: rest))) = _ :=
      node_tokensOf x hxs.1 (fun h => by cases h) (by omega) (fun h => by cases h)
    have hitems : blockItems fuel (feed (itemTokens xs ++ .blockEnd :: rest)) = _ :=
      blockItems_itemTokens xs hxs.2 (by omega)
    rw [htokens] at hitem
    rw [itemTokens, itemNodes, List.cons_append, List.append_assoc, htokens]
    exact blockItems_cons (contains_of_ne_blockEntry ht (hentry rfl)).2 hitem hitems

theorem indentlessItems_itemTokens (xs : List Value) (hxs : Value.itemsArePlain xs = true)
    {fuel : Nat} (hfuel : 2 * (itemTokens xs).length + 1 ≤ fuel) {rest : List Token}
    (hrest : rest.head? ≠ some .blockEntry) :
    indentlessItems fuel (feed (itemTokens xs ++ rest)) = .ok (itemNodes xs, feed rest) := by
  obtain ⟨fuel, rfl⟩ : ∃ g, fuel = g + 1 := ⟨fuel - 1, by omega⟩
  cases xs with
  | nil => exact indentlessItems_nil hrest
  | cons x xs =>
    rw [Value.itemsArePlain, Bool.and_eq_true] at hxs
    rw [itemTokens, List.length_cons, List.length_append] at hfuel
    obtain ⟨t, ts, htokens, ht, hentry⟩ := exists_tokensOf_eq_cons hxs.1 false
    have hitem : node fuel true false (feed (tokensOf false x ++ (itemTokens xs ++ rest))) = _ :=
      node_tokensOf x hxs.1 (fun h => by cases h) (by omega) (fun h => by cases h)
    have hitems := indentlessItems_itemTokens xs hxs.2 (show _ ≤ fuel by omega) hrest
    rw [htokens] at hitem
    rw [itemTokens, itemNodes, List.cons_append, List.append_assoc, htokens]
    exact indentlessItems_cons (contains_of_ne_blockEntry ht (hentry rfl)).1 hitem hitems

theorem blockEntries_memberTokens (ms : List (Scalar × Value))
    (hms : Value.membersArePlain ms = true) {fuel : Nat}
    (hfuel : 2 * (memberTokens ms).length + 1 ≤ fuel) {rest : List Token} :
    blockEntries fuel (feed (memberTokens ms ++ .blockEnd :: rest)) =
      .ok (entryNodes ms, feed rest) := by
  cases ms with
  | nil =>
    obtain ⟨fuel, rfl⟩ : ∃ g, fuel = g + 1 := ⟨fuel - 1, by omega⟩
    exact blockEntries_nil
  | cons m ms =>
    obtain ⟨key, v⟩ := m
    rw [Value.membersArePlain, Bool.and_eq_true, Bool.and_eq_true] at hms
    obtain ⟨⟨-, hv⟩, hms⟩ := hms
    rw [memberTokens, List.length_cons, List.length_cons, List.length_cons,
      List.length_append] at hfuel
    obtain ⟨fuel, rfl⟩ : ∃ g, fuel = g + 2 := ⟨fuel - 2, by omega⟩
    obtain ⟨t, ts, htokens, ht, -⟩ := exists_tokensOf_eq_cons hv (Form.ofScalar key).isSimpleKey
    have hvalue : node (fuel + 1) true true (feed (tokensOf (Form.ofScalar key).isSimpleKey v ++
        (memberTokens ms ++ .blockEnd :: rest))) = _ :=
      node_tokensOf v hv (fun _ => rfl) (by omega) (fun _ => head?_memberTokens ms)
    have hmembers : blockEntries (fuel + 1) (feed (memberTokens ms ++ .blockEnd :: rest)) = _ :=
      blockEntries_memberTokens ms hms (by omega)
    rw [htokens] at hvalue
    rw [memberTokens, entryNodes, htokens]
    simpa using blockEntries_cons (Form.ofScalar key) ht hvalue hmembers

end

end Parse

/-- **The node of a written map.** -/
theorem ofTokens_memberTokens {ms : Members} (h : Value.membersArePlain ms = true) :
    Node.ofTokens (.blockMappingStart :: (memberTokens ms ++ [.blockEnd])) =
      .ok (some (.map .map (entryNodes ms) none)) := by
  let size := (memberTokens ms ++ [Token.blockEnd]).length + 1
  have hfuel : 2 * (memberTokens ms).length + 1 ≤ 3 * size + 2 := by
    simp only [size, List.length_append]
    omega
  have hnode : Parse.node (3 * size + 3) true false
      (Parse.feed (.blockMappingStart :: (memberTokens ms ++ [.blockEnd]))) = _ :=
    Parse.node_blockMapping (Parse.blockEntries_memberTokens ms h hfuel)
  have hdocument : Parse.document
      (Parse.feed (.blockMappingStart :: (memberTokens ms ++ [.blockEnd]))) =
        (Parse.node (3 * size + 3) true false >>= fun n => do
          Parse.skipEnds size
          if (← Parse.peek).isSome then throw .malformed
          return some n)
        (Parse.feed (.blockMappingStart :: (memberTokens ms ++ [.blockEnd]))) := rfl
  have hends : Parse.skipEnds size (Parse.feed []) = .ok ((), Parse.feed []) := rfl
  change (Parse.document (Parse.feed _)).map (·.1) = _
  rw [hdocument, Parse.bind_eq hnode, Parse.bind_eq hends]
  rfl

end RouteAtlas.Yaml
