import RouteAtlas.Proofs.Shape

/-!
# Merging what a model wrote

A text about a route is either merged as a whole or not used at all. `HoldsOperations` says of a loaded
value that it can be merged: one path, and under it operations by method. `Document.IsMerge` says what
merging does to a document: the operations stand under the path, other methods and other paths keep
what they have, and the list of tags gets those tags of the operations that are new, at its end. In
every other case, that of a text that cannot be loaded included, the document is the one that adding
the route leaves (`after_addText`). Both hold in **every state that steps can reach**, also after steps
that failed half-way: whatever a step does to a draft, it leaves a draft (`exists_afterAll_document`).

What the operations are after the rewriting is told by `rewriteFirst`. An operation in which no
operation stands is seen as it was written, with texts as response codes. An alias can put an operation
into another one, and then the first is rewritten inside of the second too
(`operation?_after_nestedText_ne`).
-/

namespace RouteAtlas

/-! ### Loaded values -/

namespace Yaml

theorem eq_ok_of_both {α β : Type} {a : Loaded α} {b : Loaded β} {p : α × β} (h : both a b = .ok p) :
    a = .ok p.1 ∧ b = .ok p.2 := by
  cases a with
  | error r => cases b <;> cases h
  | ok a =>
    cases b with
    | error r => cases h
    | ok b =>
      obtain rfl := Except.ok.inj h
      exact ⟨rfl, rfl⟩

theorem exists_of_mem_loadAll {α β : Type} {load : α → Loaded β} {as : List α} {bs : List β}
    (h : loadAll load as = .ok bs) {b : β} (hb : b ∈ bs) : ∃ a ∈ as, load a = .ok b := by
  induction as generalizing bs with
  | nil =>
    obtain rfl := Except.ok.inj h
    cases hb
  | cons a as ih =>
    rw [loadAll] at h
    obtain ⟨p, hp, rfl⟩ := exists_ok_of_map h
    obtain ⟨ha, has⟩ := eq_ok_of_both hp
    rcases List.mem_cons.mp hb with rfl | hb
    · exact ⟨a, List.mem_cons_self, ha⟩
    · obtain ⟨a', ha', hload⟩ := ih has hb
      exact ⟨a', List.mem_cons_of_mem a ha', hload⟩

/-- The members of a map that was loaded are entries that were set one after the other, and each of
their values was loaded too. -/
theorem exists_ofList_of_sharedOf {fuel depth : Nat} {n : Node} {mark : Option Mark}
    {ms : List (Scalar × Shared)} (h : sharedOf fuel depth n = .ok (.map mark ms)) :
    ∃ entries, ms = Members.ofList entries ∧
      ∀ e ∈ entries, ∃ fuel depth n, sharedOf fuel depth n = .ok e.2 := by
  cases fuel with
  | zero => cases h
  | succ fuel =>
    -- Of the nodes of each kind only a map without another tag comes to a map.
    have hscalar : ∀ tag text,
        ((scalarOf tag text).map Shared.scalar).mapError (Reason.mk depth) ≠ .ok (.map mark ms) := by
      intro tag text heq
      obtain ⟨_, -, hscalar⟩ := exists_ok_of_map (eq_ok_of_mapError heq)
      cases hscalar
    have hlist : ∀ x : Loaded (List Shared), x.map Shared.list ≠ .ok (.map mark ms) := by
      intro x heq
      obtain ⟨_, -, hlist⟩ := exists_ok_of_map heq
      cases hlist
    cases n with
    | scalar tag text =>
      rw [sharedOf.eq_def] at h
      dsimp only at h
      split_ifs at h
      exact absurd h (hscalar tag text)
    | seq tag items =>
      rw [sharedOf.eq_def] at h
      dsimp only at h
      split at h
      · exact absurd h (hlist _)
      · exact absurd h (hlist _)
      · exact absurd h (hlist _)
      · split_ifs at h
    | map tag es mark' =>
      rw [sharedOf.eq_def] at h
      dsimp only at h
      split at h
      · split at h
        · cases h
        · obtain ⟨entries, hentries, hmap⟩ := exists_ok_of_map h
          refine ⟨entries, (Shared.map.inj hmap).2.symm, fun e he => ?_⟩
          obtain ⟨entry, -, hboth⟩ := exists_of_mem_loadAll hentries he
          exact ⟨fuel, depth + 1, entry.2, (eq_ok_of_both hboth).2⟩
      · split at h
        · cases h
        · obtain ⟨_, -, hset⟩ := exists_ok_of_map h
          cases hset
      · split_ifs at h
        split at h
        · exact absurd h (hscalar tag _)
        · cases h

/-- A map that was loaded comes from a node. -/
theorem exists_sharedOf_of_loadShared {text : String} {mark : Option Mark} {ms : List (Scalar × Shared)}
    (h : loadShared text = .ok (.map mark ms)) :
    ∃ fuel depth n, sharedOf fuel depth n = .ok (.map mark ms) := by
  rw [loadShared] at h
  obtain ⟨ts, -, h⟩ := exists_ok_of_bind h
  obtain ⟨n, -, h⟩ := exists_ok_of_bind h
  cases n with
  | none => cases h
  | some n => exact ⟨_, _, n, eq_ok_of_mapError h⟩

end Yaml

/-! ### Values that can be merged -/

/-- What can be merged: a map with one member, whose key is a path and whose value a map, not empty,
in which all keys are the names of methods and all values maps. -/
structure HoldsOperations (v : Shared) (path : String) (operations : List (Scalar × Shared)) : Prop where
  /-- The value is one path with operations. -/
  eq_map : ∃ mark mark', v = .map mark [(.text path, .map mark' operations)]
  /-- There is an operation. -/
  ne_nil : operations ≠ []
  /-- Each of them is a map under the name of a method. -/
  isOperation : ∀ o ∈ operations, (∃ m : Method, o.1 = .text m.key) ∧ ∃ mark ms, o.2 = .map mark ms

theorem isOperationKey_key (m : Method) : isOperationKey (.text m.key) = true := by
  cases m <;> decide

/-- The check lets maps under the names of methods pass, and nothing else. -/
theorem checkOperations_eq_ok_iff {ms : Members} :
    checkOperations ms = .ok ms ↔
      ∀ o ∈ ms, (∃ m : Method, o.1 = .text m.key) ∧ ∃ operation, o.2 = .map operation := by
  induction ms with
  | nil => simp [checkOperations]
  | cons o ms ih =>
    rw [List.forall_mem_cons, ← ih]
    constructor
    · intro h
      obtain ⟨m, operation, rest, rfl, hrest, -⟩ := exists_of_checkOperations_cons h
      exact ⟨⟨⟨m, rfl⟩, operation, rfl⟩, by rw [hrest, eq_of_checkOperations hrest]⟩
    · obtain ⟨key, value⟩ := o
      rintro ⟨⟨⟨m, rfl⟩, operation, rfl⟩, hrest⟩
      rw [checkOperations, if_pos (isOperationKey_key m), hrest]
      rfl

theorem Shared.isSome_mark?_iff {s : Shared} : s.mark?.isSome = true ↔ ∃ mark ms, s = .map mark ms := by
  cases s with
  | map mark ms => exact ⟨fun _ => ⟨mark, ms, rfl⟩, fun _ => rfl⟩
  | _ => exact ⟨fun h => Bool.noConfusion h, by rintro ⟨_, _, h⟩; cases h⟩

theorem Shared.exists_value_eq_map_iff {s : Shared} :
    (∃ ms, s.value = .map ms) ↔ s.mark?.isSome = true := by
  rw [isSome_mark?_iff]
  constructor
  · rintro ⟨ms, h⟩
    obtain ⟨mark, ms', hs, -⟩ := eq_map_of_value h
    exact ⟨mark, ms', hs⟩
  · rintro ⟨mark, ms, rfl⟩
    exact ⟨memberValues ms, by rw [value]⟩

/-- Whether operations pass the check does not depend on the rewriting: it leaves the keys, and maps
stay maps. -/
theorem checkOperations_rewriteFirst_iff {operations : List (Scalar × Shared)} (n : Nat) :
    checkOperations (Shared.memberValues (rewriteFirst operations n)) =
        .ok (Shared.memberValues (rewriteFirst operations n)) ↔
      ∀ o ∈ operations, (∃ m : Method, o.1 = .text m.key) ∧ ∃ mark ms, o.2 = .map mark ms := by
  have houtline : ∀ os : List (Scalar × Shared),
      (∀ o ∈ os, (∃ m : Method, o.1 = .text m.key) ∧ o.2.mark?.isSome = true) ↔
        ∀ x ∈ os.map outline, (∃ m : Method, x.1 = .text m.key) ∧ x.2.1.isSome = true := by
    simp only [List.forall_mem_map, outline, implies_true]
  simp only [checkOperations_eq_ok_iff, Shared.memberValues_eq_map, List.forall_mem_map,
    Shared.exists_value_eq_map_iff, ← Shared.isSome_mark?_iff]
  rw [houtline, houtline, map_outline_rewriteFirst]

theorem rewriteFirst_ne_nil {operations : List (Scalar × Shared)} (h : operations ≠ []) (n : Nat) :
    Shared.memberValues (rewriteFirst operations n) ≠ [] := by
  rw [← List.length_pos_iff] at h ⊢
  rwa [Shared.memberValues_eq_map, List.length_map, length_rewriteFirst]

/-- What can be merged becomes a fragment. -/
theorem HoldsOperations.ofValue_rewritten {v : Shared} {path : String}
    {operations : List (Scalar × Shared)} (h : HoldsOperations v path operations) :
    Fragment.ofValue (rewritten v) =
      .ok ⟨pathTemplate path, Shared.memberValues (rewriteFirst operations operations.length)⟩ := by
  obtain ⟨⟨mark, mark', rfl⟩, hne, hoperations⟩ := h
  have hcheck := (checkOperations_rewriteFirst_iff operations.length).mpr hoperations
  obtain ⟨m, ms, hcons⟩ := List.exists_cons_of_ne_nil (rewriteFirst_ne_nil hne operations.length)
  rw [hcons] at hcheck
  rw [rewritten, hcons, Fragment.ofValue, hcheck]
  rfl

/-- Only what can be merged becomes a fragment. -/
theorem exists_holdsOperations_of_ofValue {v : Shared} {f : Fragment}
    (h : Fragment.ofValue (rewritten v) = .ok f) :
    ∃ path operations, HoldsOperations v path operations := by
  obtain ⟨path, m, ms, hvalue, -, hcheck⟩ := exists_checkOperations_of_ofValue h
  obtain ⟨mark, mark', operations, rfl, hrewritten⟩ := exists_of_rewritten_eq hvalue
  rw [eq_of_checkOperations hcheck, hrewritten] at hcheck
  refine ⟨path, operations, ⟨mark, mark', rfl⟩, ?_, (checkOperations_rewriteFirst_iff _).mp hcheck⟩
  rintro rfl
  cases hrewritten

/-- The methods of a loaded value are different. -/
theorem HoldsOperations.nodup {v : Shared} {path : String} {operations : List (Scalar × Shared)}
    (h : HoldsOperations v path operations) {text : String} (hload : Yaml.loadShared text = .ok v) :
    (operations.map Prod.fst).Nodup := by
  obtain ⟨⟨mark, mark', rfl⟩, -, hoperations⟩ := h
  obtain ⟨fuel, depth, n, hn⟩ := Yaml.exists_sharedOf_of_loadShared hload
  obtain ⟨entries, hentries, hloaded⟩ := Yaml.exists_ofList_of_sharedOf hn
  obtain ⟨e, he, hvalue⟩ := Members.exists_mem_of_mem_ofList (hentries ▸ List.mem_singleton_self _)
  obtain ⟨fuel', depth', n', hn'⟩ := hloaded e he
  rw [← hvalue] at hn'
  obtain ⟨entries', rfl, -⟩ := Yaml.exists_ofList_of_sharedOf hn'
  exact Members.nodup_ofList fun o ho =>
    let ⟨m, hm⟩ := (hoperations o ho).1
    ⟨m.key, hm⟩

/-! ### Every step leaves a draft -/

namespace Draft

/-- A step that leaves a written draft of every written draft, whether or not it fails. -/
def LeavesDraft {α : Type} (e : Edit α) : Prop :=
  ∀ d : Draft, ∃ (result : Except Fault α) (d' : Draft), e.run d.document = (result, d'.document)

theorem LeavesDraft.bind {α β : Type} {x : Edit α} {f : α → Edit β} (hx : LeavesDraft x)
    (hf : ∀ a, LeavesDraft (f a)) : LeavesDraft (x >>= f) := by
  intro d
  obtain ⟨result, d', hrun⟩ := hx d
  cases result with
  | error fault => exact ⟨_, d', run_bind_error hrun f⟩
  | ok a =>
    rw [run_bind_ok hrun]
    exact hf a d'

theorem leavesDraft_addOperation (path : String) (r : Route) :
    LeavesDraft (Document.addOperation path r) := by
  intro d
  by_cases hr : r.HasKnownMethod
  · exact ⟨_, _, run_addOperation d path hr⟩
  · -- An operation that cannot be built leaves the path as it is.
    have hbuild : Operation.build r = .error (.missingKey (.text r.method)) := by
      rw [Route.hasKnownMethod_iff, Option.not_isSome_iff_eq_none] at hr
      rw [Operation.build, hr]
    exact ⟨_, d, run_bind_error (Document.run_read_error hbuild d.document) _⟩

theorem leavesDraft_addOperations (path : String) (rs : List Route) :
    LeavesDraft (Document.addOperations path rs) := by
  induction rs with
  | nil => exact fun d => ⟨_, d, rfl⟩
  | cons r rs ih => exact (leavesDraft_addOperation path r).bind fun _ => ih

theorem leavesDraft_addGroups (gs : List (String × List Route)) :
    LeavesDraft (Document.addGroups gs) := by
  induction gs with
  | nil => exact fun d => ⟨_, d, rfl⟩
  | cons g gs ih =>
    have hopen : LeavesDraft (Document.openPath g.1) := fun d => ⟨_, _, d.run_openPath g.1⟩
    exact hopen.bind fun _ => (leavesDraft_addOperations g.1 g.2).bind fun _ => ih

/-- Adding routes leaves a draft, also if it comes to a route of an unknown method. -/
theorem leavesDraft_addRoutes (rs : List Route) : LeavesDraft (Document.addRoutes rs) := by
  have hpaths : LeavesDraft (Document.require "paths") :=
    fun d => ⟨_, d, Document.run_require d.find?_paths⟩
  exact hpaths.bind fun _ => (leavesDraft_addGroups _).bind fun _ d => ⟨_, _, d.run_addTags _⟩

theorem exists_after_document (d : Draft) (s : Step) :
    ∃ d' : Draft, d.document.after s = d'.document := by
  by_cases hs : s.HasKnownMethods
  · exact ⟨d.after s, d.after_document hs⟩
  · cases s with
    | addRoutes routes =>
      obtain ⟨_, d', hrun⟩ := leavesDraft_addRoutes routes d
      exact ⟨d', congrArg Prod.snd hrun⟩
    | addText route text =>
      simp only [Document.after, Step.edit]
      cases hread : readFragment text with
      | error e => exact ⟨d, rfl⟩
      | ok fragment =>
        cases fragment with
        | error reason =>
          obtain ⟨_, d', hrun⟩ := leavesDraft_addRoutes [route] d
          exact ⟨d', congrArg Prod.snd hrun⟩
        | ok f =>
          exact ⟨_, congrArg Prod.snd (d.run_mergeFragment (isChecked_of_readFragment hread))⟩
    | _ => exact absurd (fun r hr => absurd hr List.not_mem_nil) hs

/-- **Whatever steps are taken, they leave a draft.** -/
theorem exists_afterAll_document (d : Draft) (steps : List Step) :
    ∃ d' : Draft, d.document.afterAll steps = d'.document := by
  induction steps generalizing d with
  | nil => exact ⟨d, rfl⟩
  | cons s steps ih =>
    obtain ⟨d', hd'⟩ := d.exists_after_document s
    rw [Document.afterAll, List.foldl_cons, hd']
    exact ih d'

/-! ### What merging leaves -/

/-- Tags that are listed one after the other: those that are new, each once, go to the end. -/
theorem foldl_listTag (tags : List (String × String)) (names : List String) :
    names.foldl listTag tags = tags ++
      ((names.filter (· ∉ tags.map Prod.fst)).eraseDups).map fun name =>
        (name, name ++ " related endpoints") := by
  induction names generalizing tags with
  | nil => simp
  | cons name names ih =>
    rw [List.foldl_cons, ih, listTag]
    split_ifs with h
    · rw [List.filter_cons_of_neg (by simpa using h)]
    · rw [List.filter_cons_of_pos (by simpa using h), List.eraseDups_cons, List.filter_filter,
        List.map_cons, List.append_assoc, List.singleton_append]
      have hfilter : names.filter (· ∉ (tags ++ [(name, name ++ " related endpoints")]).map Prod.fst) =
          names.filter fun a => !a == name && decide (a ∉ tags.map Prod.fst) :=
        List.filter_congr fun a _ => by
          rw [List.map_append, Bool.eq_iff_iff]
          simp only [List.map_singleton, List.mem_append, List.mem_singleton, not_or, Bool.and_eq_true,
            decide_eq_true_eq, Bool.not_eq_true', beq_eq_false_iff_ne]
          exact and_comm
      rw [hfilter]

variable (d : Draft)

/-- The path items after merging: that of the path has the operations of the fragment. -/
theorem pathItems_merge {f : Fragment} (hf : f.IsChecked) :
    (d.merge f).document.pathItems = Members.put d.document.pathItems f.path
      (.map (Members.insertAll
        (((Members.find? d.document.pathItems f.path).bind Value.members?).getD []) f.operations)) := by
  have hpresent : (((Table.get? f.path d.paths).map itemValue).bind Value.members?).getD [] =
      Members.ofTable Method.key .map ((Table.get? f.path d.paths).getD []) := by
    cases Table.get? f.path d.paths <;> rfl
  rw [pathItems_document, pathItems_document, find?_ofTable_itemValue, hpresent, merge,
    Table.update, ← put_ofTable_itemValue, itemValue]
  conv_rhs => rw [← hf]
  rw [Members.insertAll_ofTable Method.key_injective]

theorem operation?_merge {f : Fragment} (hf : f.IsChecked) (hnodup : (f.operations.map Prod.fst).Nodup)
    (key : String) :
    (d.merge f).document.operation? f.path key =
      (Members.find? f.operations key).or (d.document.operation? f.path key) := by
  have htexts : ∀ o ∈ f.operations, ∃ name, o.1 = .text name := by
    rw [← hf]
    exact List.forall_mem_map.mpr fun o _ => ⟨o.1.key, rfl⟩
  rw [Document.operation?, pathItems_merge d hf, Members.find?_put_self]
  change Members.find? (Members.insertAll _ f.operations) key = _
  rw [Members.find?_insertAll htexts hnodup, Document.operation?]
  cases (Members.find? d.document.pathItems f.path).bind Value.members? <;> rfl

end Draft

/-- One document is another into which operations were merged under a path. -/
structure Document.IsMerge (d : Document) (path : String) (operations : List (Scalar × Shared))
    (d' : Document) : Prop where
  /-- Each operation stands under the path as it is after the rewriting. -/
  rewritten : ∀ (i : Nat) (key : String) (s : Shared), operations[i]? = some (.text key, s) →
    ∃ s', (rewriteFirst operations operations.length)[i]? = some (.text key, s') ∧
      d'.operation? path key = some s'.value
  /-- If no operation stands in it, then only its own response codes are turned into texts. -/
  textCoded : ∀ (key : String) (mark : Option Mark) (ms : List (Scalar × Shared)),
    (.text key, .map mark ms) ∈ operations → HoldsNone operations ms →
      d'.operation? path key = some (.map (Members.withTextCodes (Shared.memberValues ms)))
  /-- Other methods keep what they have. -/
  otherMethods : ∀ key : String, .text key ∉ operations.map Prod.fst →
    d'.operation? path key = d.operation? path key
  /-- Other paths keep what they have. -/
  otherPaths : ∀ other, other ≠ path → Members.find? d'.pathItems other = Members.find? d.pathItems other
  /-- New tags go to the end, in the order in which the operations have them, each of them once. -/
  tags : d'.tagList = d.tagList ++ (((operations.flatMap fun o => textTags o.2.value).filter
    (some · ∉ d.tagNames)).eraseDups).map tagObject
  /-- All else stays. -/
  otherMembers : ∀ name, name ≠ "paths" → name ≠ "tags" → Members.find? d' name = Members.find? d name

theorem map_fst_rewriteFirst (operations : List (Scalar × Shared)) (n : Nat) :
    (rewriteFirst operations n).map Prod.fst = operations.map Prod.fst := by
  have hfst : ∀ os : List (Scalar × Shared), os.map Prod.fst = (os.map outline).map Prod.fst := by
    intro os
    rw [List.map_map]
    rfl
  rw [hfst, hfst, map_outline_rewriteFirst]

theorem flatMap_textTags_rewriteFirst (operations : List (Scalar × Shared)) (n : Nat) :
    ((Shared.memberValues (rewriteFirst operations n)).flatMap fun o => Document.textTags o.2) =
      operations.flatMap fun o => Document.textTags o.2.value := by
  have htags : ∀ os : List (Scalar × Shared), (os.flatMap fun o => Document.textTags o.2.value) =
      (os.map outline).flatMap fun x => x.2.2 := by
    intro os
    rw [List.flatMap_map]
    rfl
  rw [Shared.memberValues_eq_map, List.flatMap_map, htags, htags, map_outline_rewriteFirst]

/-- **Merging into a written draft.** -/
theorem Draft.isMerge_merge (d : Draft) {path : String} {operations : List (Scalar × Shared)}
    (hnodup : (operations.map Prod.fst).Nodup) {f : Fragment} (hf : f.IsChecked) (hpath : f.path = path)
    (hoperations : f.operations = Shared.memberValues (rewriteFirst operations operations.length)) :
    d.document.IsMerge path operations (d.merge f).document := by
  subst hpath
  have hkeys : f.operations.map Prod.fst = operations.map Prod.fst := by
    rw [hoperations, Shared.memberValues_eq_map, List.map_map, ← map_fst_rewriteFirst]
    rfl
  have hnodup' : (f.operations.map Prod.fst).Nodup := hkeys ▸ hnodup
  -- No key stands twice, so what was rewritten under a key is what is found under it.
  have hfound : ∀ {i : Nat} {key : String} {s : Shared},
      (rewriteFirst operations operations.length)[i]? = some (.text key, s) →
        (d.merge f).document.operation? f.path key = some s.value := by
    intro i key s hi
    have hmem : (.text key, s.value) ∈ f.operations := by
      rw [hoperations, Shared.memberValues_eq_map]
      exact List.mem_map_of_mem (List.mem_of_getElem? hi)
    rw [d.operation?_merge hf hnodup', Members.find?_of_mem hnodup' hmem, Option.some_or]
  refine ⟨fun i key s hi => ?_, fun key mark ms hmem hnone => ?_, fun key hkey => ?_,
    fun other hne => ?_, ?_, fun name hpaths htags => d.find?_with_paths_tags _ _ hpaths htags⟩
  · have hkey := congrArg (·[i]?) (map_fst_rewriteFirst operations operations.length)
    simp only [List.getElem?_map, hi, Option.map_some] at hkey
    obtain ⟨⟨key', s'⟩, hs', rfl⟩ := Option.map_eq_some_iff.mp hkey
    exact ⟨s', hs', hfound hs'⟩
  · obtain ⟨i, hi⟩ := List.getElem?_of_mem hmem
    obtain ⟨ms', hms', hvalues⟩ := exists_getElem?_rewriteFirst hi hnone
    rw [hfound hms', Shared.value, hvalues]
  · rw [d.operation?_merge hf hnodup', Members.find?_eq_none_iff.mpr (hkeys ▸ hkey), Option.none_or]
  · rw [d.pathItems_merge hf, Members.find?_put_of_ne hne]
  · have hnew : ∀ name : String, some name ∈ d.document.tagNames ↔ name ∈ d.tags.map Prod.fst := by
      intro name
      simp [Draft.tagNames_document]
    simp only [Draft.tagList_document, Draft.merge, foldl_listTag, hoperations,
      flatMap_textTags_rewriteFirst, hnew, List.map_append, List.map_map]
    rfl

/-- A text that is loaded, or refused for a reason that is forgiven, leads to a step that can be
taken. -/
theorem exists_readFragment {text : String}
    (hload : ∀ e, Yaml.loadShared text = .error e → isForgiven e = true) :
    ∃ fragment, readFragment text = .ok fragment := by
  rw [readFragment]
  cases h : Yaml.loadShared text with
  | ok v => exact ⟨_, rfl⟩
  | error e =>
    have hforgiven := hload e h
    cases e with
    | malformed => exact ⟨_, rfl⟩
    | _ => exact ⟨_, if_pos hforgiven⟩

/-- **A text is merged as a whole or not used at all.** Whatever steps were taken before, the step that
adds a text about a route of a known method ends well. If the loaded value is one path with operations,
then these are merged. In every other case the document is the one that adding the route leaves. -/
theorem after_addText (title version description : Value) (steps : List Step) {route : Route}
    (hroute : route.HasKnownMethod) {text : String}
    (hload : ∀ e, Yaml.loadShared text = .error e → isForgiven e = true) :
    let d := (Document.new title version description).afterAll steps
    (∃ e, (Step.addText route text).edit = .ok e ∧ (d.apply e).1 = .ok ()) ∧
    (∀ v path operations, Yaml.loadShared text = .ok v → HoldsOperations v path operations →
      d.IsMerge (pathTemplate path) operations (d.after (.addText route text))) ∧
    ((∀ v path operations, Yaml.loadShared text = .ok v → ¬ HoldsOperations v path operations) →
      d.after (.addText route text) = d.after (.addRoutes [route])) := by
  intro d
  obtain ⟨draft, hd⟩ := (Draft.new title version description).exists_afterAll_document steps
  change d = _ at hd
  clear_value d
  subst hd
  obtain ⟨fragment, hread⟩ := exists_readFragment hload
  have hedit : (Step.addText route text).edit = .ok (Document.addFragment route fragment) := by
    rw [Step.edit, hread]
    rfl
  have hafter : draft.document.after (.addText route text) =
      (draft.document.apply (Document.addFragment route fragment)).2 := by
    rw [Document.after, hedit]
  rw [hedit, hafter]
  cases fragment with
  | ok f =>
    have hf := isChecked_of_readFragment hread
    have hrun : draft.document.apply (Document.addFragment route (.ok f)) = _ :=
      draft.run_mergeFragment hf
    obtain ⟨v, hv, hvalue⟩ := exists_ofValue_of_readFragment hread
    refine ⟨⟨_, rfl, by rw [hrun]⟩, fun v' path operations hv' hholds => ?_, fun hnone => ?_⟩
    · obtain rfl : v = v' := Except.ok.inj (hv.symm.trans hv')
      obtain rfl := Except.ok.inj (hvalue.symm.trans hholds.ofValue_rewritten)
      rw [hrun]
      exact draft.isMerge_merge (hholds.nodup hv) hf rfl rfl
    · obtain ⟨path, operations, hholds⟩ := exists_holdsOperations_of_ofValue hvalue
      exact absurd hholds (hnone v path operations hv)
  | error reason =>
    have hrun : draft.document.apply (Document.addFragment route (.error reason)) = _ :=
      draft.run_addRoutes (List.forall_mem_singleton.mpr hroute)
    refine ⟨⟨_, rfl, by rw [hrun]⟩, fun v path operations hv hholds => ?_, fun _ => rfl⟩
    -- What can be merged has become a fragment.
    rw [readFragment, hv, Except.ok.injEq, hholds.ofValue_rewritten] at hread
    cases hread

/-- The template of the path under which a text is merged; nothing if it cannot be merged. -/
def mergePath? (text : String) : Option String :=
  (readFragment text).toOption.bind fun fragment => fragment.toOption.map Fragment.path

theorem mergePath?_eq_some_iff {text template : String} :
    mergePath? text = some template ↔ ∃ v path operations, Yaml.loadShared text = .ok v ∧
      HoldsOperations v path operations ∧ pathTemplate path = template := by
  constructor
  · intro h
    rw [mergePath?] at h
    cases hread : readFragment text with
    | error e => rw [hread] at h; cases h
    | ok fragment =>
      rw [hread] at h
      obtain ⟨f, rfl, hf⟩ := exists_ok_of_map_toOption h
      obtain ⟨v, hv, hvalue⟩ := exists_ofValue_of_readFragment hread
      obtain ⟨path, operations, hholds⟩ := exists_holdsOperations_of_ofValue hvalue
      rw [hholds.ofValue_rewritten, Except.ok.injEq] at hvalue
      exact ⟨v, path, operations, hv, hholds, by rw [← hf, ← hvalue]⟩
  · rintro ⟨v, path, operations, hv, hholds, rfl⟩
    rw [mergePath?, readFragment, hv]
    simp only [hholds.ofValue_rewritten]
    rfl

/-- Two steps, of which the second one fails half-way. -/
def halfSteps : List Step := [
  .addRoutes [{ method := "GET", path := "/users/:id", handler := "show" }],
  .addRoutes [{ method := "PUT", path := "/users/:id", handler := "change" },
    { method := "FETCH", path := "/users", handler := "fetch" }]]

/-- A text with operations for one path, with tags of several kinds. -/
def mergedText : String :=
  "/users/:id:\n  post:\n    tags: [New, 3, Users, New]\n    responses:\n      200: ok\n" ++
    "  put:\n    tags: none\n"

/-- A text whose second operation is for an unknown method. -/
def spoiltText : String :=
  "/users/:id:\n  post:\n    responses:\n      200: ok\n  fetch:\n    tags: none\n"

theorem after_addText_halfSteps :
    let d := (Document.new .null .null .null).afterAll halfSteps
    let route : Route := { method := "PUT", path := "/users/:id", handler := "change" }
    (∃ v path operations, Yaml.loadShared mergedText = .ok v ∧ HoldsOperations v path operations ∧
      d.IsMerge "/users/\x7bid\x7d" operations (d.after (.addText route mergedText))) ∧
    d.tagNames = [some "Users"] ∧
    (d.after (.addText route mergedText)).tagNames = [some "Users", some "New"] ∧
    d.after (.addText route spoiltText) = d.after (.addRoutes [route]) := by
  intro d route
  have hroute : route.HasKnownMethod := ⟨.put, rfl⟩
  refine ⟨?_, by decide +kernel, by decide +kernel, ?_⟩
  · have hmerged : mergePath? mergedText = some "/users/\x7bid\x7d" := by decide +kernel
    obtain ⟨v, path, operations, hv, hholds, hpath⟩ := mergePath?_eq_some_iff.mp hmerged
    have hmerge := (after_addText .null .null .null halfSteps hroute fun e he => by
      rw [hv] at he; cases he).2.1 v path operations hv hholds
    exact ⟨v, path, operations, hv, hholds, hpath ▸ hmerge⟩
  · have hspoilt : mergePath? spoiltText = none := by decide +kernel
    have hload : (Yaml.loadShared spoiltText).isOk = true := by decide +kernel
    refine (after_addText .null .null .null halfSteps hroute fun e he => by
      rw [he] at hload; cases hload).2.2 fun v path operations hv hholds => ?_
    rw [mergePath?_eq_some_iff.mpr ⟨v, path, operations, hv, hholds, rfl⟩] at hspoilt
    cases hspoilt

/-- A text in which one operation stands inside another. -/
def nestedText : String :=
  "/x:\n  get: &a\n    responses:\n      200: ok\n  post:\n    x-copy: *a\n"

/-- The kinds of the response codes of the copy in an operation. -/
def copiedCodes (operation : Members) : Option (List Kind) :=
  ((Members.find? operation "x-copy").bind Value.members?).bind fun copy =>
    ((Members.find? copy "responses").bind Value.members?).map fun responses =>
      responses.map (·.1.kind)

/-- **An operation inside another is rewritten there too**, so the other one is not what was written
with its own response codes turned into texts. -/
theorem operation?_after_nestedText_ne :
    let route : Route := { method := "GET", path := "/x", handler := "show" }
    let d := (Document.new .null .null .null).after (.addText route nestedText)
    ∃ v path operations mark ms, Yaml.loadShared nestedText = .ok v ∧
      HoldsOperations v path operations ∧ (.text "post", .map mark ms) ∈ operations ∧
      d.operation? (pathTemplate path) "post" ≠
        some (.map (Members.withTextCodes (Shared.memberValues ms))) := by
  intro route d
  have hmerged : mergePath? nestedText = some "/x" := by decide +kernel
  obtain ⟨v, path, operations, hv, hholds, hpath⟩ := mergePath?_eq_some_iff.mp hmerged
  -- The codes of the copy are numbers in what was loaded and texts in the document.
  have hwritten : (Yaml.loadShared nestedText).toOption.bind (fun v =>
      (((v.value.members?.bind List.head?).bind (·.2.members?)).bind (Members.find? · "post")).bind
        fun operation => operation.members?.bind (copiedCodes ∘ Members.withTextCodes)) =
          some [.int] := by decide +kernel
  have hseen : ((d.operation? "/x" "post").bind Value.members?).bind copiedCodes = some [.text] := by
    decide +kernel
  obtain ⟨mark₀, mark₁, rfl⟩ := hholds.eq_map
  rw [hv] at hwritten
  change ((Members.find? (Shared.memberValues operations) "post").bind fun operation =>
    operation.members?.bind (copiedCodes ∘ Members.withTextCodes)) = some [.int] at hwritten
  rw [Shared.find?_memberValues] at hwritten
  cases hpost : Members.find? operations "post" with
  | none => rw [hpost] at hwritten; cases hwritten
  | some s =>
    obtain ⟨-, mark, ms, rfl⟩ := hholds.isOperation _ (Members.mem_of_find? hpost)
    refine ⟨_, path, operations, mark, ms, hv, hholds, Members.mem_of_find? hpost, fun heq => ?_⟩
    rw [hpath] at heq
    rw [heq] at hseen
    rw [hpost] at hwritten
    change copiedCodes (Members.withTextCodes (Shared.memberValues ms)) = _ at hwritten hseen
    rw [hseen] at hwritten
    cases hwritten

end RouteAtlas
