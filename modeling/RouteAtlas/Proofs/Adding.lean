import Mathlib.Data.List.Induction
import RouteAtlas.Proofs.Merging
import RouteAtlas.Proofs.TagList

/-!
# Adding routes

Routes are regrouped by path before they are written, and different paths can have one template. This
module says what is in the document afterwards. `Document.IsAddition`: under each path and method
stands the operation of the **last** route of the list that belongs there, everything else is as it
was, and new paths go to the end in the order of the **first** routes that belong to them. It holds in
every state that steps can reach (`isAddition_after_addRoutes`). There, adding two lists one after the
other is adding them at once, and adding a list again changes nothing
(`addRoutes_append_and_addRoutes_self`).

On drafts, where routes are written one by one, each statement has a step and a run. One route decides
about its own place and no other (`get?_writeRoute`), so the last one decides after several
(`get?_foldl_writeRoute`). Two routes whose places are taken either override each other or may change
places (`writeRoute_writeRoute`), so what a route wrote before others is of no importance if it is
written after them too (`writeRoute_foldl_writeRoute`).
-/

namespace RouteAtlas

/-! ### Where a route belongs -/

/-- Whether the operation of a route belongs under a path and the name of a method. -/
def Route.isAt (r : Route) (path key : String) : Bool :=
  pathTemplate r.path == path && (Method.ofName? r.method).any (·.key == key)

theorem Route.isAt_iff {r : Route} {path key : String} :
    r.isAt path key = true ↔
      pathTemplate r.path = path ∧ ∃ m : Method, r.method = m.name ∧ m.key = key := by
  rw [isAt, Bool.and_eq_true, beq_iff_eq, Option.any_eq_true]
  refine and_congr_right fun _ => exists_congr fun m => ?_
  rw [beq_iff_eq]
  refine and_congr_left fun _ => ⟨Method.name_of_ofName?, fun h => ?_⟩
  rw [h, Method.ofName?_name]

theorem Route.isAt_key_iff {r : Route} {path : String} {m : Method} :
    r.isAt path m.key = true ↔ pathTemplate r.path = path ∧ r.method = m.name := by
  rw [isAt_iff]
  refine and_congr_right fun _ => ⟨?_, fun h => ⟨m, h, rfl⟩⟩
  rintro ⟨m', hname, hkey⟩
  rwa [Method.key_injective hkey] at hname

namespace Draft

/-! ### What is written -/

theorem get?_writeOperation (item : PathItem) (r : Route) (m : Method) :
    Table.get? m (writeOperation item r) =
      if r.method = m.name then some (Operation.members m r) else Table.get? m item := by
  rw [writeOperation]
  cases hread : Method.ofName? r.method with
  | none =>
    have hne : r.method ≠ m.name := by
      intro heq
      rw [heq, Method.ofName?_name] at hread
      cases hread
    rw [if_neg hne]
  | some m' =>
    have hname : r.method = m'.name := Method.name_of_ofName? hread
    by_cases h : m = m'
    · subst h
      rw [if_pos hname]
      exact Table.get?_set_self ..
    · have hne : r.method ≠ m.name := fun heq => h (Method.name_injective (heq.symm.trans hname))
      rw [if_neg hne]
      exact Table.get?_set_of_ne h ..

/-- One route decides about its own place and no other. -/
theorem get?_writeRoute (paths : List (String × PathItem)) (r : Route) (path : String) (m : Method) :
    (Table.get? path (writeRoute paths r)).bind (Table.get? m) =
      if r.isAt path m.key then some (Operation.members m r)
      else (Table.get? path paths).bind (Table.get? m) := by
  simp only [Route.isAt_key_iff]
  by_cases hpath : pathTemplate r.path = path
  · have hitem : Table.get? m ((Table.get? path paths).getD []) =
        (Table.get? path paths).bind (Table.get? m) := by
      cases Table.get? path paths <;> rfl
    rw [writeRoute, hpath, Table.update, Table.get?_set_self, Option.bind_some, get?_writeOperation,
      hitem]
    simp only [true_and]
  · rw [writeRoute, Table.update, Table.get?_set_of_ne (Ne.symm hpath), if_neg fun h => hpath h.1]

/-- **The last route decides**: after several routes, each place has the operation of the last one
that belongs there, or what it had before. -/
theorem get?_foldl_writeRoute (paths : List (String × PathItem)) (rs : List Route) (path : String)
    (m : Method) :
    (Table.get? path (rs.foldl writeRoute paths)).bind (Table.get? m) =
      ((rs.filter (·.isAt path m.key)).getLast?.map (Operation.members m)).or
        ((Table.get? path paths).bind (Table.get? m)) := by
  -- One more route at the end decides if it belongs there; if not, it is passed over on both sides.
  induction rs using List.reverseRecOn with
  | nil => rfl
  | append_singleton rs r ih =>
    rw [List.foldl_append, List.foldl_cons, List.foldl_nil, get?_writeRoute, List.filter_append]
    split_ifs with h
    · rw [List.filter_singleton, h, cond_true, List.getLast?_append]
      rfl
    · rw [List.filter_singleton, Bool.eq_false_iff.mpr h, cond_false, List.append_nil, ih]

/-- A route keeps the order of the paths; a path that is new goes to the end. -/
theorem keys_writeRoute (paths : List (String × PathItem)) (r : Route) :
    Members.keys (Members.ofTable id itemValue (writeRoute paths r)) =
      if Members.has (Members.ofTable id itemValue paths) (.text (pathTemplate r.path)) then
        Members.keys (Members.ofTable id itemValue paths)
      else Members.keys (Members.ofTable id itemValue paths) ++ [.text (pathTemplate r.path)] := by
  rw [writeRoute, Table.update, ← put_ofTable_itemValue]
  exact Members.map_fst_insert ..

/-! ### Writing routes again -/

/-- A route overrides the one that was written before it, or the two may change places, if there is an
operation in its own place already. -/
theorem writeRoute_writeRoute {paths : List (String × PathItem)} {a b : Route}
    (ha : a.HasKnownMethod) {m : Method} (hm : b.method = m.name)
    (h : HasOperation paths (pathTemplate b.path) m) :
    writeRoute (writeRoute paths a) b = writeRoute paths b ∨
      writeRoute (writeRoute paths a) b = writeRoute (writeRoute paths b) a := by
  obtain ⟨m', hm'⟩ := ha
  obtain ⟨item, hitem, hop⟩ := h
  by_cases hpath : pathTemplate a.path = pathTemplate b.path
  · -- Both go into one item, so it comes down to the entries of that item.
    simp only [writeRoute, hpath, Table.update_update_self]
    simp only [Table.update, hitem, Option.getD_some, Function.comp_apply, writeOperation_eq hm,
      writeOperation_eq hm']
    by_cases hmethod : m' = m
    · rw [hmethod, Table.set_set_self]
      exact .inl rfl
    · rw [Table.set_comm hmethod (Table.isSome_get?_iff.mp hop)]
      exact .inr rfl
  · have hkey : pathTemplate b.path ∈ paths.map Prod.fst := by
      refine Table.isSome_get?_iff.mp ?_
      rw [hitem]
      rfl
    exact .inr (Table.update_comm hpath hkey _ _)

theorem writeRoute_writeRoute_self (paths : List (String × PathItem)) {r : Route}
    (hr : r.HasKnownMethod) : writeRoute (writeRoute paths r) r = writeRoute paths r := by
  obtain ⟨m, hm⟩ := hr
  simp only [writeRoute, Table.update_update_self]
  simp only [Table.update, Function.comp_apply, writeOperation_eq hm, Table.set_set_self]

/-- What a route wrote before others does not matter if it is written again after them, and if they
write into places that are taken. -/
theorem writeRoute_foldl_writeRoute {paths : List (String × PathItem)} {a : Route}
    (ha : a.HasKnownMethod) {bs : List Route}
    (hbs : ∀ b ∈ bs, ∃ m : Method, b.method = m.name ∧ HasOperation paths (pathTemplate b.path) m) :
    writeRoute (bs.foldl writeRoute (writeRoute paths a)) a =
      writeRoute (bs.foldl writeRoute paths) a := by
  induction bs generalizing paths with
  | nil => exact writeRoute_writeRoute_self paths ha
  | cons b bs ih =>
    obtain ⟨⟨m, hm, hop⟩, hbs⟩ := List.forall_mem_cons.mp hbs
    rw [List.foldl_cons, List.foldl_cons]
    rcases writeRoute_writeRoute ha hm hop with h | h
    · rw [h]
    · -- The two change places, and the places of the others stay taken.
      rw [h]
      refine ih fun b' hb' => ?_
      obtain ⟨m', hm', hop'⟩ := hbs b' hb'
      have hkeep : HasOperation ([b].foldl writeRoute paths) (pathTemplate b'.path) m' :=
        hasOperation_foldl_writeRoute_iff.mpr (.inl hop')
      exact ⟨m', hm', hkeep⟩

/-- **Routes that were written are not written again.** -/
theorem foldl_writeRoute_self (paths : List (String × PathItem)) {rs : List Route}
    (hrs : ∀ r ∈ rs, r.HasKnownMethod) :
    rs.foldl writeRoute (rs.foldl writeRoute paths) = rs.foldl writeRoute paths := by
  -- The last route of the first pass is written again at the end of the second one.
  induction rs using List.reverseRecOn with
  | nil => rfl
  | append_singleton rs r ih =>
    obtain ⟨hrs, hr⟩ := List.forall_mem_append.mp hrs
    have hwritten : ∀ b ∈ rs, ∃ m : Method, b.method = m.name ∧
        HasOperation (rs.foldl writeRoute paths) (pathTemplate b.path) m := by
      intro b hb
      obtain ⟨m, hm⟩ := hrs b hb
      exact ⟨m, hm, hasOperation_foldl_writeRoute hb hm paths⟩
    simp only [List.foldl_append, List.foldl_cons, List.foldl_nil]
    rw [writeRoute_foldl_writeRoute (List.forall_mem_singleton.mp hr) hwritten, ih hrs]

/-- Tags that are listed are not listed again. -/
theorem foldl_listTag_of_subset {tags : List (String × String)} {names : List String}
    (h : ∀ name ∈ names, name ∈ tags.map Prod.fst) : names.foldl listTag tags = tags := by
  induction names with
  | nil => rfl
  | cons name names ih =>
    obtain ⟨hname, hnames⟩ := List.forall_mem_cons.mp h
    rw [List.foldl_cons, listTag, if_pos hname, ih hnames]

theorem addRoutes_addRoutes_self (d : Draft) {rs : List Route} (hrs : ∀ r ∈ rs, r.HasKnownMethod) :
    (d.addRoutes rs).addRoutes rs = d.addRoutes rs := by
  have htags : (Document.tagsOf rs).foldl listTag ((Document.tagsOf rs).foldl listTag d.tags) =
      (Document.tagsOf rs).foldl listTag d.tags :=
    foldl_listTag_of_subset fun _ hname => mem_foldl_listTag d.tags hname
  simp only [addRoutes, foldl_writeRoute_self d.paths hrs, htags]

end Draft

/-! ### Adding routes to a document -/

/-- One document is another to which routes were added. -/
structure Document.IsAddition (d : Document) (routes : List Route) (d' : Document) : Prop where
  /-- Where routes belong stands the operation of the last of them. -/
  written : ∀ (path key : String) (r : Route),
    (routes.filter (·.isAt path key)).getLast? = some r →
      ∃ m operation, Operation.build r = .ok (m, operation) ∧ d'.operation? path key = some operation
  /-- Where no route belongs stands what stood there before. -/
  kept : ∀ path key : String, (∀ r ∈ routes, r.isAt path key = false) →
    d'.operation? path key = d.operation? path key
  /-- Paths keep their places, and new ones go to the end in the order in which they come first. -/
  keys_pathItems : d'.pathItems.keys = d.pathItems.keys ++
    (((routes.map fun r => pathTemplate r.path).filter fun path =>
      !Members.has d.pathItems (.text path)).eraseDups).map .text
  /-- All else but the tags stays. -/
  otherMembers : ∀ name, name ≠ "paths" → name ≠ "tags" → Members.find? d' name = Members.find? d name

namespace Draft

variable (d : Draft)

theorem operation?_document_eq_none {key : String} (h : ∀ m : Method, m.key ≠ key) (path : String) :
    d.document.operation? path key = none := by
  rw [Document.operation?, pathItems_document, find?_ofTable_itemValue]
  cases Table.get? path d.paths with
  | none => rfl
  | some item =>
    refine Members.find?_eq_none_iff.mpr fun hmem => ?_
    obtain ⟨e, he, hkey⟩ := List.mem_map.mp hmem
    obtain ⟨o, -, rfl⟩ := List.mem_map.mp he
    exact h o.1 (Scalar.text.inj hkey)

theorem isAddition_addRoutes (rs : List Route) :
    d.document.IsAddition rs (d.addRoutes rs).document where
  written := by
    intro path key r hlast
    have hmem : r ∈ rs.filter (·.isAt path key) := List.mem_of_getLast? hlast
    obtain ⟨-, m, hm, rfl⟩ := Route.isAt_iff.mp (List.mem_filter.mp hmem).2
    refine ⟨m, _, Operation.build_of_method hm, ?_⟩
    rw [operation?_document, addRoutes, get?_foldl_writeRoute, hlast]
    rfl
  kept := by
    intro path key hnone
    by_cases hkey : ∃ m : Method, m.key = key
    · obtain ⟨m, rfl⟩ := hkey
      have hfilter : rs.filter (·.isAt path m.key) = [] := by
        refine List.filter_eq_nil_iff.mpr fun r hr => ?_
        rw [hnone r hr]
        exact Bool.false_ne_true
      rw [operation?_document, operation?_document, addRoutes, get?_foldl_writeRoute, hfilter]
      rfl
    · -- A draft has no operations under other keys than those of methods.
      have hno : ∀ m : Method, m.key ≠ key := fun m hm => hkey ⟨m, hm⟩
      rw [operation?_document_eq_none _ hno, operation?_document_eq_none _ hno]
  keys_pathItems := by
    rw [pathItems_document, pathItems_document]
    exact Members.keys_foldl keys_writeRoute d.paths rs
  otherMembers := fun name hpaths htags => d.find?_with_paths_tags _ _ hpaths htags

end Draft

/-- **Adding routes writes exactly the right operations.** Whatever steps were taken before, adding
routes of known methods ends well, and under each path and method the last route decides. -/
theorem isAddition_after_addRoutes (title version description : Value) (steps : List Step)
    {routes : List Route} (hroutes : ∀ r ∈ routes, r.HasKnownMethod) :
    let d := (Document.new title version description).afterAll steps
    (d.apply (Document.addRoutes routes)).1 = .ok () ∧
      d.IsAddition routes (d.after (.addRoutes routes)) := by
  intro d
  obtain ⟨draft, hd⟩ := (Draft.new title version description).exists_afterAll_document steps
  change d = _ at hd
  clear_value d
  subst hd
  have hrun : draft.document.apply (Document.addRoutes routes) =
      (.ok (), (draft.addRoutes routes).document) := draft.run_addRoutes hroutes
  have hafter : draft.document.after (.addRoutes routes) = (draft.addRoutes routes).document :=
    congrArg Prod.snd hrun
  refine ⟨congrArg Prod.fst hrun, ?_⟩
  rw [hafter]
  exact draft.isAddition_addRoutes routes

/-- Routes for paths of which several have one template, some with operations already, some new. -/
def mixedRoutes : List Route := [
  { method := "POST", path := "/a/:x", handler := "first" },
  { method := "PUT", path := "/users/:id?", handler := "early" },
  { method := "GET", path := "/b", handler := "list" },
  { method := "POST", path := "/a/:x?", handler := "second" },
  { method := "PUT", path := "/users/:id", handler := "late" }]

/-- The identifier of an operation. -/
def Document.operationId? (d : Document) (path key : String) : Option String :=
  ((d.operation? path key).bind Value.members?).bind fun operation =>
    (Members.find? operation "operationId").bind Value.text?

theorem isAddition_after_addRoutes_mixedRoutes :
    let d := (Document.new .null .null .null).afterAll halfSteps
    let d' := d.after (.addRoutes mixedRoutes)
    (∀ r ∈ mixedRoutes, r.HasKnownMethod) ∧ d.IsAddition mixedRoutes d' ∧
    d'.pathItems.keys.map Scalar.display =
      ["/users/\x7bid\x7d", "/users", "/a/\x7bx\x7d", "/b"] ∧
    (d.operationId? "/users/\x7bid\x7d" "put", d'.operationId? "/users/\x7bid\x7d" "put",
      d'.operationId? "/a/\x7bx\x7d" "post", d'.operationId? "/users/\x7bid\x7d" "get") =
      (some "change", some "late", some "second", some "show") := by
  intro d d'
  have hroutes : ∀ r ∈ mixedRoutes, r.HasKnownMethod := by decide
  have haddition := (isAddition_after_addRoutes .null .null .null halfSteps hroutes).2
  exact ⟨hroutes, haddition, by decide +kernel, by decide +kernel⟩

/-- **Adding lists of routes one after the other is adding them at once, and adding a list again
changes nothing**, orders included. Whatever steps were taken before, all of it ends well if the
methods are known. -/
theorem addRoutes_append_and_addRoutes_self (title version description : Value) (steps : List Step)
    {as bs : List Route} (has : ∀ r ∈ as, r.HasKnownMethod) (hbs : ∀ r ∈ bs, r.HasKnownMethod) :
    let d := (Document.new title version description).afterAll steps
    (d.apply (Document.addRoutes (as ++ bs))).1 = .ok () ∧
    d.apply (Document.addRoutes (as ++ bs)) =
      d.apply (do Document.addRoutes as; Document.addRoutes bs) ∧
    d.apply (do Document.addRoutes as; Document.addRoutes as) = d.apply (Document.addRoutes as) := by
  intro d
  obtain ⟨draft, hd⟩ := (Draft.new title version description).exists_afterAll_document steps
  change d = _ at hd
  clear_value d
  subst hd
  have hboth : ∀ r ∈ as ++ bs, r.HasKnownMethod := List.forall_mem_append.mpr ⟨has, hbs⟩
  have happly : ∀ {rs : List Route}, (∀ r ∈ rs, r.HasKnownMethod) →
      draft.document.apply (Document.addRoutes rs) = (.ok (), (draft.addRoutes rs).document) :=
    draft.run_addRoutes
  have hthen : ∀ {rs : List Route}, (∀ r ∈ rs, r.HasKnownMethod) →
      draft.document.apply (do Document.addRoutes as; Document.addRoutes rs) =
        (.ok (), ((draft.addRoutes as).addRoutes rs).document) := by
    intro rs hrs
    have hsecond := (draft.addRoutes as).run_addRoutes hrs
    exact (run_bind_ok (draft.run_addRoutes has) _).trans hsecond
  refine ⟨congrArg Prod.fst (happly hboth), ?_, ?_⟩
  · rw [happly hboth, hthen hbs, draft.addRoutes_append]
  · rw [happly has, hthen has, draft.addRoutes_addRoutes_self has]

theorem addRoutes_append_and_addRoutes_self_mixedRoutes :
    let d := (Document.new .null .null .null).afterAll taggedSteps
    let as := mixedRoutes.take 3
    let bs := mixedRoutes.drop 3
    (∀ r ∈ as, r.HasKnownMethod) ∧ (∀ r ∈ bs, r.HasKnownMethod) ∧
    d.apply (Document.addRoutes (as ++ bs)) =
      d.apply (do Document.addRoutes as; Document.addRoutes bs) ∧
    d.apply (do Document.addRoutes as; Document.addRoutes as) = d.apply (Document.addRoutes as) ∧
    (d.after (.addRoutes (as ++ bs))).tagNames = d.tagNames ++ [some "A", some "B"] := by
  intro d as bs
  have has : ∀ r ∈ as, r.HasKnownMethod := by decide
  have hbs : ∀ r ∈ bs, r.HasKnownMethod := by decide
  obtain ⟨-, happend, hself⟩ :=
    addRoutes_append_and_addRoutes_self .null .null .null taggedSteps has hbs
  exact ⟨has, hbs, happend, hself, by decide +kernel⟩

end RouteAtlas
