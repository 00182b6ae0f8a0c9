import RouteAtlas.Document.Fragment
import RouteAtlas.Proofs.Table

/-!
# Drafts

A document may be changed from outside, so its steps take it as members of any shape. The documents
that the library itself builds have one shape, and `Draft` is the type of that shape: path items by
path, operations by method, schemas by name, tags with a name and a description. `Draft.document`
writes a draft out.

Each step of the builder is **simulated** by a function on drafts: run on a written draft it
succeeds and leaves the written result of the function (`run_addTags`, `run_addGroups`,
`run_addRoutes`, `run_mergeFragment`). A property of every document a run can reach is then a
property of functions on tables. `run_addRoutes` has a second content: the builder adds routes group
by group, but the function of a draft adds them **one by one in the order of the list**
(`foldl_grouped`); grouping by path changes neither what is written nor the order of the entries.
-/

namespace RouteAtlas

/-! ### Running steps -/

section Running

variable {ε σ α β : Type}

/-- A step after one that succeeds. -/
theorem run_bind_ok {x : ExceptT ε (StateM σ) α} {s s' : σ} {a : α} (h : x.run s = (.ok a, s'))
    (f : α → ExceptT ε (StateM σ) β) : (x >>= f).run s = (f a).run s' := by
  change (ExceptT.bindCont f (x.run s).1 : StateM σ _) (x.run s).2 = _
  rw [h]
  rfl

/-- A step after one that fails is not taken. -/
theorem run_bind_error {x : ExceptT ε (StateM σ) α} {s s' : σ} {e : ε}
    (h : x.run s = (.error e, s')) (f : α → ExceptT ε (StateM σ) β) :
    (x >>= f).run s = (.error e, s') := by
  change (ExceptT.bindCont f (x.run s).1 : StateM σ _) (x.run s).2 = _
  rw [h]
  rfl

/-- Two steps that succeed one after the other. -/
theorem exists_of_run_bind {x : ExceptT ε (StateM σ) α} {f : α → ExceptT ε (StateM σ) β} {s s'' : σ}
    {b : β} (h : (x >>= f).run s = (.ok b, s'')) :
    ∃ a s', x.run s = (.ok a, s') ∧ (f a).run s' = (.ok b, s'') := by
  obtain ⟨result, s', hrun⟩ : ∃ result s', x.run s = (result, s') := ⟨_, _, rfl⟩
  cases result with
  | error e =>
    rw [run_bind_error hrun] at h
    cases h
  | ok a =>
    rw [run_bind_ok hrun] at h
    exact ⟨a, s', hrun, h⟩

/-- A result of which something can be computed is there. -/
theorem exists_ok_of_map_toOption {x : Except ε α} {f : α → β} {b : β}
    (h : x.toOption.map f = some b) : ∃ a, x = .ok a ∧ f a = b := by
  cases x with
  | error e => cases h
  | ok a => exact ⟨a, rfl, Option.some.inj h⟩

theorem exists_ok_of_map {x : Except ε α} {f : α → β} {b : β} (h : x.map f = .ok b) :
    ∃ a, x = .ok a ∧ f a = b := by
  cases x with
  | error e => cases h
  | ok a => exact ⟨a, rfl, Except.ok.inj h⟩

theorem exists_ok_of_bind {x : Except ε α} {f : α → Except ε β} {b : β} (h : x >>= f = .ok b) :
    ∃ a, x = .ok a ∧ f a = .ok b := by
  cases x with
  | error e => cases h
  | ok a => exact ⟨a, rfl, h⟩

theorem eq_ok_of_mapError {x : Except ε α} {f : ε → σ} {a : α} (h : x.mapError f = .ok a) :
    x = .ok a := by
  cases x with
  | error e => cases h
  | ok a => rw [Except.ok.inj h]

end Running

namespace Document

theorem run_get (d : Document) : (get : Edit Document).run d = (.ok d, d) := rfl

theorem run_require {d : Document} {name : String} {v : Value} (h : Members.find? d name = some v) :
    (require name).run d = (.ok v, d) := by
  rw [require, run_bind_ok (run_get d)]
  simp only [h]
  rfl

theorem run_assign (d : Document) (name : String) (v : Value) :
    (assign name v).run d = (.ok (), Members.put d name v) := rfl

theorem run_membersFor_map (ms : Members) (operation : String) (d : Document) :
    (membersFor (.map ms) operation).run d = (.ok ms, d) := rfl

theorem run_read_ok {α : Type} {r : Except Fault α} {a : α} (h : r = .ok a) (d : Document) :
    (read r).run d = (.ok a, d) := by
  rw [h]
  rfl

theorem run_read_error {α : Type} {r : Except Fault α} {f : Fault} (h : r = .error f)
    (d : Document) : (read r).run d = (.error f, d) := by
  rw [h]
  rfl

theorem eq_of_run_require {d d' : Document} {name : String} {v : Value}
    (h : (require name).run d = (.ok v, d')) : Members.find? d name = some v ∧ d' = d := by
  rw [require, run_bind_ok (run_get d)] at h
  cases hfind : Members.find? d name with
  | none =>
    rw [hfind] at h
    cases h
  | some w =>
    rw [hfind] at h
    cases h
    exact ⟨rfl, rfl⟩

theorem eq_of_run_membersFor {d d' : Document} {v : Value} {operation : String} {ms : Members}
    (h : (membersFor v operation).run d = (.ok ms, d')) : v = .map ms ∧ d' = d := by
  cases v with
  | map ms' =>
    cases h
    exact ⟨rfl, rfl⟩
  | _ => cases h

theorem eq_of_run_read {α : Type} {d d' : Document} {r : Except Fault α} {a : α}
    (h : (read r).run d = (.ok a, d')) : r = .ok a ∧ d' = d := by
  cases r with
  | error f => cases h
  | ok b =>
    cases h
    exact ⟨rfl, rfl⟩

end Document

/-! ### Methods -/

/-- A route of one of the methods that the library knows. -/
def Route.HasKnownMethod (r : Route) : Prop := ∃ m : Method, r.method = m.name

theorem Method.key_injective : Function.Injective Method.key := by
  intro a b h
  cases a <;> cases b <;> first | rfl | simp [Method.key] at h

theorem Method.name_injective : Function.Injective Method.name := by
  intro a b h
  have hread := Method.ofName?_name a
  rw [h, Method.ofName?_name] at hread
  exact (Option.some.inj hread).symm

/-- Only its own name is read as a method. -/
theorem Method.name_of_ofName? {s : String} {m : Method} (h : Method.ofName? s = some m) :
    s = m.name := by
  have hm := List.find?_some h
  exact (beq_iff_eq.mp hm).symm

theorem Route.hasKnownMethod_iff {r : Route} :
    r.HasKnownMethod ↔ (Method.ofName? r.method).isSome = true := by
  constructor
  · rintro ⟨m, hm⟩
    rw [hm, Method.ofName?_name]
    rfl
  · intro h
    obtain ⟨m, hm⟩ := Option.isSome_iff_exists.mp h
    exact ⟨m, Method.name_of_ofName? hm⟩

instance (r : Route) : Decidable r.HasKnownMethod :=
  decidable_of_iff _ Route.hasKnownMethod_iff.symm

namespace Operation

/-- The members of the operation of a route. -/
def members (m : Method) (r : Route) : Members := ((ofRoute m r).members?).getD []

theorem build_of_method {r : Route} {m : Method} (h : r.method = m.name) :
    build r = .ok (m, .map (members m r)) := by
  rw [build, h, Method.ofName?_name]
  rfl

end Operation

/-! ### The shape of a document -/

/-- The operations of a path, by method. -/
abbrev PathItem := List (Method × Members)

/-- The shape of the documents that the library builds. -/
structure Draft where
  /-- The description of the interface as a whole. -/
  info : Value
  /-- The servers. -/
  servers : Value
  /-- The path items, by path. -/
  paths : List (String × PathItem)
  /-- The schemas among the components. -/
  schemas : Members
  /-- The tags: name and description. -/
  tags : List (String × String)

namespace Draft

/-- A path item written out. -/
def itemValue (item : PathItem) : Value := .map (Members.ofTable Method.key .map item)

/-- Looking up a path of written path items is looking it up in the table. -/
theorem find?_ofTable_itemValue (path : String) (paths : List (String × PathItem)) :
    Members.find? (Members.ofTable id itemValue paths) path =
      (Table.get? path paths).map itemValue :=
  Members.find?_ofTable Function.injective_id path paths

/-- Setting a path of written path items is setting it in the table. -/
theorem put_ofTable_itemValue (path : String) (item : PathItem) (paths : List (String × PathItem)) :
    Members.put (Members.ofTable id itemValue paths) path (itemValue item) =
      Members.ofTable id itemValue (Table.set path item paths) :=
  Members.put_ofTable Function.injective_id path item paths

/-- A tag written out. -/
def tagValue (tag : String × String) : Value :=
  .object [("name", .text tag.1), ("description", .text tag.2)]

/-- A draft written out. -/
def document (d : Draft) : Document := [
  (.text "openapi", .text Document.specificationVersion),
  (.text "info", d.info),
  (.text "servers", d.servers),
  (.text "paths", .map (Members.ofTable id itemValue d.paths)),
  (.text "components", .object [("schemas", .map d.schemas)]),
  (.text "tags", .list (d.tags.map tagValue))]

/-- A draft without routes. -/
def new (title version description : Value) : Draft where
  info := Document.infoObject title version description
  servers := Document.serverList (.text Document.defaultServer) (.text Document.developmentServer)
  paths := []
  schemas := []
  tags := []

theorem document_new (title version description : Value) :
    (new title version description).document = Document.new title version description := rfl

section Members

variable (d : Draft)

theorem find?_paths : Members.find? d.document "paths" =
    some (.map (Members.ofTable id itemValue d.paths)) := by
  simp [document, Members.find?_cons]

theorem find?_components : Members.find? d.document "components" =
    some (.object [("schemas", .map d.schemas)]) := by
  simp [document, Members.find?_cons]

theorem find?_tags : Members.find? d.document "tags" = some (.list (d.tags.map tagValue)) := by
  simp [document, Members.find?_cons]

theorem find?_info : Members.find? d.document "info" = some d.info := by
  simp [document, Members.find?_cons]

theorem put_paths (paths : List (String × PathItem)) :
    Members.put d.document "paths" (.map (Members.ofTable id itemValue paths)) =
      { d with paths := paths }.document := by
  simp [document, Members.put_cons]

theorem put_tags (tags : List (String × String)) :
    Members.put d.document "tags" (.list (tags.map tagValue)) =
      { d with tags := tags }.document := by
  simp [document, Members.put_cons]

theorem put_servers (servers : Value) :
    Members.put d.document "servers" servers = { d with servers := servers }.document := by
  simp [document, Members.put_cons]

theorem put_info (info : Value) :
    Members.put d.document "info" info = { d with info := info }.document := by
  simp [document, Members.put_cons]

theorem find?_with_paths_tags (paths : List (String × PathItem)) (tags : List (String × String))
    {name : String} (hpaths : name ≠ "paths") (htags : name ≠ "tags") :
    Members.find? { d with paths := paths, tags := tags }.document name =
      Members.find? d.document name := by
  have hput : { d with paths := paths, tags := tags }.document =
      Members.put (Members.put d.document "paths" (.map (Members.ofTable id itemValue paths)))
        "tags" (.list (tags.map tagValue)) := by
    rw [put_paths, put_tags]
  rw [hput, Members.find?_put_of_ne htags, Members.find?_put_of_ne hpaths]

end Members

/-! ### Tags -/

/-- Lists a tag unless there is one of that name. -/
def listTag (tags : List (String × String)) (name : String) : List (String × String) :=
  if name ∈ tags.map Prod.fst then tags else tags ++ [(name, name ++ " related endpoints")]

theorem anyNamed_map_tagValue (name : String) (tags : List (String × String)) :
    Document.anyNamed name (tags.map tagValue) = .ok (decide (name ∈ tags.map Prod.fst)) := by
  induction tags with
  | nil => rfl
  | cons t ts ih =>
    have hname : (tagValue t).item "name" = .ok (.text t.1) := by
      simp [tagValue, Value.object, Value.item, Members.find?_cons]
    rw [List.map_cons, Document.anyNamed, hname]
    change (if (some t.1 == some name) = true then Except.ok true
      else Document.anyNamed name (ts.map tagValue)) = _
    rw [ih]
    by_cases h : t.1 = name
    · simp [h]
    · have h' : name ≠ t.1 := fun h' => h h'.symm
      simp [h, h']

/-- Adding a tag to a written draft. -/
theorem run_addTag (d : Draft) (name : String) :
    (Document.addTag name).run d.document =
      (.ok (), { d with tags := listTag d.tags name }.document) := by
  have hiter : (Value.list (d.tags.map tagValue)).iterate = .ok (d.tags.map tagValue) := rfl
  rw [Document.addTag, run_bind_ok (Document.run_require d.find?_tags),
    run_bind_ok (Document.run_read_ok hiter _),
    run_bind_ok (Document.run_read_ok (anyNamed_map_tagValue name d.tags) _), listTag]
  by_cases h : name ∈ d.tags.map Prod.fst
  · rw [decide_eq_true h, if_pos h]
    rfl
  · have hput := d.put_tags (d.tags ++ [(name, name ++ " related endpoints")])
    rw [decide_eq_false h, if_neg h, ← hput, List.map_append]
    rfl

/-- Adding tags to a written draft. -/
theorem run_addTags (d : Draft) (names : List String) :
    (Document.addTags names).run d.document =
      (.ok (), { d with tags := names.foldl listTag d.tags }.document) := by
  induction names generalizing d with
  | nil => rfl
  | cons name names ih =>
    rw [Document.addTags, run_bind_ok (run_addTag d name), ih, List.foldl_cons]

/-! ### Operations -/

/-- Writes the operation of a route into a path item. -/
def writeOperation (item : PathItem) (r : Route) : PathItem :=
  match Method.ofName? r.method with
  | some m => Table.set m (Operation.members m r) item
  | none => item

theorem writeOperation_eq {r : Route} {m : Method} (h : r.method = m.name) (item : PathItem) :
    writeOperation item r = Table.set m (Operation.members m r) item := by
  rw [writeOperation, h, Method.ofName?_name]

/-- Opening a path of a written draft gives its path item, which is new if there was none. -/
theorem run_openPath (d : Draft) (path : String) :
    (Document.openPath path).run d.document =
      (.ok (itemValue ((Table.get? path d.paths).getD [])),
        { d with paths := Table.update path id d.paths }.document) := by
  rw [Document.openPath, run_bind_ok (Document.run_require d.find?_paths),
    run_bind_ok (Document.run_membersFor_map ..)]
  cases h : Table.get? path d.paths with
  | some item =>
    have hkey : path ∈ d.paths.map Prod.fst := Table.isSome_get?_iff.mp (by simp [h])
    simp only [find?_ofTable_itemValue, h, Option.map_some, Table.update_id hkey]
    rfl
  | none =>
    -- A new path gets the empty item, which is what the change that does nothing makes of it.
    simp only [find?_ofTable_itemValue, h, Option.map_none]
    rw [run_bind_ok (Document.run_assign _ _ _)]
    change (Except.ok (itemValue []), Members.put d.document "paths"
      (.map (Members.put (Members.ofTable id itemValue d.paths) path (itemValue [])))) = _
    rw [put_ofTable_itemValue, d.put_paths, Table.update, h]
    rfl

/-- Replacing a path item of a written draft. -/
theorem run_setPath (d : Draft) (path : String) (item : PathItem) :
    (Document.setPath path (itemValue item)).run d.document =
      (.ok (), { d with paths := Table.set path item d.paths }.document) := by
  rw [Document.setPath, run_bind_ok (Document.run_require d.find?_paths)]
  change (Except.ok (), Members.put d.document "paths"
    (.map (Members.put (Members.ofTable id itemValue d.paths) path (itemValue item)))) = _
  rw [put_ofTable_itemValue, d.put_paths]

/-- Adding the operation of a route to a path of a written draft. -/
theorem run_addOperation (d : Draft) (path : String) {r : Route} (hr : r.HasKnownMethod) :
    (Document.addOperation path r).run d.document =
      (.ok (), { d with
        paths := Table.update path (writeOperation · r) d.paths }.document) := by
  obtain ⟨m, hm⟩ := hr
  have hset : (itemValue ((Table.get? path d.paths).getD [])).setItem m.key
      (.map (Operation.members m r)) =
        .ok (itemValue (writeOperation ((Table.get? path d.paths).getD []) r)) := by
    rw [writeOperation_eq hm, itemValue, itemValue, Value.setItem]
    exact congrArg (fun ms => Except.ok (Value.map ms))
      (Members.put_ofTable Method.key_injective ..)
  rw [Document.addOperation, run_bind_ok (Document.run_read_ok (Operation.build_of_method hm) _)]
  change ((Document.openPath path >>= fun item =>
    Document.read (item.setItem m.key (.map (Operation.members m r))) >>= fun item =>
      Document.setPath path item) : Edit Unit).run d.document = _
  rw [run_bind_ok (run_openPath d path), run_bind_ok (Document.run_read_ok hset _), run_setPath,
    Table.update, Table.update, Table.set_set_self]

/-- Adding the operations of several routes to a path of a written draft. -/
theorem run_addOperations (d : Draft) (path : String) {rs : List Route}
    (hrs : ∀ r ∈ rs, r.HasKnownMethod) :
    (Document.addOperations path rs).run d.document =
      (.ok (), { d with
        paths := rs.foldl (fun ps r => Table.update path (writeOperation · r) ps) d.paths
        }.document) := by
  induction rs generalizing d with
  | nil => rfl
  | cons r rs ih =>
    rw [Document.addOperations, run_bind_ok (run_addOperation d path (hrs r List.mem_cons_self)),
      ih _ fun r hr => hrs r (List.mem_cons_of_mem _ hr), List.foldl_cons]

/-! ### Groups -/

/-- Writes a group of routes: all of them into the item of one path. -/
def writeGroup (paths : List (String × PathItem)) (group : String × List Route) :
    List (String × PathItem) :=
  Table.update group.1 (fun item => group.2.foldl writeOperation item) paths

/-- Writing the routes of a group one by one is one change of the path item. -/
theorem foldl_update_writeOperation (path : String) (rs : List Route)
    (f : PathItem → PathItem) (paths : List (String × PathItem)) :
    rs.foldl (fun ps r => Table.update path (writeOperation · r) ps) (Table.update path f paths) =
      Table.update path (fun item => rs.foldl writeOperation (f item)) paths := by
  induction rs generalizing f with
  | nil => rfl
  | cons r rs ih =>
    rw [List.foldl_cons, Table.update_update_self, ih]
    rfl

/-- Adding groups of routes to a written draft. -/
theorem run_addGroups (d : Draft) {gs : List (String × List Route)}
    (hgs : ∀ g ∈ gs, ∀ r ∈ g.2, r.HasKnownMethod) :
    (Document.addGroups gs).run d.document =
      (.ok (), { d with paths := gs.foldl writeGroup d.paths }.document) := by
  induction gs generalizing d with
  | nil => rfl
  | cons g gs ih =>
    rw [Document.addGroups, run_bind_ok (run_openPath d g.1),
      run_bind_ok (run_addOperations _ g.1 (hgs g List.mem_cons_self)),
      ih _ fun g hg => hgs g (List.mem_cons_of_mem _ hg), List.foldl_cons]
    simp only [foldl_update_writeOperation, writeGroup]
    rfl

/-- The paths of groups are different. -/
theorem nodup_grouped (rs : List Route) : ((Document.grouped rs).map Prod.fst).Nodup := by
  induction rs with
  | nil => exact List.nodup_nil
  | cons r rs ih =>
    rw [Document.grouped, List.map_cons, List.nodup_cons]
    refine ⟨fun h => ?_, (List.filter_sublist.map Prod.fst).nodup ih⟩
    obtain ⟨g, hg, hpath⟩ := List.mem_map.mp h
    have hne := (List.mem_filter.mp hg).2
    simp [hpath] at hne

/-- A route of a group is one of the routes. -/
theorem mem_of_mem_grouped {rs : List Route} {g : String × List Route} {r : Route}
    (hg : g ∈ Document.grouped rs) (hr : r ∈ g.2) : r ∈ rs := by
  induction rs generalizing g with
  | nil => simp [Document.grouped] at hg
  | cons r' rs ih =>
    rw [Document.grouped] at hg
    rcases List.mem_cons.mp hg with rfl | hg
    · rcases List.mem_cons.mp hr with rfl | hr
      · exact List.mem_cons_self
      · cases hfind : (Document.grouped rs).find? fun g => g.1 == pathTemplate r'.path with
        | none => simp [hfind] at hr
        | some g =>
          rw [hfind] at hr
          exact List.mem_cons_of_mem _ (ih (List.mem_of_find?_eq_some hfind) hr)
    · exact List.mem_cons_of_mem _ (ih (List.mem_filter.mp hg).1 hr)

/-- The group of a path may be written first, if the path is there already: the groups of the
other paths do not touch its item, and its place in the order is taken. -/
theorem foldl_writeGroup_pull (path : String) {gs : List (String × List Route)}
    (hgs : (gs.map Prod.fst).Nodup) {paths : List (String × PathItem)}
    (hpath : path ∈ paths.map Prod.fst) :
    (gs.filter fun g => g.1 != path).foldl writeGroup
        (writeGroup paths (path, ((gs.find? fun g => g.1 == path).map (·.2)).getD [])) =
      gs.foldl writeGroup paths := by
  induction gs generalizing paths with
  | nil => exact Table.update_id hpath
  | cons g gs ih =>
    obtain ⟨hg, hgs⟩ := List.nodup_cons.mp hgs
    by_cases h : g.1 = path
    · -- The head is the group of the path, and no other group has that path.
      have hrest : gs.filter (fun g => g.1 != path) = gs :=
        List.filter_eq_self.mpr fun g' hg' => by
          have hne : g'.1 ≠ path := fun he => hg (h ▸ he ▸ List.mem_map_of_mem hg')
          simpa using hne
      have hwrite : writeGroup paths (path, g.2) = writeGroup paths g := by rw [← h]
      simp [h, hrest, hwrite]
    · -- The head is another group, which may change places with that of the path.
      have hkeep : (g :: gs).filter (fun g => g.1 != path) = g :: gs.filter fun g => g.1 != path :=
        List.filter_cons_of_pos (by simpa using h)
      have hmiss : (g :: gs).find? (fun g => g.1 == path) = gs.find? fun g => g.1 == path :=
        List.find?_cons_of_neg (by simpa using h)
      have hpath' : path ∈ (writeGroup paths g).map Prod.fst :=
        Table.mem_keys_update.mpr (.inr hpath)
      rw [hkeep, hmiss, List.foldl_cons, List.foldl_cons, ← ih hgs hpath']
      exact congrArg (List.foldl writeGroup · _) (Table.update_comm h hpath _ _).symm

/-- Writes a route into the item of its path. -/
def writeRoute (paths : List (String × PathItem)) (r : Route) : List (String × PathItem) :=
  Table.update (pathTemplate r.path) (writeOperation · r) paths

/-- **Routes written group by group and one by one give the same table**, order included. -/
theorem foldl_grouped (rs : List Route) (paths : List (String × PathItem)) :
    (Document.grouped rs).foldl writeGroup paths = rs.foldl writeRoute paths := by
  induction rs generalizing paths with
  | nil => rfl
  | cons r rs ih =>
    -- The first route opens its path, so the rest of its group can be pulled up to it.
    have hpath : pathTemplate r.path ∈ (writeRoute paths r).map Prod.fst :=
      Table.mem_keys_update.mpr (.inl rfl)
    rw [List.foldl_cons, ← ih, ← foldl_writeGroup_pull _ (nodup_grouped rs) hpath,
      Document.grouped, List.foldl_cons]
    refine congrArg (List.foldl writeGroup · _) ?_
    rw [writeGroup, writeGroup, writeRoute, Table.update_update_self]
    rfl

/-! ### Adding routes -/

/-- Adds routes to a draft, one by one. -/
def addRoutes (d : Draft) (rs : List Route) : Draft :=
  { d with
    paths := rs.foldl writeRoute d.paths
    tags := (Document.tagsOf rs).foldl listTag d.tags }

/-- **Adding routes to a written draft**: it succeeds if all methods are known. -/
theorem run_addRoutes (d : Draft) {rs : List Route} (hrs : ∀ r ∈ rs, r.HasKnownMethod) :
    (Document.addRoutes rs).run d.document = (.ok (), (d.addRoutes rs).document) := by
  have hgroups : ∀ g ∈ Document.grouped rs, ∀ r ∈ g.2, r.HasKnownMethod :=
    fun _ hg r hr => hrs r (mem_of_mem_grouped hg hr)
  rw [Document.addRoutes, run_bind_ok (Document.run_require d.find?_paths),
    run_bind_ok (run_addGroups d hgroups), run_addTags, foldl_grouped, addRoutes]

/-- Adding routes at once is adding some of them and then the others. -/
theorem addRoutes_append (d : Draft) (as bs : List Route) :
    d.addRoutes (as ++ bs) = (d.addRoutes as).addRoutes bs := by
  simp only [addRoutes, Document.tagsOf, List.foldl_append, List.map_append, List.filter_append]

/-! ### What holds of every operation -/

/-- A property of every operation of a table of path items, with its path and method. -/
def ForallOperations (P : String → Method → Members → Prop) (paths : List (String × PathItem)) :
    Prop :=
  ∀ p ∈ paths, ∀ o ∈ p.2, P p.1 o.1 o.2

/-- Changing a path item keeps a property if the change keeps it. -/
theorem ForallOperations.update {P : String → Method → Members → Prop}
    {paths : List (String × PathItem)} (h : ForallOperations P paths) {path : String}
    {f : PathItem → PathItem}
    (hf : ∀ item : PathItem, (∀ o ∈ item, P path o.1 o.2) → ∀ o ∈ f item, P path o.1 o.2) :
    ForallOperations P (Table.update path f paths) := by
  refine Table.forall_update (Q := fun path (item : PathItem) => ∀ o ∈ item, P path o.1 o.2) h
    fun item hitem => hf item ?_
  rcases hitem with rfl | hitem
  · exact fun o ho => absurd ho List.not_mem_nil
  · exact hitem

/-- One route: what holds of its own operation and of the others holds after it is written. -/
theorem ForallOperations.writeRoute {P : String → Method → Members → Prop}
    {paths : List (String × PathItem)} (h : ForallOperations P paths) {r : Route}
    (hr : ∀ m : Method, r.method = m.name → P (pathTemplate r.path) m (Operation.members m r)) :
    ForallOperations P (writeRoute paths r) := by
  refine h.update fun item hitem o ho => ?_
  rw [writeOperation] at ho
  cases hm : Method.ofName? r.method with
  | none =>
    rw [hm] at ho
    exact hitem o ho
  | some m =>
    rw [hm] at ho
    rcases Table.mem_set ho with rfl | ho
    · exact hr m (Method.name_of_ofName? hm)
    · exact hitem o ho

/-- Several routes: what holds of the operation of each route and of the operations before holds
after they are written. -/
theorem ForallOperations.foldl_writeRoute {P : String → Method → Members → Prop}
    {paths : List (String × PathItem)} (h : ForallOperations P paths) {rs : List Route}
    (hrs : ∀ r ∈ rs, ∀ m : Method, r.method = m.name →
      P (pathTemplate r.path) m (Operation.members m r)) :
    ForallOperations P (rs.foldl Draft.writeRoute paths) := by
  induction rs generalizing paths with
  | nil => exact h
  | cons r rs ih =>
    exact ih (h.writeRoute (hrs r List.mem_cons_self))
      fun r hr => hrs r (List.mem_cons_of_mem _ hr)

/-- A table of path items with an operation of a method under a path. -/
def HasOperation (paths : List (String × PathItem)) (path : String) (m : Method) : Prop :=
  ∃ item, Table.get? path paths = some item ∧ (Table.get? m item).isSome

theorem hasOperation_iff {paths : List (String × PathItem)} {path : String} {m : Method} :
    HasOperation paths path m ↔ m ∈ ((Table.get? path paths).getD []).map Prod.fst := by
  cases h : Table.get? path paths with
  | none => simp [HasOperation, h]
  | some item => simp [HasOperation, h, Table.isSome_get?_iff]

/-- A change of one path item that adds operations and takes none away. -/
theorem hasOperation_update_iff {paths : List (String × PathItem)} {p path : String} {m : Method}
    {f : PathItem → PathItem} {Q : Prop}
    (hf : ∀ item : PathItem, m ∈ (f item).map Prod.fst ↔ m ∈ item.map Prod.fst ∨ Q) :
    HasOperation (Table.update p f paths) path m ↔ HasOperation paths path m ∨ p = path ∧ Q := by
  rw [hasOperation_iff, hasOperation_iff, Table.update]
  by_cases h : p = path
  · rw [h, Table.get?_set_self, Option.getD_some, hf]
    simp
  · have hne : path ≠ p := fun he => h he.symm
    rw [Table.get?_set_of_ne hne]
    simp [h]

theorem mem_keys_writeOperation {item : PathItem} {r : Route} {m : Method} :
    m ∈ (writeOperation item r).map Prod.fst ↔ m ∈ item.map Prod.fst ∨ r.method = m.name := by
  rw [writeOperation]
  cases hm : Method.ofName? r.method with
  | none =>
    have hne : r.method ≠ m.name := by
      intro he
      rw [he, Method.ofName?_name] at hm
      cases hm
    simp [hne]
  | some m' =>
    have hname : r.method = m.name ↔ m = m' := by
      rw [Method.name_of_ofName? hm]
      exact ⟨fun h => (Method.name_injective h).symm, fun h => by rw [h]⟩
    rw [Table.mem_keys_set, hname, or_comm]

/-- **No route is lost**: the operations after several routes are written are those of the routes
and those that were there before. -/
theorem hasOperation_foldl_writeRoute_iff {rs : List Route} {paths : List (String × PathItem)}
    {path : String} {m : Method} :
    HasOperation (rs.foldl Draft.writeRoute paths) path m ↔
      HasOperation paths path m ∨ ∃ r ∈ rs, pathTemplate r.path = path ∧ r.method = m.name := by
  induction rs generalizing paths with
  | nil => simp
  | cons r rs ih =>
    rw [List.foldl_cons, ih, writeRoute, hasOperation_update_iff fun _ => mem_keys_writeOperation]
    simp only [List.mem_cons, exists_eq_or_imp, or_assoc]

theorem hasOperation_foldl_writeRoute {rs : List Route} {r : Route} (hr : r ∈ rs) {m : Method}
    (hm : r.method = m.name) (paths : List (String × PathItem)) :
    HasOperation (rs.foldl Draft.writeRoute paths) (pathTemplate r.path) m :=
  hasOperation_foldl_writeRoute_iff.mpr (.inr ⟨r, hr, rfl, hm⟩)

end Draft

/-! ### Merging fragments -/

/-- A member as an operation of a method, if it is one. -/
def methodEntry? : Scalar × Value → Option (Method × Members)
  | (.text s, .map operation) => (Method.all.find? fun m => m.key == s).map (·, operation)
  | _ => none

@[simp]
theorem methodEntry?_key (m : Method) (op : Members) :
    methodEntry? (.text m.key, .map op) = some (m, op) := by
  cases m <;> rfl

/-- A key that passes the check is the name of a method. -/
theorem exists_method_of_isOperationKey {key : Scalar} (h : isOperationKey key = true) :
    ∃ m : Method, key = .text m.key := by
  cases key with
  | text s =>
    obtain ⟨m, -, hm⟩ := List.any_eq_true.mp h
    exact ⟨m, congrArg Scalar.text (beq_iff_eq.mp hm).symm⟩
  | _ => simp [isOperationKey] at h

/-- The operations of a fragment, by method. -/
def Fragment.item (f : Fragment) : PathItem := f.operations.filterMap methodEntry?

/-- A fragment all of whose operations are maps under the names of methods. -/
def Fragment.IsChecked (f : Fragment) : Prop :=
  Members.ofTable Method.key .map f.item = f.operations

/-- The operations of a fragment are among its members. -/
theorem Fragment.IsChecked.mem_operations {f : Fragment} (h : f.IsChecked) {o : Method × Members}
    (ho : o ∈ f.item) : (.text o.1.key, .map o.2) ∈ f.operations := by
  rw [← h]
  exact List.mem_map_of_mem ho

/-- The check goes through the members in order: each is a map under the name of a method. -/
theorem exists_of_checkOperations_cons {m : Scalar × Value} {ms ops : Members}
    (h : checkOperations (m :: ms) = .ok ops) :
    ∃ (method : Method) (operation rest : Members), m = (.text method.key, .map operation) ∧
      checkOperations ms = .ok rest ∧
      ops = (.text method.key, .map operation) :: rest := by
  obtain ⟨key, v⟩ := m
  cases v with
  | map operation =>
    rw [checkOperations] at h
    split_ifs at h with hkey
    obtain ⟨method, rfl⟩ := exists_method_of_isOperationKey hkey
    obtain ⟨rest, hrest, rfl⟩ := exists_ok_of_map h
    exact ⟨method, operation, rest, rfl, hrest, rfl⟩
  | _ => simp [checkOperations] at h

/-- The check changes nothing. -/
theorem eq_of_checkOperations {ms ops : Members} (h : checkOperations ms = .ok ops) : ops = ms := by
  induction ms generalizing ops with
  | nil =>
    rw [checkOperations, Except.ok.injEq] at h
    exact h.symm
  | cons m ms ih =>
    obtain ⟨method, operation, rest, rfl, hrest, rfl⟩ := exists_of_checkOperations_cons h
    rw [ih hrest]

/-- The operations that come out of the check are a table of methods. -/
theorem isChecked_of_checkOperations {path : String} {ms ops : Members}
    (h : checkOperations ms = .ok ops) : (Fragment.mk path ops).IsChecked := by
  induction ms generalizing ops with
  | nil =>
    rw [checkOperations, Except.ok.injEq] at h
    rw [← h]
    rfl
  | cons m ms ih =>
    obtain ⟨method, operation, rest, -, hrest, rfl⟩ := exists_of_checkOperations_cons h
    have htail : Members.ofTable Method.key .map (rest.filterMap methodEntry?) = rest := ih hrest
    rw [Fragment.IsChecked, Fragment.item, List.filterMap_cons, methodEntry?_key]
    exact congrArg (List.cons _) htail

/-- A fragment that was read is the rewritten form of what was loaded. -/
theorem exists_ofValue_of_readFragment {text : String} {f : Fragment}
    (h : readFragment text = .ok (.ok f)) :
    ∃ v, Yaml.loadShared text = .ok v ∧ Fragment.ofValue (rewritten v) = .ok f := by
  -- Only a text that is loaded becomes a fragment; every other reading ends in an error.
  rw [readFragment] at h
  split at h
  · rename_i v hload
    exact ⟨v, hload, Except.ok.inj h⟩
  · cases Except.ok.inj h
  · split_ifs at h
    cases Except.ok.inj h

/-- A fragment is one path with operations, of which there is at least one, that have come out of the
check. -/
theorem exists_checkOperations_of_ofValue {v : Value} {f : Fragment} (h : Fragment.ofValue v = .ok f) :
    ∃ path m ms, v = .map [(.text path, .map (m :: ms))] ∧ f.path = pathTemplate path ∧
      checkOperations (m :: ms) = .ok f.operations := by
  rw [Fragment.ofValue.eq_def] at h
  split at h
  · rename_i path m ms
    obtain ⟨ops, hops, rfl⟩ := exists_ok_of_map h
    exact ⟨path, m, ms, rfl, rfl, hops⟩
  · cases h
  · cases h

/-- A fragment that was read stands under a path template, and its operations, of which there is at
least one, have come out of the check. -/
theorem exists_checkOperations_of_readFragment {text : String} {f : Fragment}
    (h : readFragment text = .ok (.ok f)) :
    ∃ path m ms, f.path = pathTemplate path ∧ checkOperations (m :: ms) = .ok f.operations := by
  obtain ⟨v, -, hv⟩ := exists_ofValue_of_readFragment h
  obtain ⟨path, m, ms, -, hpath, hops⟩ := exists_checkOperations_of_ofValue hv
  exact ⟨path, m, ms, hpath, hops⟩

/-- What can be read as a fragment has been checked. -/
theorem isChecked_of_readFragment {text : String} {f : Fragment}
    (h : readFragment text = .ok (.ok f)) : f.IsChecked := by
  obtain ⟨path, m, ms, -, hops⟩ := exists_checkOperations_of_readFragment h
  exact isChecked_of_checkOperations hops

namespace Draft

/-- Merges a fragment into a draft. -/
def merge (d : Draft) (f : Fragment) : Draft :=
  { d with
    paths := Table.update f.path (Table.setAll · f.item) d.paths
    tags := (f.operations.flatMap fun o => Document.textTags o.2).foldl listTag d.tags }

/-- Merging a fragment into a written draft. -/
theorem run_mergeFragment (d : Draft) {f : Fragment} (hf : f.IsChecked) :
    (Document.mergeFragment f).run d.document = (.ok (), (d.merge f).document) := by
  have hmembers : (Document.membersFor (itemValue ((Table.get? f.path d.paths).getD []))
      "update").run { d with paths := Table.update f.path id d.paths }.document =
        (.ok (Members.ofTable Method.key .map ((Table.get? f.path d.paths).getD [])),
          { d with paths := Table.update f.path id d.paths }.document) := rfl
  have hinsert : Value.map (Members.insertAll
      (Members.ofTable Method.key .map ((Table.get? f.path d.paths).getD [])) f.operations) =
        itemValue (Table.setAll ((Table.get? f.path d.paths).getD []) f.item) := by
    rw [← hf, Members.insertAll_ofTable Method.key_injective, itemValue]
  rw [Document.mergeFragment, run_bind_ok (run_openPath d f.path), run_bind_ok hmembers, hinsert,
    run_bind_ok (run_setPath ..), run_addTags]
  simp only [merge, Table.update, Table.set_set_self]

end Draft

end RouteAtlas
