import Mathlib.Data.List.Nodup
import RouteAtlas.Proofs.NormalPath
import RouteAtlas.Proofs.Sharing
import RouteAtlas.Proofs.Steps
import RouteAtlas.Proofs.Synthesis
import RouteAtlas.Proofs.View

/-!
# The shape of documents under construction

Operations come into a document from two very different sides: synthesized from a route record, or
taken over from whatever a model wrote. `Document.IsShaped` is the shape that both sides keep: path
templates as keys, under each a map, not empty, from names of methods to maps, and texts as the
keys of responses. It holds **after every step of every run** (`isShaped_afterAll`), also after a
step that fails.

The type of drafts already carries that the keys of path items are methods and their values maps.
The rest is `Draft.IsShaped`: path by path the property `IsShapedItem`, which writing a route and
merging a fragment give to the item they touch, whether it was there before or is new.
-/

namespace RouteAtlas

/-! ### Response codes -/

/-- All keys of some members are texts. -/
def Members.HasTextKeys (ms : Members) : Prop := ∀ m ∈ ms, ∃ s, m.1 = .text s

/-- An operation whose responses, if they are a map, have texts as keys. -/
def HasTextCodes (operation : Members) : Prop :=
  ∀ responses, Members.find? operation "responses" = some (.map responses) →
    Members.HasTextKeys responses

theorem hasTextCodes_memberValues {ms : List (Scalar × Shared)} (h : IsTextCoded ms) :
    HasTextCodes (Shared.memberValues ms) := by
  intro responses hresponses
  rw [Shared.find?_memberValues, Option.map_eq_some_iff] at hresponses
  obtain ⟨x, hx, hvalue⟩ := hresponses
  obtain ⟨mark, codes, rfl, rfl⟩ := Shared.eq_map_of_value hvalue
  rw [Shared.memberValues_eq_map]
  exact List.forall_mem_map.mpr (h mark codes hx)

/-- A synthesized operation has texts as response codes. -/
theorem Operation.hasTextCodes_members (m : Method) (r : Route) :
    HasTextCodes (Operation.members m r) := by
  intro responses hresponses
  rw [find?_responses] at hresponses
  obtain rfl := Value.map.inj (Option.some.inj hresponses)
  intro e he
  rcases mem_responsesObject he with ⟨response, -, rfl⟩ | rfl
  · exact ⟨_, rfl⟩
  · exact ⟨_, rfl⟩

/-- The operations of a rewritten fragment have texts as response codes. -/
theorem hasTextCodes_of_ofValue_rewritten {v : Shared} {f : Fragment}
    (h : Fragment.ofValue (rewritten v) = .ok f) {key : Scalar} {operation : Members}
    (ho : (key, .map operation) ∈ f.operations) : HasTextCodes operation := by
  obtain ⟨path, m, ms, hvalue, -, hops⟩ := exists_checkOperations_of_ofValue h
  obtain ⟨mark, mark', operations, rfl, hrewritten⟩ := exists_of_rewritten_eq hvalue
  rw [eq_of_checkOperations hops, hrewritten, Shared.memberValues_eq_map] at ho
  obtain ⟨o, hmem, heq⟩ := List.mem_map.mp ho
  obtain ⟨key', s⟩ := o
  obtain ⟨mark'', members, rfl, rfl⟩ := Shared.eq_map_of_value (congrArg Prod.snd heq)
  exact hasTextCodes_memberValues (isTextCoded_rewriteFirst hmem)

/-! ### Fragments -/

/-- A fragment that was read stands under a path template and has operations, all of them with texts
as response codes. -/
theorem isTemplate_of_readFragment {text : String} {f : Fragment}
    (h : readFragment text = .ok (.ok f)) :
    pathTemplate f.path = f.path ∧ f.item ≠ [] ∧ ∀ o ∈ f.item, HasTextCodes o.2 := by
  have hchecked := isChecked_of_readFragment h
  obtain ⟨path, m, ms, hpath, hops⟩ := exists_checkOperations_of_readFragment h
  refine ⟨by rw [hpath, pathTemplate_pathTemplate], fun hitem => ?_, fun o ho => ?_⟩
  · -- The first member passed the check, so there are operations.
    obtain ⟨method, operation, rest, -, -, hcons⟩ := exists_of_checkOperations_cons hops
    rw [Fragment.IsChecked, hitem, hcons] at hchecked
    cases hchecked
  · obtain ⟨v, -, hv⟩ := exists_ofValue_of_readFragment h
    exact hasTextCodes_of_ofValue_rewritten hv (hchecked.mem_operations ho)

/-! ### Drafts -/

/-- A path item in the shape that every step keeps, and the path it stands under. -/
structure IsShapedItem (path : String) (item : PathItem) : Prop where
  /-- The path is a template. -/
  isTemplate : pathTemplate path = path
  /-- There is an operation. -/
  ne_nil : item ≠ []
  /-- Each method has one operation at most. -/
  nodup : (item.map Prod.fst).Nodup
  /-- Response codes are texts. -/
  hasTextCodes : ∀ o ∈ item, HasTextCodes o.2

theorem nodup_of_eq_nil_or_isShapedItem {path : String} {item : PathItem}
    (h : item = [] ∨ IsShapedItem path item) : (item.map Prod.fst).Nodup := by
  rcases h with rfl | h
  · exact List.nodup_nil
  · exact h.nodup

theorem hasTextCodes_of_eq_nil_or_isShapedItem {path : String} {item : PathItem}
    (h : item = [] ∨ IsShapedItem path item) : ∀ o ∈ item, HasTextCodes o.2 := by
  rcases h with rfl | h
  · exact fun o ho => absurd ho List.not_mem_nil
  · exact h.hasTextCodes

/-- Writing the operation of a route gives the shape to a new path item and keeps that of an old
one. -/
theorem isShapedItem_writeOperation {r : Route} (hr : r.HasKnownMethod) {item : PathItem}
    (hitem : item = [] ∨ IsShapedItem (pathTemplate r.path) item) :
    IsShapedItem (pathTemplate r.path) (Draft.writeOperation item r) := by
  obtain ⟨m, hm⟩ := hr
  rw [Draft.writeOperation_eq hm]
  refine ⟨pathTemplate_pathTemplate _, fun hnil => ?_, ?_, fun o ho => ?_⟩
  · have hkey : m ∈ (Table.set m (Operation.members m r) item).map Prod.fst :=
      Table.mem_keys_set.mpr (.inl rfl)
    rw [hnil] at hkey
    cases hkey
  · exact Table.nodup_keys_set (nodup_of_eq_nil_or_isShapedItem hitem)
  · rcases Table.mem_set ho with rfl | ho
    · exact Operation.hasTextCodes_members m r
    · exact hasTextCodes_of_eq_nil_or_isShapedItem hitem o ho

/-- Merging the operations of a fragment gives the shape to a new path item and keeps that of an old
one. -/
theorem isShapedItem_setAll {text : String} {f : Fragment} (hread : readFragment text = .ok (.ok f))
    {item : PathItem} (hitem : item = [] ∨ IsShapedItem f.path item) :
    IsShapedItem f.path (Table.setAll item f.item) := by
  obtain ⟨hpath, hne, hcodes⟩ := isTemplate_of_readFragment hread
  refine ⟨hpath, fun hnil => ?_, ?_, fun o ho => ?_⟩
  · obtain ⟨o, rest, hcons⟩ := List.exists_cons_of_ne_nil hne
    have hkey : o.1 ∈ (Table.setAll item f.item).map Prod.fst :=
      Table.mem_keys_setAll.mpr (.inl (List.mem_map_of_mem (hcons ▸ List.mem_cons_self)))
    rw [hnil] at hkey
    cases hkey
  · exact Table.nodup_keys_setAll (nodup_of_eq_nil_or_isShapedItem hitem) _
  · rcases Table.mem_setAll ho with ho | ho
    · exact hcodes o ho
    · exact hasTextCodes_of_eq_nil_or_isShapedItem hitem o ho

namespace Draft

/-- A draft in the shape that every step keeps. -/
structure IsShaped (d : Draft) : Prop where
  /-- Each path has one item. -/
  nodup : (d.paths.map Prod.fst).Nodup
  /-- Every item has the shape. -/
  items : ∀ p ∈ d.paths, IsShapedItem p.1 p.2

/-- A change of one path item keeps the shape if it gives it to that item. -/
theorem IsShaped.update {d d' : Draft} (h : d.IsShaped) {path : String} {f : PathItem → PathItem}
    (hpaths : d'.paths = Table.update path f d.paths)
    (hf : ∀ item, item = [] ∨ IsShapedItem path item → IsShapedItem path (f item)) :
    d'.IsShaped where
  nodup := hpaths ▸ Table.nodup_keys_set h.nodup
  items := hpaths ▸ Table.forall_update h.items hf

/-- Adding routes keeps the shape. -/
theorem IsShaped.addRoutes {d : Draft} (h : d.IsShaped) {rs : List Route}
    (hrs : ∀ r ∈ rs, r.HasKnownMethod) : (d.addRoutes rs).IsShaped := by
  -- Tags are no part of the shape, so the induction follows the paths alone.
  have hpaths : { d with paths := rs.foldl writeRoute d.paths }.IsShaped := by
    induction rs generalizing d with
    | nil => exact h
    | cons r rs ih =>
      obtain ⟨hr, hrs⟩ := List.forall_mem_cons.mp hrs
      have hstep : { d with paths := writeRoute d.paths r }.IsShaped :=
        h.update rfl fun item hitem => isShapedItem_writeOperation hr hitem
      exact ih hstep hrs
  exact ⟨hpaths.nodup, hpaths.items⟩

/-- Merging a fragment keeps the shape. -/
theorem IsShaped.merge {d : Draft} (h : d.IsShaped) {text : String} {f : Fragment}
    (hread : readFragment text = .ok (.ok f)) : (d.merge f).IsShaped :=
  h.update rfl fun _ hitem => isShapedItem_setAll hread hitem

/-- **Every run keeps the shape.** -/
theorem IsShaped.afterAll {d : Draft} (h : d.IsShaped) {steps : List Step}
    (hsteps : ∀ s ∈ steps, s.HasKnownMethods) : (d.afterAll steps).IsShaped := by
  refine afterAll_induction (P := IsShaped) (fun d rs hrs hd => hd.addRoutes hrs)
    (fun d text f hread hd => hd.merge hread) (fun d d' hkeep hd => ?_) h hsteps
  exact ⟨hkeep.paths_eq ▸ hd.nodup, hkeep.paths_eq ▸ hd.items⟩

end Draft

/-! ### Documents -/

/-- The shape of a document: its paths are a map, the keys are path templates, and under each
stands a map, not empty, from the names of methods to operations, which are maps with texts as
response codes. No key stands twice. -/
def Document.IsShaped (d : Document) : Prop :=
  ∃ paths : Members, Members.find? d "paths" = some (.map paths) ∧ paths.keys.Nodup ∧
    ∀ p ∈ paths, ∃ (path : String) (item : Members), p = (.text path, .map item) ∧
      pathTemplate path = path ∧ item ≠ [] ∧ item.keys.Nodup ∧
      ∀ o ∈ item, ∃ (m : Method) (operation : Members),
        o = (.text m.key, .map operation) ∧ HasTextCodes operation

theorem Members.nodup_keys_ofTable {κ α : Type} {name : κ → String} {value : α → Value}
    (hname : Function.Injective name) {es : List (κ × α)} (h : (es.map Prod.fst).Nodup) :
    (Members.ofTable name value es).keys.Nodup := by
  have hkeys : (Members.ofTable name value es).keys =
      (es.map Prod.fst).map fun k => .text (name k) := by
    simp only [Members.keys, Members.ofTable, List.map_map, Function.comp_def]
  rw [hkeys]
  exact h.map fun a b hab => hname (Scalar.text.inj hab)

/-- A draft of the kept shape is written as a document of that shape. -/
theorem Draft.IsShaped.document {d : Draft} (h : d.IsShaped) : d.document.IsShaped := by
  refine ⟨_, d.find?_paths, Members.nodup_keys_ofTable Function.injective_id h.nodup, ?_⟩
  refine List.forall_mem_map.mpr fun p hp => ?_
  have hitem := h.items p hp
  refine ⟨p.1, _, rfl, hitem.isTemplate, fun hnil => ?_,
    Members.nodup_keys_ofTable Method.key_injective hitem.nodup, ?_⟩
  · exact hitem.ne_nil (List.map_eq_nil_iff.mp hnil)
  · exact List.forall_mem_map.mpr fun o ho => ⟨o.1, o.2, rfl, hitem.hasTextCodes o ho⟩

/-- **Every document under construction has the shape**: after any number of steps in any order,
those that failed among them, starting from a new document. -/
theorem isShaped_afterAll (title version description : Value) {steps : List Step}
    (hsteps : ∀ s ∈ steps, s.HasKnownMethods) :
    ((Document.new title version description).afterAll steps).IsShaped := by
  have hnew : (Draft.new title version description).IsShaped :=
    ⟨List.nodup_nil, fun p hp => absurd hp List.not_mem_nil⟩
  rw [← Draft.document_new, Draft.afterAll_document _ hsteps]
  exact (hnew.afterAll hsteps).document

/-- A run with two spellings of one path, an answer with numbers as response codes, one that cannot
be used, one that cannot be read, and one that makes finishing fail. -/
def mixedSteps : List Step :=
  let route : Route := { method := "GET", path := "/users/:id?", handler := "show" }
  [.addRoutes [route],
    .addText route "/users/:id:\n  post:\n    responses:\n      200: ok\n      true: no\n",
    .addText { route with path := "/:a::b", method := "HEAD" } "no fragment",
    .addText route "/x:\n  get: !!bool maybe\n",
    .addText route "/y:\n  put:\n    responses: none\n",
    .finish,
    .setServer (.text "u") .null]

theorem isShaped_afterAll_mixedSteps :
    (∀ s ∈ mixedSteps, s.HasKnownMethods) ∧
    ((Document.new .null .null .null).afterAll mixedSteps).pathItems.keys.map Scalar.display =
      ["/users/\x7bid\x7d", "/\x7ba\x7d:\x7bb\x7d", "/y"] ∧
    ((Document.new .null .null .null).afterAll mixedSteps).IsShaped := by
  have hsteps : ∀ s ∈ mixedSteps, s.HasKnownMethods := by decide +kernel
  exact ⟨hsteps, by decide +kernel, isShaped_afterAll _ _ _ hsteps⟩

end RouteAtlas
