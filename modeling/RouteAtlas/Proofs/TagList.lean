import Mathlib.Data.List.Nodup
import RouteAtlas.Proofs.Steps
import RouteAtlas.Proofs.View

/-!
# The list of tags

Tags come from path segments, from the lists that a model writes and from finishing a document that
has none. Operations are replaced while a document is built, but tags are only ever added at the
end. This module shows what the list of tags is at every moment of a run (`tagNames_afterAll`): no
name stands in it twice, what stands in it stays where it is, and **every tag of an operation
stands in it exactly once**, the default tag apart, which an operation may bear without its being
listed.

The invariant is `Draft.TagsCover`. That the default tag has to be left out shows in two places:
routes without a fixed segment bear it and do not list it, and finishing lists it only if there is
no other.
-/

namespace RouteAtlas

namespace Draft

/-! ### Listing tags -/

theorem prefix_listTag (tags : List (String × String)) (name : String) :
    tags <+: listTag tags name := by
  rw [listTag]
  split_ifs
  · exact List.prefix_rfl
  · exact List.prefix_append ..

theorem prefix_foldl_listTag (tags : List (String × String)) (names : List String) :
    tags <+: names.foldl listTag tags :=
  prefix_foldl prefix_listTag tags names

/-- Listing tags lists all of them. -/
theorem mem_foldl_listTag (tags : List (String × String)) {names : List String} {name : String}
    (h : name ∈ names) : name ∈ (names.foldl listTag tags).map Prod.fst := by
  induction names generalizing tags with
  | nil => cases h
  | cons name' names ih =>
    rcases List.mem_cons.mp h with rfl | h
    · have hlisted : name ∈ (listTag tags name).map Prod.fst := by
        rw [listTag]
        split_ifs with hold
        · exact hold
        · simp
      exact ((prefix_foldl_listTag _ names).map Prod.fst).subset hlisted
    · exact ih _ h

/-- Listing tags keeps their names different. -/
theorem nodup_foldl_listTag {tags : List (String × String)} (h : (tags.map Prod.fst).Nodup)
    (names : List String) : ((names.foldl listTag tags).map Prod.fst).Nodup := by
  induction names generalizing tags with
  | nil => exact h
  | cons name names ih =>
    refine ih ?_
    rw [listTag]
    split_ifs with hold
    · exact h
    · rw [List.map_append, List.map_singleton, ← List.concat_eq_append]
      exact h.concat hold

/-! ### Tags of operations -/

/-- All tags of an operation but the default one are among some tags. -/
def IsCovered (tags : List (String × String)) (operation : Members) : Prop :=
  ∀ tag ∈ Document.textTags (.map operation), tag ≠ Operation.defaultTag →
    tag ∈ tags.map Prod.fst

theorem IsCovered.mono {tags tags' : List (String × String)} (h : tags <+: tags')
    {operation : Members} (hcovered : IsCovered tags operation) : IsCovered tags' operation :=
  fun tag htag hne => (h.map Prod.fst).subset (hcovered tag htag hne)

/-- A synthesized operation has the tag of its path. -/
theorem textTags_members (m : Method) (r : Route) :
    Document.textTags (.map (Operation.members m r)) = [Operation.tagOf r.path] := by
  have htags : Members.find? (Operation.members m r) "tags" =
      some (Value.texts [Operation.tagOf r.path]) := by
    simp [Operation.members, Operation.ofRoute, Value.object, Value.members?, Members.find?_cons]
  rw [Document.textTags, htags]
  rfl

/-- The tag of a route is listed with its route, unless it is the default one. -/
theorem isCovered_members {rs : List Route} {r : Route} (hr : r ∈ rs) (m : Method)
    (tags : List (String × String)) :
    IsCovered ((Document.tagsOf rs).foldl listTag tags) (Operation.members m r) := by
  intro tag htag hne
  rw [textTags_members, List.mem_singleton] at htag
  have hmem : tag ∈ Document.tagsOf rs := by
    rw [Document.tagsOf, List.mem_filter, htag]
    exact ⟨List.mem_map_of_mem hr, by simpa [htag] using hne⟩
  exact mem_foldl_listTag tags hmem

/-! ### The invariant -/

/-- The tags of a draft have different names and cover its operations. -/
structure TagsCover (d : Draft) : Prop where
  /-- No name stands twice. -/
  nodup : (d.tags.map Prod.fst).Nodup
  /-- Every operation is covered. -/
  covered : ForallOperations (fun _ _ op => IsCovered d.tags op) d.paths

theorem TagsCover.addRoutes {d : Draft} (h : d.TagsCover) (rs : List Route) :
    (d.addRoutes rs).TagsCover := by
  have hgrow := prefix_foldl_listTag d.tags (Document.tagsOf rs)
  have hold : ForallOperations
      (fun _ _ op => IsCovered ((Document.tagsOf rs).foldl listTag d.tags) op) d.paths :=
    fun p hp o ho => (h.covered p hp o ho).mono hgrow
  exact ⟨nodup_foldl_listTag h.nodup _,
    hold.foldl_writeRoute fun r hr m _ => isCovered_members hr m d.tags⟩

theorem TagsCover.merge {d : Draft} (h : d.TagsCover) {f : Fragment} (hf : f.IsChecked) :
    (d.merge f).TagsCover := by
  have hgrow := prefix_foldl_listTag d.tags (f.operations.flatMap fun o => Document.textTags o.2)
  have hold : ForallOperations (fun _ _ op => IsCovered (d.merge f).tags op) d.paths :=
    fun p hp o ho => (h.covered p hp o ho).mono hgrow
  -- An operation of the new item comes from the fragment, whose tags are all listed now, or was there.
  have hnew : ForallOperations (fun _ _ op => IsCovered (d.merge f).tags op)
      (Table.update f.path (Table.setAll · f.item) d.paths) := by
    refine hold.update fun item hitem o ho => ?_
    rcases Table.mem_setAll ho with ho | ho
    · intro tag htag _
      exact mem_foldl_listTag d.tags (List.mem_flatMap.mpr ⟨_, hf.mem_operations ho, htag⟩)
    · exact hitem o ho
  exact ⟨nodup_foldl_listTag h.nodup _, hnew⟩

/-- Steps that keep paths and tags keep the invariant. Where there were no tags, no operation has
any but the default one, and the default one may be listed. -/
theorem TagsCover.keepsRoutes {d d' : Draft} (h : d.TagsCover) (hkeep : d.KeepsRoutes d') :
    d'.TagsCover := by
  obtain ⟨hpaths, htags | ⟨hnil, htags⟩⟩ := hkeep
  · exact ⟨htags ▸ h.nodup, hpaths ▸ htags ▸ h.covered⟩
  · have hgrow : d.tags <+: d'.tags := hnil ▸ List.nil_prefix
    refine ⟨by simp [htags], ?_⟩
    rw [hpaths]
    exact fun p hp o ho => (h.covered p hp o ho).mono hgrow

/-- **Every run keeps the invariant.** -/
theorem TagsCover.afterAll {d : Draft} (h : d.TagsCover) {steps : List Step}
    (hsteps : ∀ s ∈ steps, s.HasKnownMethods) : (d.afterAll steps).TagsCover :=
  afterAll_induction (P := TagsCover) (fun _ rs _ hd => hd.addRoutes rs)
    (fun _ _ _ hread hd => hd.merge (isChecked_of_readFragment hread))
    (fun _ _ hkeep hd => hd.keepsRoutes hkeep) h hsteps

/-- **Every run only adds tags at the end.** -/
theorem prefix_tags_afterAll (d : Draft) {steps : List Step}
    (hsteps : ∀ s ∈ steps, s.HasKnownMethods) : d.tags <+: (d.afterAll steps).tags := by
  refine afterAll_induction (P := fun d' => d.tags <+: d'.tags)
    (fun d' rs _ hd' => hd'.trans (prefix_foldl_listTag ..))
    (fun d' _ f _ hd' => hd'.trans (prefix_foldl_listTag ..)) (fun d' d'' hkeep hd' => ?_)
    List.prefix_rfl hsteps
  rcases hkeep.tags_eq with htags | ⟨hnil, -⟩
  · exact htags ▸ hd'
  · have hempty : d.tags = [] := List.prefix_nil.mp (hnil ▸ hd')
    exact hempty ▸ List.nil_prefix

end Draft

/-- **The list of tags at every moment of a run.** All tags have names, and different ones; they
are the first tags of the list at every later moment; and every tag of an operation but the default
one is the name of exactly one of them. -/
theorem tagNames_afterAll (title version description : Value) {steps later : List Step}
    (hsteps : ∀ s ∈ steps ++ later, s.HasKnownMethods) :
    let d := (Document.new title version description).afterAll steps
    none ∉ d.tagNames ∧ d.tagNames.Nodup ∧ d.tagList <+: (d.afterAll later).tagList ∧
      ∀ op ∈ d.operations, ∀ tag ∈ Document.textTags op, tag ≠ Operation.defaultTag →
        d.tagNames.count (some tag) = 1 := by
  intro d
  obtain ⟨hearlier, hlater⟩ := List.forall_mem_append.mp hsteps
  have hnew : (Draft.new title version description).TagsCover :=
    ⟨List.nodup_nil, fun p hp => absurd hp List.not_mem_nil⟩
  have hcover := hnew.afterAll hearlier
  have hd : d = ((Draft.new title version description).afterAll steps).document :=
    Draft.afterAll_document (Draft.new title version description) hearlier
  have hnames : d.tagNames =
      (((Draft.new title version description).afterAll steps).tags.map Prod.fst).map some := by
    rw [hd, Draft.tagNames_document, List.map_map]
    rfl
  have hnodup : d.tagNames.Nodup := hnames ▸ hcover.nodup.map fun _ _ => Option.some.inj
  refine ⟨by simp [hnames], hnodup, ?_, ?_⟩
  · rw [hd, Draft.afterAll_document _ hlater, Draft.tagList_document, Draft.tagList_document]
    exact (Draft.prefix_tags_afterAll _ hlater).map _
  · rw [hd, Draft.forall_mem_operations_document_iff, ← hd]
    intro p hp o ho tag htag hne
    refine List.count_eq_one_of_mem hnodup ?_
    rw [hnames]
    exact List.mem_map_of_mem (hcover.covered p hp o ho tag htag hne)

/-- A run that lists the default tag first and then the tags of an answer, which are of several
kinds and partly repeated. -/
def taggedSteps : List Step := [
  .finish,
  .addText { method := "GET", path := "/a", handler := "f" }
    "/a:\n  get:\n    tags: [Users, 3, Default, Users]\n",
  .addRoutes [{ method := "POST", path := "/:id", handler := "g" }]]

theorem tagNames_afterAll_taggedSteps :
    let later : List Step := [.addRoutes [{ method := "GET", path := "/a", handler := "f" }]]
    let d := (Document.new .null .null .null).afterAll taggedSteps
    (∀ s ∈ taggedSteps ++ later, s.HasKnownMethods) ∧
    d.tagNames = [some "Default", some "Users"] ∧
    d.operations.map Document.textTags = [["Users", "Default", "Users"], ["Default"]] ∧
    d.tagList <+: (d.afterAll later).tagList ∧
    ∀ op ∈ d.operations, ∀ tag ∈ Document.textTags op, tag ≠ Operation.defaultTag →
      d.tagNames.count (some tag) = 1 := by
  intro later d
  have hsteps : ∀ s ∈ taggedSteps ++ later, s.HasKnownMethods := by decide +kernel
  obtain ⟨-, -, hgrow, hcount⟩ := tagNames_afterAll .null .null .null hsteps
  exact ⟨hsteps, by decide +kernel, by decide +kernel, hgrow, hcount⟩

end RouteAtlas
