import RouteAtlas.Proofs.Adding
import RouteAtlas.Proofs.NormalPath
import RouteAtlas.Proofs.Patterns

/-!
# Spellings of a path

In a document a path has one item, and the key of the item is the template. This module says which
spellings of paths share an item.

A pattern and its template do. A model may write either of them as the key of a fragment, and since
**templates are normal forms**, both are merged under the template (`normalForm_pathTemplate`).

Different patterns without braces and question marks do not: **their templates tell them apart**
(`injOn_pathTemplate_and_withColons`). So the operation of such a route gives way only to that of a
later route with the same pattern and the same method. A question mark can make two patterns share an
item, and only one that directly follows the mark of a parameter.
-/

namespace RouteAtlas

/-! ### Keys of fragments -/

/-- What can be merged is merged under the template of its key. -/
theorem Draft.isMerge_after_addText (d : Draft) (route : Route) {text key : String} {v : Shared}
    {operations : List (Scalar × Shared)} (hload : Yaml.loadShared text = .ok v)
    (hholds : HoldsOperations v key operations) :
    d.document.IsMerge (pathTemplate key) operations
      (d.document.after (.addText route text)) := by
  obtain ⟨f, hf⟩ : ∃ f, Fragment.ofValue (rewritten v) = .ok f := ⟨_, hholds.ofValue_rewritten⟩
  have hread : readFragment text = .ok (.ok f) := by rw [readFragment, hload, ← hf]
  have hchecked := isChecked_of_readFragment hread
  have hafter : d.document.after (.addText route text) = (d.merge f).document := by
    rw [Document.after, Step.edit, hread]
    exact congrArg Prod.snd (d.run_mergeFragment hchecked)
  obtain rfl := Except.ok.inj (hholds.ofValue_rewritten.symm.trans hf)
  rw [hafter]
  exact d.isMerge_merge (hholds.nodup hload) hchecked rfl rfl

/-- **Templates are normal forms.** In a template no colon stands directly in front of a letter or an
underscore, the texts of this kind are exactly those that are their own templates, and so a template is
its own template. Whatever steps were taken before, operations that a model wrote under a pattern or
under its template are merged under the template. -/
theorem normalForm_pathTemplate (path : String) :
    (∀ c : Char, c.isAlpha = true ∨ c = '_' → ¬ [':', c] <:+: (pathTemplate path).toList) ∧
    (pathTemplate path = path ↔
      ∀ c : Char, c.isAlpha = true ∨ c = '_' → ¬ [':', c] <:+: path.toList) ∧
    pathTemplate (pathTemplate path) = pathTemplate path ∧
    ∀ (title version description : Value) (steps : List Step) (route : Route) (text key : String)
      (v : Shared) (operations : List (Scalar × Shared)), key = path ∨ key = pathTemplate path →
      Yaml.loadShared text = .ok v → HoldsOperations v key operations →
      let d := (Document.new title version description).afterAll steps
      d.IsMerge (pathTemplate path) operations (d.after (.addText route text)) := by
  have hunmarked : ∀ cs : List Char, IsUnmarked cs ↔
      ∀ c : Char, c.isAlpha = true ∨ c = '_' → ¬ [':', c] <:+: cs := by
    intro cs
    rw [isUnmarked_iff]
    simp only [isNameStart, Bool.or_eq_true, beq_iff_eq]
  refine ⟨(hunmarked _).mp (isUnmarked_pathTemplate path), ?_, pathTemplate_pathTemplate path, ?_⟩
  · rw [pathTemplate_eq_self_iff, hunmarked]
  · intro title version description steps route text key v operations hkey hload hholds d
    have htemplate : pathTemplate key = pathTemplate path := by
      rcases hkey with rfl | rfl
      · rfl
      · exact pathTemplate_pathTemplate path
    obtain ⟨draft, hd⟩ := (Draft.new title version description).exists_afterAll_document steps
    change d = _ at hd
    rw [hd, ← htemplate]
    exact draft.isMerge_after_addText route hload hholds

/-- The key of a map with one member, if it is a text. -/
def Shared.soleKey? : Shared → Option String
  | .map _ [(.text key, _)] => some key
  | _ => none

theorem exists_holdsOperations_of_mergePath? {text key template : String}
    (hmerge : mergePath? text = some template)
    (hkey : (Yaml.loadShared text).toOption.bind Shared.soleKey? = some key) :
    ∃ v operations, Yaml.loadShared text = .ok v ∧ HoldsOperations v key operations := by
  obtain ⟨v, path, operations, hload, hholds, -⟩ := mergePath?_eq_some_iff.mp hmerge
  obtain ⟨mark, mark', rfl⟩ := hholds.eq_map
  rw [hload] at hkey
  obtain rfl : path = key := Option.some.inj hkey
  exact ⟨_, operations, hload, hholds⟩

/-- A text whose key is a pattern. -/
def patternText : String := "/a/:x?/::y:\n  get:\n    summary: pattern\n  put: \x7b\x7d\n"

/-- A text whose key is the template of that pattern. -/
def templateText : String := "/a/\x7bx\x7d/:\x7by\x7d:\n  get:\n    summary: template\n"

theorem normalForm_pathTemplate_bothKeys :
    let route : Route := { method := "GET", path := "/a/:x?/::y", handler := "show" }
    let d := (Document.new .null .null .null).afterAll []
    let d' := (Document.new .null .null .null).afterAll [.addText route patternText]
    (∃ v operations v' operations',
      Yaml.loadShared patternText = .ok v ∧ HoldsOperations v "/a/:x?/::y" operations ∧
      d.IsMerge "/a/\x7bx\x7d/:\x7by\x7d" operations (d.after (.addText route patternText)) ∧
      Yaml.loadShared templateText = .ok v' ∧
      HoldsOperations v' "/a/\x7bx\x7d/:\x7by\x7d" operations' ∧
      d'.IsMerge "/a/\x7bx\x7d/:\x7by\x7d" operations' (d'.after (.addText route templateText))) ∧
    (d'.after (.addText route templateText)).pathItems.keys.map Scalar.display =
      ["/a/\x7bx\x7d/:\x7by\x7d"] := by
  intro route d d'
  have hpath : pathTemplate "/a/:x?/::y" = "/a/\x7bx\x7d/:\x7by\x7d" := by decide +kernel
  have htemplate : mergePath? patternText = some "/a/\x7bx\x7d/:\x7by\x7d" := by decide +kernel
  have htemplate' : mergePath? templateText = some "/a/\x7bx\x7d/:\x7by\x7d" := by decide +kernel
  have hkey : (Yaml.loadShared patternText).toOption.bind Shared.soleKey? =
      some "/a/:x?/::y" := by decide +kernel
  have hkey' : (Yaml.loadShared templateText).toOption.bind Shared.soleKey? =
      some "/a/\x7bx\x7d/:\x7by\x7d" := by decide +kernel
  obtain ⟨v, operations, hload, hholds⟩ := exists_holdsOperations_of_mergePath? htemplate hkey
  obtain ⟨v', operations', hload', hholds'⟩ := exists_holdsOperations_of_mergePath? htemplate' hkey'
  have hmerges := (normalForm_pathTemplate "/a/:x?/::y").2.2.2 .null .null .null
  rw [hpath] at hmerges
  have hmerge := hmerges [] route patternText _ v operations (.inl rfl) hload hholds
  have hmerge' := hmerges [.addText route patternText] route templateText _ v' operations' (.inr rfl)
    hload' hholds'
  have hkeys : (d'.after (.addText route templateText)).pathItems.keys.map Scalar.display =
      ["/a/\x7bx\x7d/:\x7by\x7d"] := by decide +kernel
  exact ⟨⟨v, operations, v', operations', hload, hholds, hmerge, hload', hholds', hmerge'⟩, hkeys⟩

/-! ### Routes that share an item -/

/-- Routes with plain patterns belong to one place only if they have one pattern and one method. -/
theorem filter_isAt_eq {routes : List Route} (hroutes : ∀ r ∈ routes, IsPlainPattern r.path)
    {r : Route} (hr : IsPlainPattern r.path) (m : Method) :
    routes.filter (·.isAt (pathTemplate r.path) m.key) =
      routes.filter fun s => s.path == r.path && s.method == m.name := by
  refine List.filter_congr fun s hs => ?_
  rw [Bool.eq_iff_iff, Route.isAt_key_iff, Bool.and_eq_true, beq_iff_eq, beq_iff_eq]
  exact and_congr_left fun _ => ⟨eq_of_pathTemplate_eq (hroutes s hs) hr, congrArg pathTemplate⟩

/-- **Templates tell patterns apart.** Different patterns without braces and question marks have
different templates. If there are question marks, the template with colons for braces is the pattern
without those that directly follow the mark of a parameter. Whatever steps were taken before, when
routes of known methods are added whose patterns have neither braces nor question marks, the last route
with a pattern and a method has its operation in the document. -/
theorem injOn_pathTemplate_and_withColons :
    (∀ p q : String, IsPlainPattern p → IsPlainPattern q →
      pathTemplate p = pathTemplate q → p = q) ∧
    (∀ p : String, IsBraceless p →
      withColons (pathTemplate p).toList = withoutOptions [] p.toList) ∧
    ∀ (title version description : Value) (steps : List Step) (routes : List Route),
      (∀ r ∈ routes, r.HasKnownMethod ∧ IsPlainPattern r.path) → ∀ (r : Route) (m : Method),
      (routes.filter fun s => s.path == r.path && s.method == m.name).getLast? = some r →
      let d := (Document.new title version description).afterAll steps
      ∃ operation, Operation.build r = .ok (m, operation) ∧
        (d.after (.addRoutes routes)).operation? (pathTemplate r.path) m.key = some operation := by
  refine ⟨fun p q => eq_of_pathTemplate_eq, fun p => withColons_pathTemplate, ?_⟩
  intro title version description steps routes hroutes r m hlast d
  obtain ⟨draft, hd⟩ := (Draft.new title version description).exists_afterAll_document steps
  change d = _ at hd
  obtain ⟨hr, hmatch⟩ := List.mem_filter.mp (List.mem_of_getLast? hlast)
  have hm : r.method = m.name := by simpa using hmatch
  have hplain : ∀ s ∈ routes, IsPlainPattern s.path := fun s hs => (hroutes s hs).2
  rw [← filter_isAt_eq hplain (hplain r hr)] at hlast
  obtain ⟨m', operation, hbuild, hoperation⟩ :=
    (draft.isAddition_addRoutes routes).written _ _ r hlast
  obtain rfl : m' = m := by
    rw [Operation.build_of_method hm] at hbuild
    exact (congrArg Prod.fst (Except.ok.inj hbuild)).symm
  have hknown : (Step.addRoutes routes).HasKnownMethods := fun s hs => (hroutes s hs).1
  rw [hd, draft.after_document hknown]
  exact ⟨operation, hbuild, hoperation⟩

/-- Routes with patterns that differ by little, of which two have the same pattern and method. -/
def similarRoutes : List Route := [
  { method := "GET", path := "/:a:b", handler := "pair" },
  { method := "GET", path := "/:a/:b", handler := "early" },
  { method := "GET", path := "/:ab", handler := "one" },
  { method := "GET", path := "/::a:b", handler := "colon" },
  { method := "GET", path := "/:a/:b", handler := "late" },
  { method := "PUT", path := "/:a/:b", handler := "change" },
  { method := "GET", path := "/a/:9b", handler := "digit" }]

theorem injOn_pathTemplate_and_withColons_similarRoutes :
    let d := (Document.new .null .null .null).afterAll halfSteps
    let d' := d.after (.addRoutes similarRoutes)
    let late : Route := { method := "GET", path := "/:a/:b", handler := "late" }
    (∀ r ∈ similarRoutes, r.HasKnownMethod ∧ IsPlainPattern r.path) ∧
    (∀ r ∈ similarRoutes, ∀ s ∈ similarRoutes,
      pathTemplate r.path = pathTemplate s.path → r.path = s.path) ∧
    withColons (pathTemplate "/a:x?b::9?/:y??z").toList = "/a:xb::9?/:y?z".toList ∧
    (∃ operation, Operation.build late = .ok (.get, operation) ∧
      d'.operation? "/\x7ba\x7d/\x7bb\x7d" "get" = some operation) ∧
    d'.pathItems.keys.map Scalar.display = ["/users/\x7bid\x7d", "/users", "/\x7ba\x7d\x7bb\x7d",
      "/\x7ba\x7d/\x7bb\x7d", "/\x7bab\x7d", "/:\x7ba\x7d\x7bb\x7d", "/a/:9b"] := by
  intro d d' late
  have hroutes : ∀ r ∈ similarRoutes, r.HasKnownMethod ∧ IsPlainPattern r.path := by
    decide +kernel
  have hbraceless : IsBraceless "/a:x?b::9?/:y??z" := by decide +kernel
  have hoptions : withoutOptions [] "/a:x?b::9?/:y??z".toList = "/a:xb::9?/:y?z".toList := by
    decide +kernel
  have hpath : pathTemplate late.path = "/\x7ba\x7d/\x7bb\x7d" := by decide +kernel
  have hlast : (similarRoutes.filter fun s =>
      s.path == late.path && s.method == Method.get.name).getLast? = some late := rfl
  have hkeys : d'.pathItems.keys.map Scalar.display = ["/users/\x7bid\x7d", "/users",
      "/\x7ba\x7d\x7bb\x7d", "/\x7ba\x7d/\x7bb\x7d", "/\x7bab\x7d", "/:\x7ba\x7d\x7bb\x7d",
      "/a/:9b"] := by decide +kernel
  obtain ⟨hinjective, hcolons, hwritten⟩ := injOn_pathTemplate_and_withColons
  refine ⟨hroutes, fun r hr s hs => hinjective _ _ (hroutes r hr).2 (hroutes s hs).2,
    (hcolons _ hbraceless).trans hoptions, ?_, hkeys⟩
  rw [← hpath]
  exact hwritten .null .null .null halfSteps similarRoutes hroutes late .get hlast

end RouteAtlas
