import RouteAtlas.Proofs.Synthesis
import RouteAtlas.Proofs.Template
import RouteAtlas.Route.Extract

/-!
# Path templates and path parameters agree

In a document made of extracted routes, the parameters that an operation declares for the path are
the names in braces of the template it stands under (`pathParameterNames_quickDocument`). The
template comes from one reading of the pattern and the parameters from another, and several routes
whose patterns differ only in question marks share a path item, each writing over the other's
operation. The argument has three parts: the readings agree on every pattern
(`map_name_pathParameters`), an extracted route has no path parameters but those of its pattern
(`parametersIn_path_of_routeOf?`), and every operation of the document is that of a route whose
template is the path it stands under (`ForallOperations`).
-/

namespace RouteAtlas

/-! ### Extracted routes -/

/-- A route that was found in some source text. -/
def Route.IsExtracted (r : Route) : Prop :=
  ∃ source filePath routes, extractRoutes source filePath = .ok routes ∧ r ∈ routes

/-- An extracted route is the record of a registration. -/
theorem Route.IsExtracted.exists_routeOf? {r : Route} (h : r.IsExtracted) :
    ∃ filePath registration, routeOf? filePath registration = some r := by
  obtain ⟨source, filePath, routes, hextract, hr⟩ := h
  rw [extractRoutes] at hextract
  cases hparse : Script.parse source with
  | error e => rw [hparse] at hextract; cases hextract
  | ok tree =>
    rw [hparse] at hextract
    obtain rfl := Except.ok.inj hextract
    obtain ⟨registration, -, hroute⟩ := List.mem_filterMap.mp hr
    exact ⟨filePath, registration, hroute⟩

theorem hasKnownMethod_of_routeOf? {filePath : String} {registration : Sighting.Registration}
    {r : Route} (h : routeOf? filePath registration = some r) : r.HasKnownMethod := by
  rw [routeOf?] at h
  split at h
  · rw [← Option.some.inj h]
    exact ⟨registration.method, rfl⟩
  · cases h

theorem Route.IsExtracted.hasKnownMethod {r : Route} (h : r.IsExtracted) : r.HasKnownMethod := by
  obtain ⟨filePath, registration, hroute⟩ := h.exists_routeOf?
  exact hasKnownMethod_of_routeOf? hroute

/-- What a handler shows is not in the path. -/
theorem location_ne_path_of_mem_handlerParameters {handler : Script.Tree} {p : Parameter}
    (h : p ∈ handlerParameters handler) : p.location ≠ "path" := by
  cases handler with
  | function parts =>
    rcases List.mem_append.mp h with h | h
    · obtain ⟨name, -, rfl⟩ := List.mem_map.mp h
      simp
    · obtain ⟨entry, -, rfl⟩ := List.mem_map.mp h
      simp
  | _ => cases h

/-- The path parameters of an extracted route are those of its pattern. -/
theorem parametersIn_path_of_routeOf? {filePath : String} {registration : Sighting.Registration}
    {r : Route} (h : routeOf? filePath registration = some r) :
    r.parametersIn "path" = pathParameters r.path := by
  rw [routeOf?] at h
  split at h
  · rename_i path rest _
    obtain rfl := Option.some.inj h
    have hpath : (pathParameters path).filter (·.location == "path") = pathParameters path := by
      refine List.filter_eq_self.mpr fun p hp => ?_
      obtain ⟨entry, -, rfl⟩ := List.mem_map.mp hp
      rfl
    have hhandler : ∀ handler,
        (handlerParameters handler).filter (·.location == "path") = [] := by
      refine fun handler => List.filter_eq_nil_iff.mpr fun p hp => ?_
      simpa using location_ne_path_of_mem_handlerParameters hp
    rw [Route.parametersIn, List.filter_append, hpath, hhandler, List.append_nil]
  · cases h

/-! ### Declared parameters -/

/-- The text under a name in a map. -/
def Value.textUnder? (v : Value) (name : String) : Option String :=
  (v.members?.bind (Members.find? · name)).bind Value.text?

/-- The names of the parameters that an operation declares for the path, in order. A parameter
without a name shows as `none`. -/
def pathParameterNames (operation : Value) : List (Option String) :=
  match operation.members?.bind (Members.find? · "parameters") with
  | some (.list parameters) =>
    (parameters.filter fun p => p.textUnder? "in" == some "path").map (·.textUnder? "name")
  | _ => []

theorem textUnder?_in_parameterObject (p : Parameter) :
    (Operation.parameterObject p).textUnder? "in" = some p.location := by
  simp [Operation.parameterObject, Value.object, Value.textUnder?, Value.members?, Value.text?,
    Members.find?_cons]

theorem textUnder?_name_parameterObject (p : Parameter) :
    (Operation.parameterObject p).textUnder? "name" = some p.name := by
  simp [Operation.parameterObject, Value.object, Value.textUnder?, Value.members?, Value.text?,
    Members.find?_cons]

/-- A synthesized operation declares the path parameters of its route. -/
theorem pathParameterNames_members (m : Method) (r : Route) :
    pathParameterNames (.map (Operation.members m r)) =
      (r.parametersIn "path").map fun p => some p.name := by
  have hlisted : r.parameters.filter (fun p => (p.location == "path") && Operation.isListed p) =
      r.parametersIn "path" := by
    refine List.filter_congr fun p _ => ?_
    cases h : p.location == "path" <;> simp [Operation.isListed, h]
  simp only [pathParameterNames, Value.members?, Option.bind_some, Operation.find?_parameters,
    Operation.parameterObjects, List.filter_map, List.map_map, List.filter_filter]
  rw [← hlisted]
  simp [Function.comp_def, textUnder?_in_parameterObject, textUnder?_name_parameterObject]

/-! ### Agreement -/

/-- The operation of an extracted route declares for the path what stands in braces in the template
of its pattern. -/
theorem pathParameterNames_of_isExtracted {r : Route} (hr : r.IsExtracted)
    (hpath : '\x7b' ∉ r.path.toList) (m : Method) :
    pathParameterNames (.map (Operation.members m r)) =
      (enclosedNames (pathTemplate r.path)).eraseDups.map some := by
  obtain ⟨filePath, registration, hroute⟩ := hr.exists_routeOf?
  rw [pathParameterNames_members, parametersIn_path_of_routeOf? hroute,
    ← map_name_pathParameters hpath, List.map_map]
  rfl

/-- **Path templates and path parameters agree.** The document of extracted routes exists, every
route has its operation in it, and every operation declares for the path exactly the names in braces
of the template it stands under, in the order of first occurrence and without repetition. Only
opening braces have to be absent from the patterns: a closing one without an opening one encloses
nothing. -/
theorem pathParameterNames_quickDocument {routes : List Route}
    (hroutes : ∀ r ∈ routes, r.IsExtracted ∧ '\x7b' ∉ r.path.toList) (heading : Heading) :
    ∃ d paths, quickDocument routes heading = .ok d ∧
      Members.find? d "paths" = some (.map paths) ∧
      (∀ r ∈ routes, ∃ (m : Method) (item : Members) (operation : Value), r.method = m.name ∧
        (.text (pathTemplate r.path), .map item) ∈ paths ∧ (.text m.key, operation) ∈ item) ∧
      ∀ p ∈ paths, ∃ template item, p = (.text template, .map item) ∧
        ∀ o ∈ item, pathParameterNames o.2 = (enclosedNames template).eraseDups.map some := by
  have hknown : ∀ r ∈ routes, r.HasKnownMethod := fun r hr => by
    obtain ⟨filePath, registration, hroute⟩ := (hroutes r hr).1.exists_routeOf?
    exact hasKnownMethod_of_routeOf? hroute
  refine ⟨_, _, quickDocument_eq hknown heading, Draft.find?_paths _,
    fun r hr => ?_, fun p hp => ?_⟩
  · obtain ⟨m, hm⟩ := hknown r hr
    obtain ⟨item, hitem, hop⟩ := Draft.hasOperation_foldl_writeRoute hr hm []
    obtain ⟨op, hop⟩ := Option.isSome_iff_exists.mp hop
    exact ⟨m, _, _, hm, List.mem_map_of_mem (Table.mem_of_get? hitem),
      List.mem_map_of_mem (Table.mem_of_get? hop)⟩
  · have hagree : Draft.ForallOperations (fun path _ op => pathParameterNames (.map op) =
        (enclosedNames path).eraseDups.map some) (routes.foldl Draft.writeRoute []) :=
      Draft.ForallOperations.foldl_writeRoute (fun p hp => absurd hp List.not_mem_nil)
        fun r hr m _ => pathParameterNames_of_isExtracted (hroutes r hr).1 (hroutes r hr).2 m
    obtain ⟨⟨path, item⟩, hentry, rfl⟩ := List.mem_map.mp hp
    refine ⟨path, _, rfl, fun o ho => ?_⟩
    obtain ⟨⟨m, op⟩, hop, rfl⟩ := List.mem_map.mp ho
    exact hagree _ hentry _ hop

/-- A source text with two routes that share a path item, both with a repeated and an optional
parameter. -/
theorem pathParameterNames_quickDocument_shared :
    ∃ routes d paths,
      extractRoutes "app.get('/:a/:b?/:a',f);app.put('/:a/:b/:a?',f)" "r.js" = .ok routes ∧
      routes.map Route.path = ["/:a/:b?/:a", "/:a/:b/:a?"] ∧
      quickDocument routes {} = .ok d ∧ Members.find? d "paths" = some (.map paths) ∧
      ∀ p ∈ paths, ∃ template item, p = (.text template, .map item) ∧
        ∀ o ∈ item, pathParameterNames o.2 = (enclosedNames template).eraseDups.map some := by
  have hpaths : (extractRoutes "app.get('/:a/:b?/:a',f);app.put('/:a/:b/:a?',f)"
      "r.js").toOption.map (List.map Route.path) = some ["/:a/:b?/:a", "/:a/:b/:a?"] := by decide +kernel
  obtain ⟨routes, hextract, hpaths⟩ := exists_ok_of_map_toOption hpaths
  have hplain : ∀ path ∈ ["/:a/:b?/:a", "/:a/:b/:a?"], '\x7b' ∉ path.toList := by decide +kernel
  obtain ⟨d, paths, hd, hfind, -, hagree⟩ := pathParameterNames_quickDocument
    (fun r hr => ⟨⟨_, _, routes, hextract, hr⟩,
      hplain r.path (hpaths ▸ List.mem_map_of_mem hr)⟩) {}
  exact ⟨routes, d, paths, hextract, hpaths, hd, hfind, hagree⟩

end RouteAtlas
