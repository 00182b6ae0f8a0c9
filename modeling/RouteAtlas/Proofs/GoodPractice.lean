import RouteAtlas.Proofs.Synthesis
import RouteAtlas.Validation.Checks

/-!
# Documents that pass the checks of good practice

A check adds to an outcome or breaks down. `Warns c ws` says that the check `c` never breaks down and
adds exactly the warnings `ws`, **whatever the outcome was before**; so it adds no error. The checks
of parameters, responses, operations and path items are composed of smaller ones, and so are their
laws.

`warns_checkDocument` is the law of whole documents: a draft with a title, a version, a path and a
tag, whose operations pass, is warned about only for paths that do not begin with a slash and for
the absence of schemas. Synthesized operations pass if their listed parameters have names
(`passes_checkOperation`).
-/

namespace RouteAtlas

namespace Checks

/-- The check never breaks down and adds exactly some warnings. -/
def Warns (c : Check) (ws : List Warning) : Prop :=
  ∀ r, c r = .ok { r with warnings := r.warnings ++ ws }

/-- The check never breaks down and adds nothing. -/
def Passes (c : Check) : Prop := ∀ r, c r = .ok r

theorem warns_nil_iff {c : Check} : Warns c [] ↔ Passes c := by
  simp only [Warns, Passes, List.append_nil]

/-- Checks one after the other add their warnings one after the other. -/
theorem warns_inOrder {α : Type} {check : α → Check} {ws : α → List Warning} {as : List α}
    (h : ∀ a ∈ as, Warns (check a) (ws a)) : Warns (inOrder check as) (as.flatMap ws) := by
  induction as with
  | nil =>
    intro r
    rw [inOrder, List.flatMap_nil, List.append_nil]
  | cons a as ih =>
    obtain ⟨ha, has⟩ := List.forall_mem_cons.mp h
    intro r
    rw [inOrder, ha r]
    change inOrder check as _ = _
    rw [ih has, List.flatMap_cons, List.append_assoc]

theorem passes_inOrder {α : Type} {check : α → Check} {as : List α}
    (h : ∀ a ∈ as, Passes (check a)) : Passes (inOrder check as) := by
  have hwarns := @warns_inOrder α check (fun _ => []) as fun a ha => warns_nil_iff.mpr (h a ha)
  rwa [List.flatMap_eq_nil_iff.mpr fun _ _ => rfl, warns_nil_iff] at hwarns

/-! ### Operations -/

/-- The parameter object of a parameter that has a name and a location. -/
theorem passes_checkParameter {p : Parameter} (hname : p.name ≠ "") (hlocation : p.location ≠ "")
    (place : String) (index : Nat) :
    Passes (checkParameter place index (Operation.parameterObject p)) := by
  intro r
  simp [checkParameter, Operation.parameterObject, Value.object, Value.member, Members.find?_cons,
    Value.truthy, Scalar.truthy, hname, hlocation, errorIf, bind, Except.bind, pure, Except.pure]

theorem passes_checkParameters {place : String} {vs : List Value}
    (h : ∀ v ∈ vs, ∀ index, Passes (checkParameter place index v)) (first : Nat) :
    Passes (checkParameters place first vs) := by
  induction vs generalizing first with
  | nil => exact fun _ => rfl
  | cons v vs ih =>
    obtain ⟨hv, hvs⟩ := List.forall_mem_cons.mp h
    intro r
    rw [checkParameters, hv first r]
    exact ih hvs (first + 1) r

/-- Responses among which there is one for success. -/
theorem passes_checkResponses {responses : Members} (h : .text "200" ∈ Members.keys responses)
    (place : String) : Passes (checkResponses place (.map responses)) := by
  intro r
  obtain ⟨m, hm, hcode⟩ := List.mem_map.mp h
  have htruthy : (Value.map responses).truthy = true := by
    cases responses with
    | nil => cases hm
    | cons m ms => rfl
  have hsuccess : (responses.map fun m => Value.scalar m.1).any isSuccess = true := by
    refine List.any_eq_true.mpr ⟨.scalar m.1, List.mem_map_of_mem hm, ?_⟩
    rw [hcode]
    decide +kernel
  simp only [checkResponses, htruthy, Value.iterate, hsuccess, warningIf, bind, Except.bind]
  rfl

/-- **A synthesized operation passes** if its listed parameters have names. -/
theorem passes_checkOperation {route : Route}
    (hnames : ∀ p ∈ route.parameters, Operation.isListed p = true → p.name ≠ "") (m : Method)
    (place : String) : Passes (checkOperation place (.map (Operation.members m route))) := by
  have hparameter : ∀ v ∈ Operation.parameterObjects route, ∀ index,
      Passes (checkParameter place index v) := by
    refine List.forall_mem_map.mpr fun p hp index => ?_
    obtain ⟨hp, hlisted⟩ := List.mem_filter.mp hp
    refine passes_checkParameter (hnames p hp hlisted) ?_ place index
    intro hempty
    rw [Operation.isListed, hempty] at hlisted
    exact absurd hlisted (by decide)
  intro r
  have hsummary : (Value.text (m.action ++ " " ++ Operation.resource route.path)).truthy = true := by
    simp [Value.truthy, Scalar.truthy]
  have hresponses := passes_checkResponses
    (Operation.text_200_mem_keys_responsesObject route) place r
  have hparameters := passes_checkParameters hparameter 0 r
  simp only [checkOperation, Value.member, Operation.find?_summary, Operation.find?_description,
    Operation.find?_responses, Operation.find?_parameters, Option.getD_some, bind, Except.bind,
    hsummary, warningIf, Bool.not_true, Bool.false_and, Bool.false_eq_true, if_false, hresponses]
  -- An operation without listed parameters has an empty list, which is not gone through.
  cases hlist : Operation.parameterObjects route with
  | nil => rfl
  | cons v vs => rwa [hlist] at hparameters

/-! ### Documents -/

/-- The warning about a path without a slash in front. -/
def unrootedWarning (path : String) : Warning :=
  ⟨"Path should start with /: " ++ path, some ("/paths/" ++ path), none⟩

/-- The warnings about paths without a slash in front. -/
def unrootedWarnings (paths : List String) : List Warning :=
  (paths.filter fun path => !Text.beginsWith path "/").map unrootedWarning

/-- The warning about a document without schemas. -/
def noSchemasWarning : Warning :=
  ⟨"No reusable schemas defined in components", some "/components/schemas",
    some "Consider extracting common schemas to components for reusability"⟩

/-- A path item whose operations pass. -/
theorem passes_checkMethods {item : PathItem}
    (h : ∀ o ∈ item, ∀ place, Passes (checkOperation place (.map o.2))) (path : String) :
    Passes (checkMethods path (Members.ofTable Method.key .map item)) := by
  refine passes_inOrder (List.forall_mem_map.mpr fun m _ r => ?_)
  rw [Members.find?_ofTable Method.key_injective]
  cases hget : Table.get? m item with
  | none => rfl
  | some operation =>
    simp only [Option.map_some]
    split_ifs
    · exact h _ (Table.mem_of_get? hget) _ r
    · rfl

/-- A path whose operations pass. -/
theorem warns_checkPath {path : String} {item : PathItem}
    (h : ∀ o ∈ item, ∀ place, Passes (checkOperation place (.map o.2))) :
    Warns (checkPath (.text path, Draft.itemValue item)) (unrootedWarnings [path]) := by
  intro r
  have hmethods := passes_checkMethods h path
  rw [checkPath, Draft.itemValue]
  simp only [Scalar.display]
  rw [hmethods, warningIf, unrootedWarnings, List.filter_cons]
  split_ifs
  · rfl
  · simp

/-- Paths whose operations pass. -/
theorem warns_checkPaths {paths : List (String × PathItem)} (hne : paths ≠ [])
    (h : ∀ p ∈ paths, ∀ o ∈ p.2, ∀ place, Passes (checkOperation place (.map o.2))) :
    Warns (checkPaths (.map (Members.ofTable id Draft.itemValue paths)))
      (unrootedWarnings (paths.map Prod.fst)) := by
  have hentries : Warns (inOrder checkPath (Members.ofTable id Draft.itemValue paths))
      ((Members.ofTable id Draft.itemValue paths).flatMap
        fun e => unrootedWarnings [e.1.display]) :=
    warns_inOrder (List.forall_mem_map.mpr fun p hp => warns_checkPath (h p hp))
  have hwarnings : ∀ ps : List (String × PathItem),
      (Members.ofTable id Draft.itemValue ps).flatMap
        (fun e => unrootedWarnings [e.1.display]) = unrootedWarnings (ps.map Prod.fst) := by
    intro ps
    induction ps with
    | nil => rfl
    | cons p ps ih =>
      rw [Members.ofTable_cons, List.flatMap_cons, ih, List.map_cons, unrootedWarnings,
        unrootedWarnings, unrootedWarnings, ← List.map_append, ← List.filter_append]
      rfl
  intro r
  cases paths with
  | nil => exact absurd rfl hne
  | cons p ps =>
    rw [← hwarnings]
    exact hentries r

/-- A description of the interface with a title and a version. -/
theorem passes_checkInfo {title version : String} (htitle : title ≠ "") (hversion : version ≠ "")
    (description : Value) :
    Passes (checkInfo (Document.infoObject (.text title) (.text version) description)) := by
  intro r
  simp [checkInfo, Document.infoObject, Value.object, Value.member, Members.find?_cons,
    Value.truthy, Scalar.truthy, htitle, hversion, errorIf, bind, Except.bind, pure, Except.pure]

/-- **A draft is warned about** only for paths without a slash in front and for the absence of
schemas. -/
theorem warns_checkDocument {d : Draft} (hinfo : Passes (checkInfo d.info)) (hpaths : d.paths ≠ [])
    (htags : d.tags ≠ [])
    (hoperations : ∀ p ∈ d.paths, ∀ o ∈ p.2, ∀ place, Passes (checkOperation place (.map o.2))) :
    Warns (checkDocument (.map d.document))
      (unrootedWarnings (d.paths.map Prod.fst) ++
        if d.schemas = [] then [noSchemasWarning] else []) := by
  have hversion : Members.find? d.document "openapi" =
      some (.text Document.specificationVersion) := by
    simp [Draft.document, Members.find?_cons]
  have hthird : isThirdSeries (.text Document.specificationVersion) = true := by decide +kernel
  have hlisted : isEmptyCollection (.list (d.tags.map Draft.tagValue)) = .ok false := by
    cases htag : d.tags with
    | nil => exact absurd htag htags
    | cons t ts => rfl
  have hschemas : (Value.object [("schemas", .map d.schemas)]).orElse (.map []) =
      .map [(.text "schemas", .map d.schemas)] := rfl
  have hfind : Members.find? [(.text "schemas", Value.map d.schemas)] "schemas" =
      some (.map d.schemas) := by
    simp [Members.find?_cons]
  intro r
  simp only [checkDocument, Value.member, hversion, d.find?_info, d.find?_paths, d.find?_tags,
    d.find?_components, Option.getD_some, hthird, Bool.not_true, warningIf, Bool.false_eq_true,
    if_false, bind, Except.bind, hinfo r, warns_checkPaths hpaths hoperations r, hlisted, hschemas,
    hfind]
  cases hd : d.schemas with
  | nil =>
    simp [isEmptyCollection, Value.length, Except.map, noSchemasWarning, pure, Except.pure,
      ValidationResult.addWarning]
  | cons m ms => simp [isEmptyCollection, Value.length, Except.map, pure, Except.pure]

end Checks

end RouteAtlas
