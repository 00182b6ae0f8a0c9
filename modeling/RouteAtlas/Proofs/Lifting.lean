import RouteAtlas.Generation.Quick
import RouteAtlas.Proofs.Draft

/-!
# Copying schemas to the components

Finishing a document walks through paths, operations, responses and media types. `Walk` is what such
a walk comes to, said without the document it changes: the schemas it meets, in order, and the fault
that ends it early, if any. `Lifts e w` says that the step `e` copies what `w` meets, on **every**
document whose schemas are a map; the walks of a response, an operation and a path item are
assembled from it constructor by constructor, and with them that of a document whose components and
schemas are maps, as far as they are there (`HasPlainComponents.run_liftSchemas_walk`). Written
drafts are such documents.

A walk ends early at two places only: responses that count as true and are no map, and the content
of a response that counts as true and is no map. `isLiftableOperation` is that condition on an
operation, and `fault_walkOperation_eq_none_iff` says that it is exact. Everything else of the wrong
shape is passed over. What is copied are parts of the operations, so properties that parts inherit
(`IsInherited`) come to the schemas of a finished draft (`Draft.inherited_finish`).
-/

namespace RouteAtlas

/-! ### Shapes that can be walked -/

/-- Whether the members of a value can be gone through: it is a map or counts as empty. -/
def Value.isWalkable (v : Value) : Bool := !v.truthy || v.members?.isSome

/-- Whether the schemas of a response can be lifted. What is no map is passed over. -/
def isLiftableResponse : Value → Bool
  | .map response => ((Members.find? response "content").getD .null).isWalkable
  | _ => true

/-- Whether the schemas of an operation can be lifted. What is no map is passed over. -/
def isLiftableOperation : Value → Bool
  | .map operation =>
    let responses := (Members.find? operation "responses").getD .null
    responses.isWalkable && (responses.members?.getD []).all fun r => isLiftableResponse r.2
  | _ => true

/-- Whether the schemas of a path item can be lifted. What is no map is passed over. -/
def isLiftablePath : Value → Bool
  | .map item => item.all fun o => isLiftableOperation o.2
  | _ => true

/-- Whether the schemas of all path items of a document can be lifted. -/
def Document.isLiftable (d : Document) : Bool :=
  match Members.find? d "paths" with
  | some (.map paths) => paths.all fun p => isLiftablePath p.2
  | _ => false

/-! ### Walks -/

/-- What a walk comes to: the schemas it meets, and the fault that ends it early. -/
structure Walk where
  /-- The schemas, in order. -/
  schemas : List Value := []
  /-- The fault. -/
  fault : Option Fault := none

namespace Walk

/-- One walk after another; a fault ends both. -/
def andThen (a b : Walk) : Walk :=
  match a.fault with
  | none => ⟨a.schemas ++ b.schemas, b.fault⟩
  | some _ => a

/-- The walks of several values, one after another. -/
def all (walk : Value → Walk) : List Value → Walk
  | [] => {}
  | v :: vs => (walk v).andThen (all walk vs)

/-- How a step that makes a walk ends. -/
def outcome (w : Walk) : Except Fault Unit :=
  match w.fault with
  | none => .ok ()
  | some f => .error f

theorem fault_andThen_eq_none_iff {a b : Walk} :
    (a.andThen b).fault = none ↔ a.fault = none ∧ b.fault = none := by
  rw [andThen]
  cases h : a.fault with
  | none => simp
  | some f => simp [h]

theorem fault_all_eq_none_iff {walk : Value → Walk} {vs : List Value} :
    (all walk vs).fault = none ↔ ∀ v ∈ vs, (walk v).fault = none := by
  induction vs with
  | nil => simp [all]
  | cons v vs ih => rw [all, fault_andThen_eq_none_iff, ih, List.forall_mem_cons]

end Walk

/-- The walk over the media types of a response. -/
def walkResponse : Value → Walk
  | .map response =>
    match Document.valuesOf ((Members.find? response "content").getD .null) with
    | .ok media => Walk.all (fun m => { schemas := [Document.mediaSchema m] }) media
    | .error f => { fault := some f }
  | _ => {}

/-- The walk over the responses of an operation. -/
def walkOperation : Value → Walk
  | .map operation =>
    match Document.valuesOf ((Members.find? operation "responses").getD .null) with
    | .ok responses => Walk.all walkResponse responses
    | .error f => { fault := some f }
  | _ => {}

/-- The walk over the operations of a path item. -/
def walkPath : Value → Walk
  | .map item => Walk.all walkOperation (item.map (·.2))
  | _ => {}

/-! ### Where walks end early -/

theorem Value.eq_map_of_members? {v : Value} {ms : Members} (h : v.members? = some ms) :
    v = .map ms := by
  cases v with
  | map ms' => rw [Option.some.inj h]
  | _ => cases h

/-- Something that is a map or not there is, with the empty map as its default, the map of its
members. -/
theorem Value.getD_eq_map {v? : Option Value}
    (h : ∀ v, v? = some v → v = .map ((v?.bind Value.members?).getD [])) :
    v?.getD (.map []) = .map ((v?.bind Value.members?).getD []) := by
  cases v? with
  | none => rfl
  | some v => exact h v rfl

/-- The values of what can be walked. -/
theorem valuesOf_of_isWalkable {v : Value} (h : v.isWalkable = true) :
    Document.valuesOf v = .ok ((v.members?.getD []).map (·.2)) := by
  cases hv : v.members? with
  | some ms =>
    rw [Value.eq_map_of_members? hv]
    cases ms <;> rfl
  | none =>
    have hfalse : v.truthy = false := by simpa [Value.isWalkable, hv] using h
    rw [Document.valuesOf, hfalse]
    rfl

/-- What cannot be walked has no values. -/
theorem valuesOf_of_not_isWalkable {v : Value} (h : v.isWalkable = false) :
    Document.valuesOf v = .error (.noAttribute v.kind "values") := by
  rw [Value.isWalkable, Bool.or_eq_false_iff, Bool.not_eq_false'] at h
  rw [Document.valuesOf, if_pos h.1]
  cases v with
  | map ms => simp [Value.members?] at h
  | _ => rfl

theorem fault_walkResponse_eq_none_iff (v : Value) :
    (walkResponse v).fault = none ↔ isLiftableResponse v = true := by
  cases v with
  | map response =>
    rw [walkResponse, isLiftableResponse]
    cases h : ((Members.find? response "content").getD .null).isWalkable with
    | true => simp [valuesOf_of_isWalkable h, Walk.fault_all_eq_none_iff]
    | false => simp [valuesOf_of_not_isWalkable h]
  | _ => simp [walkResponse, isLiftableResponse]

/-- **The walk over an operation ends early exactly if its shape is wrong** at one of the two places
that are not passed over. -/
theorem fault_walkOperation_eq_none_iff (v : Value) :
    (walkOperation v).fault = none ↔ isLiftableOperation v = true := by
  cases v with
  | map operation =>
    rw [walkOperation, isLiftableOperation]
    cases h : ((Members.find? operation "responses").getD .null).isWalkable with
    | true =>
      simp only [valuesOf_of_isWalkable h, Walk.fault_all_eq_none_iff, List.forall_mem_map,
        fault_walkResponse_eq_none_iff, Bool.true_and, List.all_eq_true]
    | false => simp [valuesOf_of_not_isWalkable h]
  | _ => simp [walkOperation, isLiftableOperation]

theorem fault_walkPath_eq_none_iff (v : Value) :
    (walkPath v).fault = none ↔ isLiftablePath v = true := by
  cases v with
  | map item =>
    simp only [walkPath, isLiftablePath, Walk.fault_all_eq_none_iff, List.forall_mem_map,
      fault_walkOperation_eq_none_iff, List.all_eq_true]
  | _ => simp [walkPath, isLiftablePath]

/-! ### Steps that make walks -/

/-- The name under which a schema is copied, if it is recognized. -/
def liftedName? : Value → Option String
  | .map ms =>
    if (Members.find? ms "type").bind Value.text? == some "object" then schemaName? ms else none
  | _ => none

/-- Copies a schema to others if it is recognized and its name is free. -/
def offerSchema (schemas : Members) (schema : Value) : Members :=
  match liftedName? schema with
  | some name =>
    if Members.has schemas (.text name) then schemas else Members.put schemas name schema
  | none => schemas

namespace Document

/-- A document with the given schemas among the given components. -/
def withSchemas (d : Document) (components schemas : Members) : Document :=
  Members.put d "components" (.map (Members.put components "schemas" (.map schemas)))

/-- A step that copies what a walk meets, wherever the schemas are a map. -/
def Lifts (e : Edit Unit) (w : Walk) : Prop :=
  ∀ (d : Document) (components schemas : Members),
    e.run (d.withSchemas components schemas) =
      (w.outcome, d.withSchemas components (w.schemas.foldl offerSchema schemas))

theorem Lifts.nothing : Lifts (pure ()) {} := fun _ _ _ => rfl

theorem Lifts.andThen {e e' : Edit Unit} {w w' : Walk} (h : Lifts e w) (h' : Lifts e' w') :
    Lifts (e >>= fun _ => e') (w.andThen w') := by
  intro d components schemas
  have hstep := h d components schemas
  rw [Walk.outcome] at hstep
  rw [Walk.andThen]
  cases hf : w.fault with
  | none =>
    rw [hf] at hstep
    rw [run_bind_ok hstep, h' d components _, List.foldl_append]
    rfl
  | some f =>
    rw [hf] at hstep
    rw [run_bind_error hstep]
    simp only [Walk.outcome, hf]

theorem Lifts.forAll {step : Value → Edit Unit} {walk : Value → Walk}
    (h : ∀ v, Lifts (step v) (walk v)) (vs : List Value) :
    Lifts (Document.forAll step vs) (Walk.all walk vs) := by
  induction vs with
  | nil => exact Lifts.nothing
  | cons v vs ih => exact (h v).andThen ih

/-- A walk over values that have to be read first. -/
theorem Lifts.read {r : Except Fault (List Value)} {e : List Value → Edit Unit}
    {walk : List Value → Walk} (h : ∀ vs, Lifts (e vs) (walk vs)) :
    Lifts (Document.read r >>= e) (match r with
      | .ok vs => walk vs
      | .error f => { fault := some f }) := by
  intro d components schemas
  cases r with
  | ok vs => rw [run_bind_ok (run_read_ok rfl _), h vs]
  | error f =>
    rw [run_bind_error (run_read_error rfl _)]
    rfl

/-- The components of a document. -/
def components (d : Document) : Members :=
  ((Members.find? d "components").bind Value.members?).getD []

theorem components_put (d : Document) (components : Members) :
    Document.components (Members.put d "components" (.map components)) = components := by
  rw [Document.components, Members.find?_put_self]
  rfl

theorem find?_schemas_withSchemas (d : Document) (components schemas : Members) :
    Members.find? (d.withSchemas components schemas).components "schemas" = some (.map schemas) := by
  rw [withSchemas, components_put, Members.find?_put_self]

/-- Where there is something under the name of the schemas, the components are a map. -/
theorem find?_components_of_find?_schemas {d : Document} {v : Value}
    (h : Members.find? d.components "schemas" = some v) :
    Members.find? d "components" = some (.map d.components) := by
  rw [components] at h ⊢
  cases hfind : (Members.find? d "components").bind Value.members? with
  | none =>
    rw [hfind] at h
    cases h
  | some components =>
    obtain ⟨w, hw, hmembers⟩ := Option.bind_eq_some_iff.mp hfind
    rw [hw, Value.eq_map_of_members? hmembers]
    rfl

/-- A schema that is not recognized is passed over. -/
theorem run_liftSchema_none {schema : Value} (h : liftedName? schema = none) (d : Document) :
    (liftSchema schema).run d = (.ok (), d) := by
  cases schema with
  | map ms =>
    rw [liftedName?] at h
    rw [liftSchema]
    split_ifs at h ⊢
    · rw [h]
      rfl
    · rfl
  | _ => rfl

/-- A schema that is recognized is set under its name, unless the name is found. -/
theorem run_liftSchema_some {schema : Value} {name : String} (h : liftedName? schema = some name)
    {d : Document} {v : Value} (hv : Members.find? d.components "schemas" = some v) :
    (liftSchema schema).run d = (read (v.holds (.text name)) >>= fun found =>
      if found then pure () else read (v.setItem name schema) >>= fun w =>
        assign "components" (.map (Members.put d.components "schemas" w)) : Edit Unit).run d := by
  cases schema with
  | map ms =>
    rw [liftedName?] at h
    rw [liftSchema]
    split_ifs at h ⊢
    rw [h]
    dsimp only
    rw [run_bind_ok (run_require (find?_components_of_find?_schemas hv))]
    simp only [hv, Option.getD_some]
  | _ => cases h

/-- Copying one schema. -/
theorem lifts_liftSchema (schema : Value) : Lifts (liftSchema schema) { schemas := [schema] } := by
  intro d components schemas
  change _ = (Except.ok (), d.withSchemas components (offerSchema schemas schema))
  rw [offerSchema]
  cases hname : liftedName? schema with
  | none => exact run_liftSchema_none hname _
  | some name =>
    have hplace := d.find?_schemas_withSchemas components schemas
    have hholds : (Value.map schemas).holds (.text name) =
        .ok (Members.has schemas (.text name)) := rfl
    have hset : (Value.map schemas).setItem name schema =
        .ok (.map (Members.put schemas name schema)) := rfl
    rw [run_liftSchema_some hname hplace, run_bind_ok (run_read_ok hholds _)]
    dsimp only
    split_ifs with hhas
    · rfl
    · rw [run_bind_ok (run_read_ok hset _), run_assign, withSchemas, components_put,
        Members.put_put_self, Members.put_put_self, ← withSchemas]

theorem lifts_liftResponse (v : Value) : Lifts (liftResponse v) (walkResponse v) := by
  cases v with
  | map response => exact Lifts.read (Lifts.forAll fun m => lifts_liftSchema (mediaSchema m))
  | _ => exact Lifts.nothing

theorem lifts_liftOperation (v : Value) : Lifts (liftOperation v) (walkOperation v) := by
  cases v with
  | map operation => exact Lifts.read (Lifts.forAll lifts_liftResponse)
  | _ => exact Lifts.nothing

theorem lifts_liftPath (v : Value) : Lifts (liftPath v) (walkPath v) := by
  cases v with
  | map item => exact Lifts.forAll lifts_liftOperation _
  | _ => exact Lifts.nothing

/-! ### Documents with plain components -/

/-- The schemas among the components of a document. -/
def schemas (d : Document) : Members :=
  ((Members.find? d.components "schemas").bind Value.members?).getD []

theorem schemas_withSchemas (d : Document) (components schemas : Members) :
    (d.withSchemas components schemas).schemas = schemas := by
  rw [Document.schemas, find?_schemas_withSchemas]
  rfl

/-- A document whose components and the schemas among them are maps, as far as they are there. -/
structure HasPlainComponents (d : Document) : Prop where
  /-- The components are a map. -/
  components_eq : ∀ v, Members.find? d "components" = some v → v = .map d.components
  /-- The schemas are a map. -/
  schemas_eq : ∀ v, Members.find? d.components "schemas" = some v → v = .map d.schemas

/-- Opening the components where they are a map, or not there, sets the schemas to what they are, or
to none. -/
theorem run_openSchemas {d : Document} {components : Members}
    (h : (Members.find? d "components").getD (.map []) = .map components) :
    openSchemas.run d = (.ok (), Members.put d "components" (.map (Members.put components "schemas"
      ((Members.find? components "schemas").getD (.map []))))) := by
  rw [openSchemas, run_bind_ok (run_get d)]
  cases hc : Members.find? d "components" with
  | none =>
    rw [hc] at h
    obtain rfl : [] = components := Value.map.inj h
    dsimp only
    rw [run_bind_ok (run_assign ..)]
    -- The components are set twice, first to no components at all.
    change (Except.ok (), Members.put (Members.put d "components" (.map [])) "components" _) = _
    rw [Members.put_put_self]
    rfl
  | some v =>
    rw [hc] at h
    obtain rfl : v = .map components := h
    change (ite (Members.has components (.text "schemas") = true) (pure ()) (assign "components" _) :
      Edit Unit).run d = _
    rw [Members.has_eq_isSome_find?]
    cases hs : Members.find? components "schemas" with
    | none => rfl
    | some s =>
      rw [Option.getD_some, Members.put_of_find? hs, Members.put_of_find? hc]
      rfl

theorem HasPlainComponents.run_openSchemas {d : Document} (h : d.HasPlainComponents) :
    openSchemas.run d = (.ok (), d.withSchemas d.components d.schemas) := by
  have hcomponents : (Members.find? d "components").getD (.map []) = .map d.components :=
    Value.getD_eq_map h.components_eq
  have hschemas : (Members.find? d.components "schemas").getD (.map []) = .map d.schemas :=
    Value.getD_eq_map h.schemas_eq
  rw [Document.run_openSchemas hcomponents, hschemas, withSchemas]

/-- **Copying makes the walk through all paths**, wherever the components allow it. -/
theorem HasPlainComponents.run_liftSchemas_walk {d : Document} (h : d.HasPlainComponents)
    {paths : Members} (hpaths : Members.find? d "paths" = some (.map paths)) :
    liftSchemas.run d = ((Walk.all walkPath (paths.map (·.2))).outcome,
      d.withSchemas d.components
        ((Walk.all walkPath (paths.map (·.2))).schemas.foldl offerSchema d.schemas)) := by
  have hopened : Members.find? (d.withSchemas d.components d.schemas) "paths" = some (.map paths) := by
    rw [withSchemas, Members.find?_put_of_ne (by decide), hpaths]
  rw [liftSchemas, run_bind_ok h.run_openSchemas, run_bind_ok (run_require hopened),
    run_bind_ok (run_membersFor_map ..)]
  exact Lifts.forAll lifts_liftPath _ d d.components d.schemas

end Document

/-! ### What schemas inherit -/

/-- A property that schemas inherit on their way to the components: the absent value has it, values of
members have it if their map has it, and a map keeps it when a member is set to a value that has
it. -/
structure IsInherited (P : Value → Prop) : Prop where
  null : P .null
  member : ∀ {ms : Members}, P (.map ms) → ∀ m ∈ ms, P m.2
  put : ∀ {ms : Members} {v : Value}, P (.map ms) → P v → ∀ name, P (.map (Members.put ms name v))

namespace IsInherited

variable {P : Value → Prop}

/-- What is found in a map inherits the property; what is not found counts as absent. -/
theorem find? (hP : IsInherited P) {ms : Members} (h : P (.map ms)) (name : String) :
    P ((Members.find? ms name).getD .null) := by
  cases hfind : Members.find? ms name with
  | none => exact hP.null
  | some v =>
    obtain ⟨m, hm, rfl⟩ := Option.map_eq_some_iff.mp hfind
    exact hP.member h m (List.mem_of_find?_eq_some hm)

theorem valuesOf (hP : IsInherited P) {v : Value} (h : P v) {vs : List Value}
    (hvs : Document.valuesOf v = .ok vs) : ∀ x ∈ vs, P x := by
  rw [Document.valuesOf] at hvs
  split_ifs at hvs
  · cases v with
    | map ms =>
      obtain rfl := Except.ok.inj hvs
      exact List.forall_mem_map.mpr (hP.member h)
    | _ => cases hvs
  · rw [← Except.ok.inj hvs]
    exact fun x hx => absurd hx List.not_mem_nil

theorem walkAll {walk : Value → Walk} {vs : List Value}
    (h : ∀ v ∈ vs, ∀ s ∈ (walk v).schemas, P s) : ∀ s ∈ (Walk.all walk vs).schemas, P s := by
  induction vs with
  | nil => exact fun s hs => absurd hs List.not_mem_nil
  | cons v vs ih =>
    obtain ⟨hv, hvs⟩ := List.forall_mem_cons.mp h
    rw [Walk.all, Walk.andThen]
    cases (walk v).fault with
    | none => exact List.forall_mem_append.mpr ⟨hv, ih hvs⟩
    | some f => exact hv

theorem mediaSchema (hP : IsInherited P) {m : Value} (h : P m) : P (Document.mediaSchema m) := by
  cases m with
  | map ms => exact hP.find? h "schema"
  | _ => exact hP.null

theorem walkResponse (hP : IsInherited P) {v : Value} (h : P v) :
    ∀ s ∈ (walkResponse v).schemas, P s := by
  cases v with
  | map response =>
    rw [RouteAtlas.walkResponse]
    split
    · rename_i media hmedia
      refine walkAll fun m hm => List.forall_mem_singleton.mpr ?_
      exact hP.mediaSchema (hP.valuesOf (hP.find? h "content") hmedia m hm)
    · exact fun s hs => absurd hs List.not_mem_nil
  | _ => exact fun s hs => absurd hs List.not_mem_nil

theorem walkOperation (hP : IsInherited P) {v : Value} (h : P v) :
    ∀ s ∈ (walkOperation v).schemas, P s := by
  cases v with
  | map operation =>
    rw [RouteAtlas.walkOperation]
    split
    · rename_i responses hresponses
      exact walkAll fun r hr =>
        hP.walkResponse (hP.valuesOf (hP.find? h "responses") hresponses r hr)
    · exact fun s hs => absurd hs List.not_mem_nil
  | _ => exact fun s hs => absurd hs List.not_mem_nil

/-- Copying schemas that have the property. -/
theorem foldl_offerSchema (hP : IsInherited P) {schemas : Members} (h : P (.map schemas))
    {new : List Value} (hnew : ∀ s ∈ new, P s) : P (.map (new.foldl offerSchema schemas)) := by
  induction new generalizing schemas with
  | nil => exact h
  | cons s new ih =>
    obtain ⟨hs, hnew⟩ := List.forall_mem_cons.mp hnew
    refine ih ?_ hnew
    -- A schema without a name, or whose name is taken, is passed over.
    rw [offerSchema]
    split
    · split_ifs
      · exact h
      · exact hP.put h hs _
    · exact h

end IsInherited

/-! ### Finishing drafts -/

namespace Draft

/-- The walk over the path items of a draft. -/
def walk (d : Draft) : Walk := Walk.all walkPath (d.paths.map fun p => itemValue p.2)

/-- A draft with schemas lifted and at least one tag. -/
def finish (d : Draft) : Draft :=
  { d with
    schemas := d.walk.schemas.foldl offerSchema d.schemas
    tags := if d.tags = [] then [(Operation.defaultTag, "API endpoints")] else d.tags }

/-- **The schemas of a finished draft inherit** what all its operations have. -/
theorem inherited_finish {P : Value → Prop} (hP : IsInherited P) {d : Draft}
    (hschemas : P (.map d.schemas))
    (hoperations : ForallOperations (fun _ _ op => P (.map op)) d.paths) :
    P (.map d.finish.schemas) := by
  refine hP.foldl_offerSchema hschemas ?_
  refine IsInherited.walkAll (List.forall_mem_map.mpr fun p hp => ?_)
  rw [itemValue, walkPath]
  refine IsInherited.walkAll (List.forall_mem_map.mpr (List.forall_mem_map.mpr fun o ho => ?_))
  exact hP.walkOperation (hoperations p hp o ho)

theorem components_document (d : Draft) :
    d.document.components = [(.text "schemas", .map d.schemas)] := by
  rw [Document.components, d.find?_components]
  rfl

theorem schemas_document (d : Draft) : d.document.schemas = d.schemas := by
  rw [Document.schemas, components_document]
  rfl

theorem withSchemas_document (d : Draft) (schemas : Members) :
    d.document.withSchemas d.document.components schemas =
      { d with schemas := schemas }.document := by
  rw [components_document]
  simp [Document.withSchemas, document, Members.put_cons, Value.object]

theorem hasPlainComponents_document (d : Draft) : d.document.HasPlainComponents := by
  refine ⟨fun v hv => ?_, fun v hv => ?_⟩
  · rw [d.find?_components] at hv
    rw [components_document]
    exact (Option.some.inj hv).symm
  · rw [components_document] at hv
    rw [schemas_document]
    exact (Option.some.inj hv).symm

/-- A written draft can be lifted if all its operations can. -/
theorem isLiftable_document_iff (d : Draft) :
    d.document.isLiftable = true ↔
      ∀ p ∈ d.paths, ∀ o ∈ p.2, isLiftableOperation (.map o.2) = true := by
  rw [Document.isLiftable, d.find?_paths]
  simp only [Members.ofTable, List.all_map, List.all_eq_true, Function.comp_apply, itemValue,
    isLiftablePath]

theorem fault_walk_eq_none_iff (d : Draft) :
    d.walk.fault = none ↔ d.document.isLiftable = true := by
  rw [walk, Walk.fault_all_eq_none_iff, Document.isLiftable, d.find?_paths]
  simp only [List.forall_mem_map, fault_walkPath_eq_none_iff, Members.ofTable, List.all_map,
    List.all_eq_true, Function.comp_apply]

/-- Lifting the schemas of a written draft. -/
theorem run_liftSchemas (d : Draft) :
    Document.liftSchemas.run d.document =
      (d.walk.outcome,
        { d with schemas := d.walk.schemas.foldl offerSchema d.schemas }.document) := by
  have hvalues : (Members.ofTable id itemValue d.paths).map (·.2) =
      d.paths.map fun p => itemValue p.2 := by
    rw [Members.ofTable, List.map_map]
    rfl
  rw [d.hasPlainComponents_document.run_liftSchemas_walk d.find?_paths, hvalues, ← walk,
    withSchemas_document, schemas_document]

/-- Finishing a written draft whose schemas can be lifted. -/
theorem run_finish {d : Draft} (h : d.document.isLiftable = true) :
    Document.finish.run d.document = (.ok (), d.finish.document) := by
  have hlift := d.run_liftSchemas
  rw [Walk.outcome, (d.fault_walk_eq_none_iff).mpr h] at hlift
  rw [Document.finish, run_bind_ok hlift, run_bind_ok (Document.run_get _), find?_tags, finish]
  cases htags : d.tags with
  | nil =>
    have hput := put_tags { d with schemas := d.walk.schemas.foldl offerSchema d.schemas }
      [(Operation.defaultTag, "API endpoints")]
    rw [if_pos rfl, ← hput]
    simp only [htags]
    rfl
  | cons t ts =>
    rw [if_neg (List.cons_ne_nil t ts)]
    rfl

/-- Finishing a written draft with a schema that cannot be lifted. -/
theorem run_finish_error {d : Draft} (h : d.document.isLiftable = false) :
    ∃ f d', Document.finish.run d.document = (.error f, d') := by
  have hlift := d.run_liftSchemas
  rw [Walk.outcome] at hlift
  cases hf : d.walk.fault with
  | none => rw [d.fault_walk_eq_none_iff.mp hf] at h; cases h
  | some f =>
    rw [hf] at hlift
    exact ⟨f, _, run_bind_error hlift _⟩

/-- A finished draft with its server. -/
def conclude (d : Draft) (server : Value) : Draft :=
  { d.finish with servers := Document.serverList server (.text Document.developmentServer) }

/-- **Concluding a written draft** succeeds exactly if all its operations can be lifted. -/
theorem run_conclude {d : Draft} (h : d.document.isLiftable = true) (server : Value) :
    (Document.conclude server).run d.document = (.ok (), (d.conclude server).document) := by
  rw [Document.conclude, run_bind_ok (run_finish h), conclude, ← put_servers]
  rfl

theorem run_conclude_error {d : Draft} (h : d.document.isLiftable = false) (server : Value) :
    ∃ f d', (Document.conclude server).run d.document = (.error f, d') := by
  obtain ⟨f, d', hf⟩ := run_finish_error h
  exact ⟨f, d', run_bind_error hf _⟩

end Draft

end RouteAtlas
