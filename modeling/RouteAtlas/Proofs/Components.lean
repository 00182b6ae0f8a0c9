import Mathlib.Data.List.Basic
import RouteAtlas.Proofs.Lifting
import RouteAtlas.Proofs.View

/-!
# The schemas that a document gets

Copying schemas changes a document in one place. `Document.IsLift` says all that happens there: the
schemas that are among the components keep their values and their places, and each recognized schema
of a response goes to the end under its name, unless there is one of that name already. So **the first
schema of a name stays**, whether it was there before or is the first in the order of the document
(`find?_foldl_offerNamed`). This holds of every document whose components and schemas are maps, as
far as they are there (`isLift_of_apply_liftSchemas`), also of those that were changed from outside.

What is met on the way is said without the walk: `Document.namedSchemas` goes through the members of
maps on all four levels, and what has another shape has no members. A walk that is not ended early
meets exactly these (`schemas_walkPaths`).
-/

namespace RouteAtlas

/-- The members of what a value has under a key; none if one of the two is no map. -/
def Value.membersUnder (v : Value) (name : String) : Members :=
  ((v.members?.bind (Members.find? · name)).bind Value.members?).getD []

theorem Value.members?_getD_find? (ms : Members) (name : String) :
    ((Members.find? ms name).getD .null).members?.getD [] = (Value.map ms).membersUnder name := by
  change _ = ((Members.find? ms name).bind Value.members?).getD []
  cases Members.find? ms name <;> rfl

namespace Document

/-! ### Schemas of a document -/

/-- The schemas of all media types of all responses of an operation, in order. -/
def responseSchemas (operation : Value) : List Value :=
  (operation.membersUnder "responses").flatMap fun response =>
    (response.2.membersUnder "content").map fun media => mediaSchema media.2

/-- The recognized schemas of all responses of a document with their names, in order. -/
def namedSchemas (d : Document) : List (String × Value) :=
  (d.operations.flatMap responseSchemas).filterMap fun schema =>
    (liftedName? schema).map fun name => (name, schema)

/-- One document is another to whose components schemas were copied. -/
structure IsLift (d d' : Document) : Prop where
  /-- Nothing but the schemas is set; components and schemas that were not there are there now. -/
  eq_withSchemas : d' = d.withSchemas d.components d'.schemas
  /-- Schemas that were there keep their values and their places. -/
  schemas_prefix : d.schemas <+: d'.schemas
  /-- The new ones have the names that are met, in the order in which they come first. -/
  keys_schemas : d'.schemas.keys = d.schemas.keys ++ (((d.namedSchemas.map Prod.fst).filter
    fun name => !Members.has d.schemas (.text name)).eraseDups).map .text
  /-- Under a new name stands the first schema of that name. -/
  find?_schemas : ∀ name, Members.has d.schemas (.text name) = false →
    Members.find? d'.schemas name = (d.namedSchemas.find? (·.1 == name)).map Prod.snd

end Document

/-! ### What a walk meets -/

theorem Walk.schemas_all {walk : Value → Walk} {vs : List Value}
    (h : (Walk.all walk vs).fault = none) :
    (Walk.all walk vs).schemas = vs.flatMap fun v => (walk v).schemas := by
  induction vs with
  | nil => rfl
  | cons v vs ih =>
    obtain ⟨hv, hvs⟩ := Walk.fault_andThen_eq_none_iff.mp h
    rw [Walk.all, Walk.andThen, hv, List.flatMap_cons, ih hvs]

theorem schemas_walkResponse {v : Value} (h : (walkResponse v).fault = none) :
    (walkResponse v).schemas =
      (v.membersUnder "content").map fun media => Document.mediaSchema media.2 := by
  cases v with
  | map response =>
    have hwalk : ((Members.find? response "content").getD .null).isWalkable = true :=
      (fault_walkResponse_eq_none_iff _).mp h
    rw [walkResponse, valuesOf_of_isWalkable hwalk, Value.members?_getD_find?] at h ⊢
    rw [Walk.schemas_all h, List.flatMap_map]
    exact List.map_eq_flatMap.symm
  | _ => rfl

theorem schemas_walkOperation {v : Value} (h : (walkOperation v).fault = none) :
    (walkOperation v).schemas = Document.responseSchemas v := by
  cases v with
  | map operation =>
    have hwalk : ((Members.find? operation "responses").getD .null).isWalkable = true :=
      (Bool.and_eq_true_iff.mp ((fault_walkOperation_eq_none_iff _).mp h)).1
    -- The responses are a map or count as empty, and either way the walk goes through all of them.
    rw [walkOperation, valuesOf_of_isWalkable hwalk, Value.members?_getD_find?] at h ⊢
    rw [Walk.schemas_all h, List.flatMap_map]
    refine List.flatMap_congr fun response hresponse => schemas_walkResponse ?_
    exact Walk.fault_all_eq_none_iff.mp h _ (List.mem_map_of_mem hresponse)
  | _ => rfl

theorem schemas_walkPath {v : Value} (h : (walkPath v).fault = none) :
    (walkPath v).schemas = ((v.members?.getD []).map (·.2)).flatMap Document.responseSchemas := by
  cases v with
  | map item =>
    rw [walkPath] at h ⊢
    rw [Walk.schemas_all h]
    exact List.flatMap_congr fun o ho => schemas_walkOperation (Walk.fault_all_eq_none_iff.mp h o ho)
  | _ => rfl

/-- **A walk through all paths meets the schemas of all responses**, if nothing ends it early. -/
theorem schemas_walkPaths {d : Document} {paths : Members}
    (hpaths : Members.find? d "paths" = some (.map paths))
    (hwalk : (Walk.all walkPath (paths.map (·.2))).fault = none) :
    (Walk.all walkPath (paths.map (·.2))).schemas =
      d.operations.flatMap Document.responseSchemas := by
  have hitems : d.pathItems = paths := by
    rw [Document.pathItems, hpaths]
    rfl
  rw [Walk.schemas_all hwalk, List.flatMap_map, Document.operations, hitems, List.flatMap_assoc]
  refine List.flatMap_congr fun p hp => schemas_walkPath ?_
  exact Walk.fault_all_eq_none_iff.mp hwalk _ (List.mem_map_of_mem hp)

/-! ### The first schema of a name -/

/-- Copies a schema with a name to others if the name is free. -/
def offerNamed (schemas : Members) (e : String × Value) : Members :=
  if Members.has schemas (.text e.1) then schemas else Members.put schemas e.1 e.2

theorem foldl_offerSchema (vs : List Value) (schemas : Members) :
    vs.foldl offerSchema schemas =
      (vs.filterMap fun v => (liftedName? v).map fun name => (name, v)).foldl offerNamed schemas := by
  rw [List.foldl_filterMap]
  refine congrArg (fun f => vs.foldl f schemas) (funext fun schemas => funext fun v => ?_)
  rw [offerSchema]
  cases liftedName? v <;> rfl

/-- What is copied goes to the end. -/
theorem offerNamed_eq (schemas : Members) (e : String × Value) :
    offerNamed schemas e =
      if Members.has schemas (.text e.1) then schemas else schemas ++ [(.text e.1, e.2)] := by
  rw [offerNamed]
  split_ifs with h
  · rfl
  · exact Members.put_of_not_mem (fun hmem => h (Members.has_iff.mpr hmem)) _

theorem prefix_foldl_offerNamed (schemas : Members) (es : List (String × Value)) :
    schemas <+: es.foldl offerNamed schemas := by
  refine prefix_foldl (fun schemas e => ?_) schemas es
  rw [offerNamed_eq]
  split_ifs
  · exact List.prefix_rfl
  · exact List.prefix_append ..

theorem keys_offerNamed (schemas : Members) (e : String × Value) :
    Members.keys (offerNamed schemas e) =
      if Members.has schemas (.text e.1) then Members.keys schemas
      else Members.keys schemas ++ [.text e.1] := by
  rw [offerNamed_eq]
  split_ifs
  · rfl
  · exact List.map_append

/-- What is copied goes behind what was there, in the order in which the names come first. -/
theorem keys_foldl_offerNamed (schemas : Members) (es : List (String × Value)) :
    Members.keys (es.foldl offerNamed schemas) = Members.keys schemas ++
      (((es.map Prod.fst).filter fun name => !Members.has schemas (.text name)).eraseDups).map .text :=
  @Members.keys_foldl _ _ offerNamed id Prod.fst keys_offerNamed schemas es

theorem find?_offerNamed (schemas : Members) (e : String × Value) (name : String) :
    Members.find? (offerNamed schemas e) name =
      (Members.find? schemas name).or (if e.1 = name then some e.2 else none) := by
  rw [offerNamed, Members.has_eq_isSome_find?]
  by_cases hname : e.1 = name
  · rw [if_pos hname, hname]
    cases hfind : Members.find? schemas name with
    | none => exact Members.find?_put_self ..
    | some v => exact hfind
  · rw [if_neg hname, Option.or_none]
    split_ifs
    · rfl
    · exact Members.find?_put_of_ne (Ne.symm hname) ..

/-- **The first schema of a name stays**, whether it was there before or is met first. -/
theorem find?_foldl_offerNamed (schemas : Members) (es : List (String × Value)) (name : String) :
    Members.find? (es.foldl offerNamed schemas) name =
      (Members.find? schemas name).or ((es.find? (·.1 == name)).map Prod.snd) := by
  induction es generalizing schemas with
  | nil => exact Option.or_none.symm
  | cons e es ih =>
    rw [List.foldl_cons, ih, find?_offerNamed, Option.or_assoc, List.find?_cons]
    by_cases hname : e.1 = name
    · rw [if_pos hname, beq_iff_eq.mpr hname]
      rfl
    · rw [if_neg hname, beq_eq_false_iff_ne.mpr hname]
      rfl

namespace Document

/-! ### Copying -/

/-- Copying that ends well opens the components and then walks through all paths. -/
theorem exists_of_run_liftSchemas {d d' : Document} (h : liftSchemas.run d = (.ok (), d')) :
    ∃ opened paths, openSchemas.run d = (.ok (), opened) ∧
      Members.find? opened "paths" = some (.map paths) ∧
      (forAll liftPath (paths.map (·.2))).run opened = (.ok (), d') := by
  obtain ⟨_, opened, hopen, hrest⟩ := exists_of_run_bind h
  obtain ⟨v, _, hrequire, hvalues⟩ := exists_of_run_bind hrest
  obtain ⟨hpaths, rfl⟩ := eq_of_run_require hrequire
  obtain ⟨paths, _, hmembers, hwalk⟩ := exists_of_run_bind hvalues
  obtain ⟨rfl, rfl⟩ := eq_of_run_membersFor hmembers
  exact ⟨_, paths, hopen, hpaths, hwalk⟩

theorem isLiftable_iff {d : Document} :
    d.isLiftable = true ↔ ∃ paths, Members.find? d "paths" = some (.map paths) ∧
      (Walk.all walkPath (paths.map (·.2))).fault = none := by
  simp only [Walk.fault_all_eq_none_iff, List.forall_mem_map, fault_walkPath_eq_none_iff,
    ← List.all_eq_true]
  rw [isLiftable]
  split
  · rename_i paths hpaths
    simp only [hpaths, Option.some.injEq, Value.map.injEq, exists_eq_left']
  · rename_i hno
    refine ⟨fun h => absurd h Bool.false_ne_true, ?_⟩
    rintro ⟨paths, hpaths, -⟩
    exact absurd hpaths (hno paths)

namespace HasPlainComponents

variable {d : Document}

theorem run_liftSchemas (h : d.HasPlainComponents) (hlift : d.isLiftable = true) :
    liftSchemas.run d =
      (.ok (), d.withSchemas d.components (d.namedSchemas.foldl offerNamed d.schemas)) := by
  obtain ⟨paths, hpaths, hwalk⟩ := isLiftable_iff.mp hlift
  rw [h.run_liftSchemas_walk hpaths, Walk.outcome, hwalk, schemas_walkPaths hpaths hwalk,
    foldl_offerSchema]
  rfl

/-- Copying ends well only where nothing ends the walk early. -/
theorem isLiftable_of_run (h : d.HasPlainComponents) {d' : Document}
    (hrun : liftSchemas.run d = (.ok (), d')) : d.isLiftable = true := by
  obtain ⟨opened, paths, hopen, hpaths, -⟩ := exists_of_run_liftSchemas hrun
  rw [h.run_openSchemas] at hopen
  cases hopen
  rw [withSchemas, Members.find?_put_of_ne (by decide)] at hpaths
  refine isLiftable_iff.mpr ⟨paths, hpaths, ?_⟩
  -- A fault of the walk would be how copying ends.
  rw [h.run_liftSchemas_walk hpaths, Walk.outcome] at hrun
  cases hfault : (Walk.all walkPath (paths.map (·.2))).fault with
  | none => rfl
  | some f =>
    rw [hfault] at hrun
    cases hrun

end HasPlainComponents

theorem isLift_withSchemas (d : Document) :
    d.IsLift (d.withSchemas d.components (d.namedSchemas.foldl offerNamed d.schemas)) where
  eq_withSchemas := by rw [schemas_withSchemas]
  schemas_prefix := by
    rw [schemas_withSchemas]
    exact prefix_foldl_offerNamed ..
  keys_schemas := by
    rw [schemas_withSchemas]
    exact keys_foldl_offerNamed ..
  find?_schemas := by
    intro name hnew
    rw [Members.has_eq_isSome_find?, Option.isSome_eq_false_iff, Option.isNone_iff_eq_none] at hnew
    rw [schemas_withSchemas, find?_foldl_offerNamed, hnew, Option.none_or]

/-- **Copying schemas is exact.** Where components and schemas are maps, as far as they are there, it
ends well exactly if the paths are a map and all responses and their contents are maps or count as
empty. Then the document differs from what it was by the first schemas of those names that are new,
and by nothing else. -/
theorem isLift_of_apply_liftSchemas {d : Document} (h : d.HasPlainComponents) :
    ((∃ d', d.apply liftSchemas = (.ok (), d')) ↔ d.isLiftable = true) ∧
      ∀ d', d.apply liftSchemas = (.ok (), d') → d.IsLift d' := by
  refine ⟨⟨?_, fun hlift => ⟨_, h.run_liftSchemas hlift⟩⟩, fun d' hrun => ?_⟩
  · rintro ⟨d', hrun⟩
    exact h.isLiftable_of_run hrun
  · have hcopied : d.apply liftSchemas = _ := h.run_liftSchemas (h.isLiftable_of_run hrun)
    obtain rfl : _ = d' := congrArg Prod.snd (hcopied.symm.trans hrun)
    exact d.isLift_withSchemas

/-- An object schema with a title and properties. -/
def titledSchema (title : String) (properties : List String) : Value :=
  .object [("type", .text "object"), ("title", .text title),
    ("properties", .object (properties.map fun name => (name, .null)))]

/-- A response with one schema. -/
def responseWith (schema : Value) : Value :=
  .object [("content", .object [("application/json", .object [("schema", schema)])])]

/-- A document that was changed from outside: its components have more than schemas, one of the names
is taken, another one is met twice, and there are parts of a wrong shape on all levels. -/
def editedDocument : Document := [
  (.text "components", .object [
    ("schemas", .object [("Product", .text "taken")]),
    ("headers", .list [])]),
  (.text "paths", .object [
    ("/a", .object [
      ("summary", .text "no operation"),
      ("get", .object [("responses", .object [
        ("default", .text "no response"),
        ("200", .object [("content", .object [("text/plain", .text "no media type")])]),
        ("404", responseWith (titledSchema "first" ["message"]))])]),
      ("post", .object [("responses", .object [
        ("200", responseWith (titledSchema "product" ["id", "name", "price"])),
        ("201", responseWith (titledSchema "user" ["id", "message", "name", "email"])),
        ("500", responseWith (titledSchema "second" ["message"]))])])]),
    ("/b", .null)])]

/-- The names of the schemas of a document with their titles, in order. -/
def schemaTitles (d : Document) : List (String × Option String) :=
  d.schemas.map fun s =>
    (s.1.display, (s.2.members?.bind (Members.find? · "title")).bind Value.text?)

theorem isLift_of_apply_liftSchemas_editedDocument :
    editedDocument.HasPlainComponents ∧ editedDocument.isLiftable = true ∧
    ∃ d', editedDocument.apply liftSchemas = (.ok (), d') ∧ editedDocument.IsLift d' ∧
      d'.schemaTitles = [("Product", none), ("ErrorResponse", some "first"), ("User", some "user")] := by
  have hplain : editedDocument.HasPlainComponents := by
    refine ⟨fun v hv => ?_, fun v hv => ?_⟩
    · exact (Option.some.inj hv).symm
    · exact (Option.some.inj hv).symm
  have hlift : editedDocument.isLiftable = true := by decide +kernel
  obtain ⟨hends, hexact⟩ := isLift_of_apply_liftSchemas hplain
  obtain ⟨d', hrun⟩ := hends.mpr hlift
  have htitles : (editedDocument.apply liftSchemas).2.schemaTitles =
      [("Product", none), ("ErrorResponse", some "first"), ("User", some "user")] := by
    decide +kernel
  rw [hrun] at htitles
  exact ⟨hplain, hlift, d', hrun, hexact d' hrun, htitles⟩

end Document

end RouteAtlas
