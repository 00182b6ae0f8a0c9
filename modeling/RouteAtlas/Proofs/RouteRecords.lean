import Mathlib.Data.List.Nodup
import RouteAtlas.Proofs.PathParameters

/-!
# What holds of every extracted record

`Route.IsRecordOf` collects what later steps may take for granted about a record that was found in a
source text: its method, the order of its parameters, that no parameter and no status is there
twice, and where it was found. `isRecordOf_of_mem_discoverRoutes` proves it for **every** source
text, whatever the handler looks like.

All three kinds of parameters are collected in the same way, the first sighting of a name deciding,
so each is a block of its own location without repetition (`IsBlock.of_firstByKey`). Different blocks
differ in location, so nothing is repeated across them either.

The names of parameters in the path and in the query are never empty
(`name_ne_empty_of_routeOf?`). This is not true of parameters in general, so it needs a look at how
names are read.
-/

namespace RouteAtlas

/-! ### Blocks of parameters -/

/-- Parameters of one location, no two of one name. -/
structure IsBlock (location : String) (ps : List Parameter) : Prop where
  /-- All are in the location. -/
  location_eq : ∀ p ∈ ps, p.location = location
  /-- No name is there twice. -/
  nodup_names : (ps.map Parameter.name).Nodup

/-- What two parameters of a record differ in. -/
def Parameter.key (p : Parameter) : String × String := (p.name, p.location)

namespace IsBlock

theorem nil (location : String) : IsBlock location [] :=
  ⟨fun _ hp => absurd hp List.not_mem_nil, List.nodup_nil⟩

/-- First sightings make a block. -/
theorem of_firstByKey {α : Type} {key : α → String} {location : String} {parameter : α → Parameter}
    (hname : ∀ a, (parameter a).name = key a) (hlocation : ∀ a, (parameter a).location = location)
    (as : List α) : IsBlock location ((firstByKey key as).map parameter) := by
  refine ⟨List.forall_mem_map.mpr fun a _ => hlocation a, ?_⟩
  have hkeys : Parameter.name ∘ parameter = key := funext hname
  rw [List.map_map, hkeys]
  exact nodup_firstByKey key as

theorem nodup_keys {location : String} {ps : List Parameter} (h : IsBlock location ps) :
    (ps.map Parameter.key).Nodup := by
  refine List.Nodup.of_map Prod.fst ?_
  rw [List.map_map]
  exact h.nodup_names

/-- A block in front of parameters of other locations repeats none of them. -/
theorem nodup_keys_append {location : String} {ps qs : List Parameter} (h : IsBlock location ps)
    (hqs : ∀ q ∈ qs, q.location ≠ location) (hnodup : (qs.map Parameter.key).Nodup) :
    ((ps ++ qs).map Parameter.key).Nodup := by
  rw [List.map_append]
  refine List.Nodup.append h.nodup_keys hnodup ?_
  intro k hk hk'
  obtain ⟨p, hp, rfl⟩ := List.mem_map.mp hk
  obtain ⟨q, hq, hkey⟩ := List.mem_map.mp hk'
  have hlocation : q.location = p.location := congrArg Prod.snd hkey
  exact hqs q hq (hlocation.trans (h.location_eq p hp))

end IsBlock

theorem isBlock_pathParameters (path : String) : IsBlock "path" (pathParameters path) := by
  rw [pathParameters]
  exact IsBlock.of_firstByKey (fun _ => by rfl) (fun _ => by rfl) _

theorem isBlock_queryParameters (handler : Script.Tree) :
    IsBlock "query" (queryParameters handler) := by
  rw [queryParameters]
  exact IsBlock.of_firstByKey (fun _ => by rfl) (fun _ => by rfl) _

theorem isBlock_bodyParameters (handler : Script.Tree) :
    IsBlock "body" (bodyParameters handler) := by
  rw [bodyParameters]
  exact IsBlock.of_firstByKey (fun _ => by rfl) (fun _ => by rfl) _

/-- What a handler shows of its parameters is a block of the query and a block of the body. -/
theorem exists_handlerParameters_eq (handler : Script.Tree) :
    ∃ query body, handlerParameters handler = query ++ body ∧ IsBlock "query" query ∧
      (∀ p ∈ query, p.required = false) ∧ IsBlock "body" body := by
  cases handler with
  | function parts =>
    exact ⟨_, _, rfl, isBlock_queryParameters _, List.forall_mem_map.mpr fun _ _ => rfl,
      isBlock_bodyParameters _⟩
  | _ => exact ⟨[], [], rfl, .nil _, fun _ hp => absurd hp List.not_mem_nil, .nil _⟩

/-! ### Responses -/

/-- A handler shows at least one response, and no status twice. -/
theorem handlerResponses_ne_nil_and_nodup (handler : Script.Tree) :
    handlerResponses handler ≠ [] ∧
      ((handlerResponses handler).map Response.statusCode).Nodup := by
  cases handler with
  | function parts =>
    have hnodup := nodup_firstByKey Response.statusCode
      ((Script.Tree.function parts).nodes.filterMap Sighting.response?)
    rw [handlerResponses, sentResponses]
    -- Without any response sent, success is assumed.
    split
    · exact ⟨List.cons_ne_nil _ _, List.nodup_singleton _⟩
    · rename_i hne
      exact ⟨hne, hnodup⟩
  | _ => exact ⟨List.cons_ne_nil _ _, List.nodup_singleton _⟩

/-! ### Records -/

/-- What holds of every record found in a file. -/
structure Route.IsRecordOf (r : Route) (filePath : String) : Prop where
  /-- The method is one of the seven. -/
  hasKnownMethod : r.HasKnownMethod
  /-- Parameters in the path come first, then those in the query, then those in the body. -/
  parameters_eq : ∃ path query body, r.parameters = path ++ query ++ body ∧
    (∀ p ∈ path, p.location = "path") ∧ (∀ p ∈ query, p.location = "query") ∧
    ∀ p ∈ body, p.location = "body"
  /-- No two parameters share name and location. -/
  nodup_parameters : (r.parameters.map Parameter.key).Nodup
  /-- No request has to give a parameter in the query. -/
  query_optional : ∀ p ∈ r.parameters, p.location = "query" → p.required = false
  /-- There is a response. -/
  responses_ne_nil : r.responses ≠ []
  /-- No status is there twice. -/
  nodup_statusCodes : (r.responses.map Response.statusCode).Nodup
  /-- The file is the one that was searched. -/
  filePath_eq : r.filePath = filePath
  /-- Lines are counted from one. -/
  lineNumber_pos : ∃ n, r.lineNumber = some n ∧ 1 ≤ n

/-- A record of a registration. -/
theorem isRecordOf_of_routeOf? {filePath : String} {registration : Sighting.Registration}
    {r : Route} (h : routeOf? filePath registration = some r) : r.IsRecordOf filePath := by
  have hknown := hasKnownMethod_of_routeOf? h
  rw [routeOf?] at h
  split at h
  · rename_i path rest _
    obtain rfl := Option.some.inj h
    obtain ⟨query, body, hparameters, hquery, hoptional, hbody⟩ :=
      exists_handlerParameters_eq (rest.getLast?.getD (.text path))
    obtain ⟨hne, hnodup⟩ := handlerResponses_ne_nil_and_nodup (rest.getLast?.getD (.text path))
    have hpath := isBlock_pathParameters path
    -- The blocks are told apart by their locations, so no key of one of them stands in another.
    have hlater : ((query ++ body).map Parameter.key).Nodup := by
      refine hquery.nodup_keys_append (fun q hq => ?_) hbody.nodup_keys
      rw [hbody.location_eq q hq]
      decide
    have hparts : pathParameters path ++ handlerParameters (rest.getLast?.getD (.text path)) =
        pathParameters path ++ query ++ body := by
      rw [hparameters, List.append_assoc]
    refine ⟨hknown, ⟨_, query, body, hparts, hpath.location_eq, hquery.location_eq,
      hbody.location_eq⟩, ?_, ?_, hne, hnodup, rfl, ?_⟩
    · rw [hparts, List.append_assoc]
      refine hpath.nodup_keys_append (fun q hq => ?_) hlater
      rcases List.mem_append.mp hq with hq | hq
      · rw [hquery.location_eq q hq]
        decide
      · rw [hbody.location_eq q hq]
        decide
    · intro p hp hlocation
      rw [hparts, List.append_assoc] at hp
      rcases List.mem_append.mp hp with hp | hp
      · exact absurd ((hpath.location_eq p hp).symm.trans hlocation) (by decide)
      rcases List.mem_append.mp hp with hp | hp
      · exact hoptional p hp
      · exact absurd ((hbody.location_eq p hp).symm.trans hlocation) (by decide)
    · exact ⟨_, rfl, by omega⟩
  · cases h

/-- **Every extracted record is well formed**, for every source text and file. A text that cannot be
read has no records. -/
theorem isRecordOf_of_mem_discoverRoutes (source filePath : String) (console : Console) :
    ∀ r ∈ (discoverRoutes source filePath console).1, r.IsRecordOf filePath := by
  intro r hr
  rw [discoverRoutes, extractRoutes] at hr
  cases hparse : Script.parse source with
  | error e =>
    rw [hparse] at hr
    exact absurd hr List.not_mem_nil
  | ok tree =>
    rw [hparse] at hr
    obtain ⟨registration, -, hroute⟩ := List.mem_filterMap.mp hr
    exact isRecordOf_of_routeOf? hroute

/-- A source text whose handler uses one name in the path, the query and the body, the latter two more
than once, and sends one status twice. -/
def repetitiveSource : String :=
  "app.post('/a/:id',(req,res)=>\x7bconst \x7bid\x7d=req.body;" ++
    "f(req.query.id,req.query.id,req.body.id,req.body.n);" ++
    "res.status(201).json(1);res.status(201).send('x')\x7d)"

theorem isRecordOf_of_mem_discoverRoutes_repetitive :
    ∃ r, r ∈ (discoverRoutes repetitiveSource "r.js" {}).1 ∧
      r.parameters.map Parameter.key =
        [("id", "path"), ("id", "query"), ("id", "body"), ("n", "body")] ∧
      r.responses.map Response.statusCode = [201] ∧ r.IsRecordOf "r.js" := by
  have hfound : (discoverRoutes repetitiveSource "r.js" {}).1.map
        (fun r => (r.parameters.map Parameter.key, r.responses.map Response.statusCode)) =
      [([("id", "path"), ("id", "query"), ("id", "body"), ("n", "body")], [201])] := by
    decide +kernel
  obtain ⟨r, hr, hkeys⟩ := List.mem_map.mp (hfound ▸ List.mem_singleton_self _)
  exact ⟨r, hr, congrArg Prod.fst hkeys, congrArg Prod.snd hkeys,
    isRecordOf_of_mem_discoverRoutes _ _ _ r hr⟩

/-! ### Names -/

theorem fst_ne_empty_of_mem_parameterMarks {cs : List Char} {mark : String × Bool}
    (h : mark ∈ parameterMarks cs) : mark.1 ≠ "" := by
  induction cs using parameterMarks.induct with
  | case1 => simp [parameterMarks] at h
  | case2 c cs hstart rest ih =>
    rw [parameterMarks, if_pos hstart] at h
    rcases List.mem_cons.mp h with rfl | h
    · simp
    · exact ih h
  | case3 c cs hstart ih =>
    rw [parameterMarks, if_neg hstart] at h
    exact ih h
  | case4 c cs hcolon ih =>
    rw [parameterMarks] at h
    · exact ih h
    · exact hcolon

theorem ne_empty_of_requestMember? {part name : String} {t : Script.Tree}
    (h : Sighting.requestMember? part t = some name) : name ≠ "" := by
  rw [Sighting.requestMember?.eq_def] at h
  split at h
  · rename_i owner middle word
    split_ifs at h
    rw [← Option.some.inj h]
    exact word.nonempty
  · cases h

/-- **Parameters of the path and the query have names.** -/
theorem name_ne_empty_of_routeOf? {filePath : String} {registration : Sighting.Registration}
    {r : Route} (h : routeOf? filePath registration = some r) {p : Parameter}
    (hp : p ∈ r.parameters) (hlisted : Operation.isListed p = true) : p.name ≠ "" := by
  rw [routeOf?] at h
  split at h
  · rename_i path rest _
    obtain rfl := Option.some.inj h
    rcases List.mem_append.mp hp with hp | hp
    · obtain ⟨mark, hmark, rfl⟩ := List.mem_map.mp hp
      exact fst_ne_empty_of_mem_parameterMarks (mem_of_mem_firstByKey hmark)
    · generalize rest.getLast?.getD (.text path) = handler at hp
      cases handler with
      | function parts =>
        rcases List.mem_append.mp hp with hp | hp
        · obtain ⟨name, hname, rfl⟩ := List.mem_map.mp hp
          obtain ⟨t, -, ht⟩ := List.mem_filterMap.mp (mem_of_mem_firstByKey hname)
          exact ne_empty_of_requestMember? ht
        · -- Parts of the body are not listed, and may be taken under any name.
          rw [Operation.isListed, (isBlock_bodyParameters _).location_eq p hp] at hlisted
          simp at hlisted
      | _ => cases hp
  · cases h

/-! ### Schemas -/

/-- **The schemas that can be seen**: that of a list, and that of an object, whose properties have a
type each. -/
theorem schema?_cases {t : Script.Tree} {schema : Members} (h : Sighting.schema? t = some schema) :
    schema = [(.text "type", .text "array"), (.text "items", .object [("type", .text "object")])] ∨
      ∃ properties : List (String × Value),
        schema = [(.text "type", .text "object"), (.text "properties",
          .map (properties.foldl (fun ms p => Members.put ms p.1 p.2) []))] ∧
        ∀ p ∈ properties, ∃ type, p.2 = Sighting.propertySchema type := by
  cases t with
  | array items => exact .inl (Option.some.inj h).symm
  | object entries =>
    refine .inr ⟨entries.filterMap Sighting.property?, (Option.some.inj h).symm, fun p hp => ?_⟩
    obtain ⟨entry, -, hentry⟩ := List.mem_filterMap.mp hp
    rw [Sighting.property?.eq_def] at hentry
    split at hentry
    · exact ⟨_, congrArg Prod.snd (Option.some.inj hentry).symm⟩
    · exact ⟨_, congrArg Prod.snd (Option.some.inj hentry).symm⟩
    · cases hentry
  | _ => cases h

/-- The schema of a response that is sent can be seen in what is sent. -/
theorem exists_schema?_of_response? {t : Script.Tree} {r : Response}
    (h : Sighting.response? t = some r) {schema : Members} (hschema : r.schema = some schema) :
    ∃ t, Sighting.schema? t = some schema := by
  have hsent : ∃ status mediaType arguments, r = Sighting.responseOf status mediaType arguments := by
    rw [Sighting.response?.eq_def] at h
    split at h
    · split at h
      · cases h
      · split at h
        · exact ⟨_, _, _, (Option.some.inj h).symm⟩
        · obtain ⟨code, -, hr⟩ := Option.map_eq_some_iff.mp h
          exact ⟨_, _, _, hr.symm⟩
    · cases h
  obtain ⟨status, mediaType, arguments, rfl⟩ := hsent
  obtain ⟨t, -, ht⟩ := Option.bind_eq_some_iff.mp hschema
  exact ⟨t, ht⟩

/-- The schemas of the responses of a record can be seen in its handler. -/
theorem exists_schema?_of_routeOf? {filePath : String} {registration : Sighting.Registration}
    {route : Route} (h : routeOf? filePath registration = some route) {r : Response}
    (hr : r ∈ route.responses) {schema : Members} (hschema : r.schema = some schema) :
    ∃ t, Sighting.schema? t = some schema := by
  -- A success that is only assumed has no schema.
  have hassumed : r ∉ [Response.success] := by
    intro hmem
    rw [List.mem_singleton.mp hmem] at hschema
    cases hschema
  rw [routeOf?] at h
  split at h
  · rename_i path rest _
    obtain rfl := Option.some.inj h
    dsimp only at hr
    generalize rest.getLast?.getD (.text path) = handler at hr
    cases handler with
    | function parts =>
      rw [handlerResponses] at hr
      split at hr
      · exact absurd hr hassumed
      · obtain ⟨t, -, ht⟩ := List.mem_filterMap.mp (mem_of_mem_firstByKey hr)
        exact exists_schema?_of_response? ht hschema
    | _ => exact absurd hr hassumed
  · cases h

end RouteAtlas
