import RouteAtlas.Markdown
import RouteAtlas.Proofs.GoodPractice
import RouteAtlas.Proofs.RouteRecords

/-!
# Documents that can be written as Markdown

A part of a document becomes lines, and all lines have to be texts in the end. `IsWritten x` says
that the writing `x` of a part neither breaks down nor gives a line that is no text. It is proved for
each kind of part of a synthesized operation, for operations, path items and whole drafts
(`exists_render_document`). The only parts whose shape is not fixed by the synthesis are the schemas
of responses: their properties have to be maps (`IsListable`), as they are in all records found in
source texts.

`quickDocument_accepted` puts the checks of good practice and the writing together: **whatever is
made of extracted routes is accepted by both.**
-/

namespace RouteAtlas

namespace Markdown

/-! ### Lines -/

/-- All lines are texts. -/
def AreTexts (lines : List Value) : Prop := ∀ v ∈ lines, ∃ s, v = .text s

/-- The lines of a part are there, and all are texts. -/
def IsWritten (x : Except Fault (List Value)) : Prop := ∃ lines, x = .ok lines ∧ AreTexts lines

@[simp]
theorem areTexts_nil : AreTexts [] := fun _ hv => absurd hv List.not_mem_nil

@[simp]
theorem areTexts_cons (v : Value) (vs : List Value) :
    AreTexts (v :: vs) ↔ (∃ s, v = .text s) ∧ AreTexts vs := List.forall_mem_cons

@[simp]
theorem areTexts_append (vs ws : List Value) :
    AreTexts (vs ++ ws) ↔ AreTexts vs ∧ AreTexts ws := List.forall_mem_append

theorem isWritten_nil : IsWritten (.ok []) := ⟨[], rfl, areTexts_nil⟩

/-- A part that reads something first. -/
theorem IsWritten.bind {α : Type} {x : Except Fault α} {a : α} (hx : x = .ok a)
    {f : α → Except Fault (List Value)} (hf : IsWritten (f a)) : IsWritten (x >>= f) := by
  rw [hx]
  exact hf

/-- A map answers with the member it has. -/
theorem member_of_find? {ms : Members} {name : String} {v : Value}
    (h : Members.find? ms name = some v) : (Value.map ms).member name = .ok v := by
  rw [Value.member, h, Option.getD_some]

/-- Parts that are written one after the other. -/
theorem isWritten_linesOf {α : Type} {render : α → Except Fault (List Value)} {as : List α}
    (h : ∀ a ∈ as, IsWritten (render a)) : IsWritten (linesOf render as) := by
  induction as with
  | nil => exact isWritten_nil
  | cons a as ih =>
    obtain ⟨ha, has⟩ := List.forall_mem_cons.mp h
    obtain ⟨first, hfirst, htexts⟩ := ha
    obtain ⟨rest, hrest, hothers⟩ := ih has
    refine ⟨first ++ rest, ?_, (areTexts_append ..).mpr ⟨htexts, hothers⟩⟩
    rw [linesOf, hfirst, hrest]
    rfl

/-- Lines that are all texts can be put together. -/
theorem exists_textsOf {lines : List Value} (h : AreTexts lines) (n : Nat) :
    ∃ texts, textsOf n lines = .ok texts := by
  induction lines generalizing n with
  | nil => exact ⟨[], rfl⟩
  | cons v vs ih =>
    obtain ⟨⟨s, rfl⟩, hvs⟩ := (areTexts_cons ..).mp h
    obtain ⟨texts, htexts⟩ := ih hvs (n + 1)
    exact ⟨s :: texts, by simp [textsOf, Value.text?, htexts, Except.map]⟩

/-! ### Parameters and request bodies -/

/-- A parameter whose schema is a map. -/
theorem isWritten_parameterRow {ms schema : Members}
    (h : Members.find? ms "schema" = some (.map schema)) : IsWritten (parameterRow (.map ms)) := by
  have htype : ∃ type, ((Value.map schema).orElse (.map [])).memberD "type" (.text "string") =
      .ok type := by
    rw [Value.orElse]
    split_ifs
    · exact ⟨_, rfl⟩
    · exact ⟨_, rfl⟩
  obtain ⟨type, htype⟩ := htype
  refine .bind (member_of_find? h) (.bind htype (.bind rfl (.bind rfl (.bind rfl (.bind rfl ?_)))))
  exact ⟨_, rfl, by simp [row, line]⟩

theorem isWritten_parameterTable {params : List Value}
    (h : ∀ p ∈ params, IsWritten (parameterRow p)) : IsWritten (parameterTable params) := by
  obtain ⟨rows, hrows, htexts⟩ := isWritten_linesOf h
  rw [parameterTable]
  split_ifs
  · exact isWritten_nil
  · exact .bind hrows ⟨_, rfl, by simp [htexts, line, blank]⟩

/-- Properties that can be listed: if they count as true, they are a map of maps. -/
def IsListable (properties : Value) : Prop :=
  properties.truthy = true → ∃ ps, properties = .map ps ∧ ∀ p ∈ ps, ∃ ms, p.2 = .map ms

theorem isWritten_propertyRow (required : List Value) {p : Scalar × Value} {ms : Members}
    (h : p.2 = .map ms) : IsWritten (propertyRow (.list required) p) := by
  rw [propertyRow, h]
  exact .bind rfl (.bind rfl (.bind rfl ⟨_, rfl, by simp [row, line]⟩))

/-- A request body whose properties can be listed and whose required ones are a list. -/
theorem isWritten_bodyTable {body : Value} {schema : Option Members} {required : List Value}
    (hschema : jsonSchema body = .ok schema) (hlistable : IsListable (propertiesOf schema))
    (hrequired : ((schema.bind fun ms => Members.find? ms "required").getD .null).orElse (.list []) =
      .list required) : IsWritten (bodyTable body) := by
  refine .bind hschema ?_
  dsimp only
  rw [hrequired]
  cases htruthy : (propertiesOf schema).truthy with
  | false => exact isWritten_nil
  | true =>
    obtain ⟨ps, hps, hmaps⟩ := hlistable htruthy
    have hrow : ∀ p ∈ ps, IsWritten (propertyRow (.list required) p) := fun p hp =>
      (hmaps p hp).elim fun ms hms => isWritten_propertyRow required hms
    obtain ⟨rows, hrows, htexts⟩ := isWritten_linesOf hrow
    rw [hps]
    exact .bind rfl (.bind hrows ⟨_, rfl, by simp [htexts, line, blank]⟩)

/-- The schema of a holder with one media type. -/
theorem jsonSchema_object {ms schema : Members} {type : String}
    (hcontent : Members.find? ms "content" =
      some (.object [(type, .object [("schema", .map schema)])])) :
    jsonSchema (.map ms) = .ok (if type = "application/json" then some schema else none) := by
  by_cases htype : type = "application/json"
  · simp [jsonSchema, hcontent, htype, Value.object, Value.orElse, Value.truthy, Value.member,
      Members.find?_cons, bind, Except.bind, pure, Except.pure]
  · simp [jsonSchema, hcontent, htype, Value.object, Value.orElse, Value.truthy, Value.member,
      Members.find?_cons, bind, Except.bind, pure, Except.pure]

/-- A synthesized request body. -/
theorem isWritten_bodyTable_requestBody (params : List Parameter) :
    IsWritten (bodyTable (Operation.requestBody params)) := by
  generalize hproperties : params.foldl
    (fun ms p => Members.put ms p.name (Operation.propertySchema p)) [] = properties
  have hlistable : IsListable (.map properties) := by
    refine fun _ => ⟨properties, rfl, fun p hp => ?_⟩
    rw [← hproperties] at hp
    rcases Members.mem_foldl_put hp with ⟨param, -, rfl⟩ | hp
    · exact ⟨_, rfl⟩
    · cases hp
  generalize hrequired : (params.filter (·.required)).map (·.name) = required
  simp only [Operation.requestBody, hproperties, hrequired]
  refine @isWritten_bodyTable _ _ (required.map .text) (jsonSchema_object
    (by simp [Members.find?_cons]; rfl)) ?_ ?_
  · rw [if_pos rfl]
    simpa [propertiesOf, Members.find?_cons] using hlistable
  · cases required with
    | nil => simp [Members.find?_cons, Value.orElse, Value.truthy, Scalar.truthy]
    | cons name names => simp [Members.find?_cons, Value.orElse, Value.truthy, Value.texts]

/-! ### Responses -/

theorem isWritten_propertyLine {p : Scalar × Value} {ms : Members} (h : p.2 = .map ms) :
    IsWritten (propertyLine p) := by
  rw [propertyLine, h]
  exact .bind rfl ⟨_, rfl, by simp [line]⟩

/-- A response whose properties can be listed. -/
theorem isWritten_responseLines (code : Scalar) {ms : Members} {schema : Option Members}
    (hschema : jsonSchema (.map ms) = .ok schema) (hlistable : IsListable (propertiesOf schema)) :
    IsWritten (responseLines (code, .map ms)) := by
  refine .bind rfl (.bind hschema ?_)
  dsimp only
  cases htruthy : (propertiesOf schema).truthy with
  | false => exact ⟨_, rfl, by simp [line, blank]⟩
  | true =>
    obtain ⟨ps, hps, hmaps⟩ := hlistable htruthy
    have hline : ∀ p ∈ ps, IsWritten (propertyLine p) := fun p hp =>
      (hmaps p hp).elim fun ms hms => isWritten_propertyLine hms
    obtain ⟨lines, hlines, htexts⟩ := isWritten_linesOf hline
    rw [hps]
    exact .bind rfl (.bind hlines ⟨_, rfl, by simp [htexts, line, blank]⟩)

/-- A route all of whose responses have schemas with properties that can be listed. -/
def HasListableSchemas (route : Route) : Prop :=
  ∀ r ∈ route.responses, ∀ schema, r.schema = some schema → IsListable (propertiesOf (some schema))

/-- The schema of a response, seen or assumed. -/
theorem exists_responseSchema_eq {r : Response}
    (h : ∀ schema, r.schema = some schema → IsListable (propertiesOf (some schema))) :
    ∃ schema, Operation.responseSchema r = .map schema ∧
      IsListable (propertiesOf (some schema)) := by
  rw [Operation.responseSchema]
  split
  · rename_i m ms hschema
    exact ⟨m :: ms, rfl, h _ hschema⟩
  · refine ⟨_, rfl, fun _ => ⟨[(.text "message", .object [("type", .text "string")])], ?_, ?_⟩⟩
    · simp [propertiesOf, Members.find?_cons, Value.object]
    · exact List.forall_mem_singleton.mpr ⟨_, rfl⟩

/-- A response object that was synthesized from a response. -/
theorem isWritten_responseLines_responseObject (code : Scalar) {r : Response}
    (h : ∀ schema, r.schema = some schema → IsListable (propertiesOf (some schema))) :
    IsWritten (responseLines (code, Operation.responseObject r)) := by
  have hnothing : IsListable (propertiesOf none) := fun htruthy => absurd htruthy (by decide)
  obtain ⟨schema, hschema, hlistable⟩ := exists_responseSchema_eq h
  rw [Operation.responseObject, hschema, Value.object]
  by_cases htype : r.contentType = ""
  · refine isWritten_responseLines code ?_ hnothing
    simp [htype, jsonSchema, Members.find?_cons, Value.orElse, Value.truthy, Scalar.truthy,
      Value.member, bind, Except.bind, pure, Except.pure]
  · refine isWritten_responseLines code (@jsonSchema_object _ schema r.contentType ?_) ?_
    · simp [htype, Members.find?_cons]
    · split_ifs
      · exact hlistable
      · exact hnothing

/-- The responses of a synthesized operation. -/
theorem isWritten_responseSection {route : Route} (h : HasListableSchemas route) :
    IsWritten (responseSection (.map (Operation.responsesObject route))) := by
  have hsuccess : IsWritten (responseLines (.text "200", Operation.successObject)) := by
    refine isWritten_responseLines _ (@jsonSchema_object _ [(.text "type", .text "object")]
      "application/json" (by simp [Members.find?_cons, Value.object])) ?_
    rw [if_pos rfl]
    exact fun htruthy => absurd htruthy (by decide)
  have hlines : ∀ m ∈ Operation.responsesObject route, IsWritten (responseLines m) := by
    intro m hm
    rcases Operation.mem_responsesObject hm with ⟨r, hr, rfl⟩ | rfl
    · exact isWritten_responseLines_responseObject _ (h r hr)
    · exact hsuccess
  obtain ⟨lines, hlines, htexts⟩ := isWritten_linesOf hlines
  cases hresponses : Operation.responsesObject route with
  | nil => exact isWritten_nil
  | cons m ms =>
    rw [hresponses] at hlines
    exact .bind rfl (.bind hlines ⟨_, rfl, by simp [htexts, line, blank]⟩)

/-! ### Operations and path items -/

/-- **A synthesized operation can be written** if the schemas of its responses can. -/
theorem isWritten_operationLines {route : Route} (h : HasListableSchemas route) (m : Method)
    (path : Scalar) (method : Method) :
    IsWritten (operationLines path method (.map (Operation.members m route))) := by
  have htags : IsWritten (tagLines (Value.texts [Operation.tagOf route.path])) :=
    ⟨_, rfl, by simp [line, blank]⟩
  have hitems : itemsOf (.list (Operation.parameterObjects route)) =
      .ok (Operation.parameterObjects route) := by
    cases Operation.parameterObjects route <;> rfl
  have hparameters : IsWritten (parameterTable (Operation.parameterObjects route)) :=
    isWritten_parameterTable (List.forall_mem_map.mpr fun p _ =>
      isWritten_parameterRow (by simp [Members.find?_cons]; rfl))
  have hbody : IsWritten (bodyTable
      ((Members.find? (Operation.members m route) "requestBody").getD .null)) := by
    rcases Operation.find?_requestBody m route with hnone | hsome
    · rw [hnone]
      exact isWritten_nil
    · rw [hsome]
      exact isWritten_bodyTable_requestBody _
  obtain ⟨tags, htags, htagTexts⟩ := htags
  obtain ⟨parameters, hparameters, hparameterTexts⟩ := hparameters
  obtain ⟨body, hbody, hbodyTexts⟩ := hbody
  obtain ⟨responses, hresponses, hresponseTexts⟩ := isWritten_responseSection h
  refine .bind (member_of_find? (Operation.find?_summary m route)) ?_
  refine .bind (member_of_find? (Operation.find?_description m route)) ?_
  refine .bind (member_of_find? (Operation.find?_tags m route)) (.bind htags ?_)
  refine .bind (member_of_find? (Operation.find?_parameters m route)) ?_
  refine .bind hitems (.bind hparameters (.bind rfl (.bind hbody ?_)))
  refine .bind (member_of_find? (Operation.find?_responses m route)) (.bind hresponses ?_)
  refine ⟨_, rfl, ?_⟩
  simp only [areTexts_append, htagTexts, hparameterTexts, hbodyTexts, hresponseTexts]
  split_ifs <;> simp [line, blank]

/-- A path item whose operations can be written. -/
theorem isWritten_pathLines {path : String} {item : PathItem}
    (h : ∀ o ∈ item, ∀ m, IsWritten (operationLines (.text path) m (.map o.2))) :
    IsWritten (pathLines (.text path, Draft.itemValue item)) := by
  refine isWritten_linesOf fun m _ => ?_
  refine .bind rfl ?_
  rw [Members.find?_ofTable Method.key_injective]
  cases hget : Table.get? m item with
  | none => exact isWritten_nil
  | some operation =>
    simp only [Option.map_some, Option.getD_some]
    split_ifs
    · exact h _ (Table.mem_of_get? hget) m
    · exact isWritten_nil

/-! ### Documents -/

/-- A section whose items can be written. -/
theorem isWritten_listSection {render : Value → Except Fault (List Value)} {vs : List Value}
    (h : ∀ v ∈ vs, IsWritten (render v)) (heading : String) :
    IsWritten (listSection heading render (.list vs)) := by
  obtain ⟨lines, hlines, htexts⟩ := isWritten_linesOf h
  cases vs with
  | nil => exact isWritten_nil
  | cons v vs =>
    exact .bind rfl (.bind hlines ⟨_, rfl, by simp [htexts, line, blank]⟩)

theorem isWritten_serverLine (url description : Value) :
    IsWritten (serverLine (.object [("url", url), ("description", description)])) := by
  exact .bind rfl (.bind rfl ⟨_, rfl, by simp [line]⟩)

theorem isWritten_tagLine (tag : String × String) : IsWritten (tagLine (Draft.tagValue tag)) := by
  exact .bind rfl (.bind rfl ⟨_, rfl, by simp [line]⟩)

/-- Lines that can be written are joined to a text. -/
theorem exists_render {document : Value} {stamp : String}
    (h : IsWritten (documentLines document stamp)) :
    ∃ markdown, render document stamp = .ok markdown := by
  obtain ⟨lines, hlines, htexts⟩ := h
  obtain ⟨texts, htexts⟩ := exists_textsOf htexts 0
  refine ⟨Text.join "\n" texts ++ "\n", ?_⟩
  rw [render, hlines]
  change (textsOf 0 lines >>= fun texts => pure (Text.join "\n" texts ++ "\n")) = _
  rw [htexts]
  rfl

/-- **A draft can be written** if its operations can and its description is a text. -/
theorem exists_render_document {d : Draft} {title version url description : Value} {text : String}
    (hinfo : d.info = .object [("title", title), ("version", version), ("description", .text text)])
    (hservers : d.servers = Document.serverList url description)
    (hoperations : ∀ p ∈ d.paths, ∀ o ∈ p.2, ∀ m,
      IsWritten (operationLines (.text p.1) m (.map o.2))) (stamp : String) :
    ∃ markdown, render (.map d.document) stamp = .ok markdown := by
  have hfindServers : Members.find? d.document "servers" = some d.servers := by
    simp [Draft.document, Members.find?_cons]
  have hkept : d.info.orElse (.map []) = d.info := by
    rw [hinfo]
    rfl
  have htitle : d.info.member "title" = .ok title := by
    simp [hinfo, Value.object, Value.member, Members.find?_cons]
  have hversion : d.info.member "version" = .ok version := by
    simp [hinfo, Value.object, Value.member, Members.find?_cons]
  have hdescription : d.info.member "description" = .ok (.text text) := by
    simp [hinfo, Value.object, Value.member, Members.find?_cons]
  have hserverSection : IsWritten (listSection "Servers" serverLine d.servers) := by
    rw [hservers, Document.serverList]
    exact isWritten_listSection (List.forall_mem_singleton.mpr (isWritten_serverLine ..)) _
  have htagSection : IsWritten (listSection "Tags" tagLine (.list (d.tags.map Draft.tagValue))) :=
    isWritten_listSection (List.forall_mem_map.mpr fun t _ => isWritten_tagLine t) _
  have hpathLines : IsWritten (linesOf pathLines (Members.ofTable id Draft.itemValue d.paths)) :=
    isWritten_linesOf (List.forall_mem_map.mpr fun p hp => isWritten_pathLines (hoperations p hp))
  have hentries : entriesOf (.map (Members.ofTable id Draft.itemValue d.paths)) =
      .ok (Members.ofTable id Draft.itemValue d.paths) := by
    cases Members.ofTable id Draft.itemValue d.paths <;> rfl
  obtain ⟨servers, hservers, hserverTexts⟩ := hserverSection
  obtain ⟨tags, htags, htagTexts⟩ := htagSection
  obtain ⟨paths, hpaths, hpathTexts⟩ := hpathLines
  -- The sections are read in the order in which they are written.
  refine exists_render ?_
  refine .bind (member_of_find? d.find?_info) ?_
  rw [hkept]
  refine .bind htitle (.bind hdescription (.bind hversion ?_))
  refine .bind (member_of_find? hfindServers) (.bind hservers ?_)
  refine .bind (member_of_find? d.find?_tags) (.bind htags ?_)
  refine .bind (member_of_find? d.find?_paths) (.bind hentries (.bind hpaths ?_))
  refine ⟨_, rfl, ?_⟩
  simp only [areTexts_append, hserverTexts, htagTexts, hpathTexts]
  split_ifs <;> simp [line, blank]

end Markdown

/-! ### Documents of extracted routes -/

/-- The schemas of extracted routes have properties that can be listed. -/
theorem Route.IsExtracted.hasListableSchemas {route : Route} (h : route.IsExtracted) :
    Markdown.HasListableSchemas route := by
  intro r hr schema hschema
  obtain ⟨filePath, registration, hroute⟩ := h.exists_routeOf?
  obtain ⟨t, ht⟩ := exists_schema?_of_routeOf? hroute hr hschema
  rcases schema?_cases ht with rfl | ⟨properties, rfl, htyped⟩
  · exact fun htruthy => absurd htruthy (by decide)
  · refine fun _ => ⟨properties.foldl (fun ms p => Members.put ms p.1 p.2) [], ?_, fun p hp => ?_⟩
    · simp [Markdown.propertiesOf, Members.find?_cons]
    rcases Members.mem_foldl_put hp with ⟨entry, hentry, rfl⟩ | hp
    · obtain ⟨type, htype⟩ := htyped entry hentry
      exact ⟨_, htype⟩
    · cases hp

/-- **What is made of extracted routes is accepted.** For routes found in any source texts, of which
there is at least one, a title and a version, there is a document; the checks of good practice go
through it without an error and warn of nothing but paths that do not begin with a slash and the
absence of schemas; and it can be written as Markdown. -/
theorem quickDocument_accepted {routes : List Route} (hne : routes ≠ [])
    (hroutes : ∀ r ∈ routes, r.IsExtracted) {title version : String} (htitle : title ≠ "")
    (hversion : version ≠ "") (server : Value) :
    ∃ d paths schemas,
      quickDocument routes { title := .text title, version := .text version, server := server } =
        .ok d ∧
      Members.find? d "paths" = some (.map paths) ∧
      Members.find? d "components" = some (.object [("schemas", .map schemas)]) ∧
      (∀ r, Checks.checkDocument (.map d) r = .ok { r with
        warnings := r.warnings ++
          (Checks.unrootedWarnings ((Members.keys paths).map Scalar.display) ++
            if schemas = [] then [Checks.noSchemasWarning] else []) }) ∧
      ∀ stamp, ∃ markdown, Markdown.render (.map d) stamp = .ok markdown := by
  have hknown : ∀ r ∈ routes, r.HasKnownMethod := fun r hr => (hroutes r hr).hasKnownMethod
  let d := ((Draft.new (.text title) (.text version) .null).addRoutes routes).conclude server
  have hpaths : d.paths ≠ [] := by
    obtain ⟨r, hr⟩ := List.exists_mem_of_ne_nil routes hne
    obtain ⟨m, hm⟩ := hknown r hr
    obtain ⟨item, hitem, -⟩ := Draft.hasOperation_foldl_writeRoute hr hm []
    exact List.ne_nil_of_mem (Table.mem_of_get? hitem)
  have htags : d.tags ≠ [] := by
    change (if _ = [] then _ else _) ≠ []
    split_ifs with hnone
    · exact List.cons_ne_nil _ _
    · exact hnone
  have hchecked : Draft.ForallOperations
      (fun _ _ op => ∀ place, Checks.Passes (Checks.checkOperation place (.map op))) d.paths := by
    refine Draft.ForallOperations.foldl_writeRoute (fun p hp => absurd hp List.not_mem_nil) ?_
    intro r hr m _
    obtain ⟨filePath, registration, hroute⟩ := (hroutes r hr).exists_routeOf?
    exact Checks.passes_checkOperation (fun p => name_ne_empty_of_routeOf? hroute) m
  have hwritten : Draft.ForallOperations (fun path _ op => ∀ m, Markdown.IsWritten
      (Markdown.operationLines (.text path) m (.map op))) d.paths := by
    refine Draft.ForallOperations.foldl_writeRoute (fun p hp => absurd hp List.not_mem_nil) ?_
    intro r hr m _ method
    exact Markdown.isWritten_operationLines (hroutes r hr).hasListableSchemas m _ method
  have hkeys : (Members.keys (Members.ofTable id Draft.itemValue d.paths)).map Scalar.display =
      d.paths.map Prod.fst := by
    rw [Members.keys, Members.ofTable, List.map_map, List.map_map]
    rfl
  refine ⟨d.document, _, d.schemas, quickDocument_eq hknown _, d.find?_paths, d.find?_components,
    ?_, Markdown.exists_render_document rfl rfl hwritten⟩
  rw [hkeys]
  exact Checks.warns_checkDocument (Checks.passes_checkInfo htitle hversion _) hpaths htags hchecked

/-- A source text with a path that does not begin with a slash, a parameter in the query, one in the
body and a response whose schema can be seen. -/
def unrootedSource : String :=
  "app.post('x',(req,res)=>\x7bf(req.query.q,req.body.n);res.json(\x7ba:1\x7d)\x7d)"

theorem quickDocument_accepted_unrooted :
    ∃ routes d paths schemas, extractRoutes unrootedSource "r.js" = .ok routes ∧
      routes.map Route.path = ["x"] ∧ quickDocument routes {} = .ok d ∧
      Members.find? d "paths" = some (.map paths) ∧
      Members.find? d "components" = some (.object [("schemas", .map schemas)]) ∧
      (∀ r, Checks.checkDocument (.map d) r = .ok { r with
        warnings := r.warnings ++
          (Checks.unrootedWarnings ((Members.keys paths).map Scalar.display) ++
            if schemas = [] then [Checks.noSchemasWarning] else []) }) ∧
      ∀ stamp, ∃ markdown, Markdown.render (.map d) stamp = .ok markdown := by
  have hpaths : (extractRoutes unrootedSource "r.js").toOption.map (List.map Route.path) =
      some ["x"] := by decide +kernel
  obtain ⟨routes, hextract, hpaths⟩ := exists_ok_of_map_toOption hpaths
  have hne : routes ≠ [] := by
    rintro rfl
    cases hpaths
  obtain ⟨d, paths, schemas, hd⟩ := quickDocument_accepted hne
    (fun r hr => ⟨_, _, routes, hextract, hr⟩) (show Document.defaultTitle ≠ "" by decide)
    (show Document.defaultVersion ≠ "" by decide) (.text Document.defaultServer)
  exact ⟨routes, d, paths, schemas, hextract, hpaths, hd⟩

end RouteAtlas
