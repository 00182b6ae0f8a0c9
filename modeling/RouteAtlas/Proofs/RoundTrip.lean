import RouteAtlas.Document.Loading
import RouteAtlas.Proofs.FileWriting
import RouteAtlas.Proofs.JsonReading
import RouteAtlas.Proofs.RouteRecords
import RouteAtlas.Proofs.Shape
import RouteAtlas.Proofs.Utf8

/-!
# Documents that come back from their files

A document goes through three layers on its way to a file and back: it is written as JSON, the text
becomes the content of a file, as UTF-8, and loading decodes the bytes, makes all line ends alike and
reads JSON. Each layer is undone by its counterpart: `Json.exists_render_of_isPlain` is about JSON,
`Text.decodeUtf8_toUTF8` about the bytes, and the line ends stay as they are since what is written
has no carriage return. So **every plain document comes back** as it was, with all members in their
order (`roundTrips_of_isPlain`).

The document of extracted routes is plain. Its maps are made by setting members one after another,
so no key stands twice (`Value.isPlain_put`), and its schemas are copies of parts of plain operations
(`isInherited_isPlain`).
-/

namespace RouteAtlas

/-! ### Loading what was written -/

/-- A text without carriage returns is read as it is. -/
theorem Text.normalizeNewlines_of_not_mem {s : String} (h : '\r' ∉ s.toList) :
    normalizeNewlines s = s := by
  suffices hchars : ∀ cs : List Char, '\r' ∉ cs → newlineChars cs = cs by
    rw [normalizeNewlines, hchars _ h, String.ofList_toList]
  intro cs hcs
  induction cs with
  | nil => rfl
  | cons c cs ih =>
    obtain ⟨hc, hcs⟩ := not_or.mp (mt List.mem_cons.mpr hcs)
    rw [newlineChars, ih hcs]
    · rintro cs rfl
      exact absurd rfl hc
    · rintro rfl
      exact absurd rfl hc

/-- The ways in which a file may hold a text: as such, or as its bytes in UTF-8. -/
def Content.Spells (content : Content) (s : String) : Prop :=
  content = .text s ∨ content = .bytes s.toUTF8.data.toList

theorem Content.Spells.read {content : Content} {s : String} (h : content.Spells s)
    (hreturn : '\r' ∉ s.toList) : content.read = .ok s := by
  rcases h with rfl | rfl
  · rw [Content.read, Text.normalizeNewlines_of_not_mem hreturn]
  · rw [Content.read, Text.decodeUtf8_toUTF8]
    simp only [Text.normalizeNewlines_of_not_mem hreturn]

/-- A file whose text is the JSON form of a document, loaded under a name for JSON. -/
theorem loadDocument_of_spells {t : FileTree} {p : Path} {place : List String} {content : Content}
    {text : String} {d : Document} (hsuffix : p.suffix = ".json")
    (hfile : t.resolve p = .file place content) (hcontent : content.Spells text)
    (hreturn : '\r' ∉ text.toList) (hparse : Json.parse text = .ok (.map d)) :
    loadDocument t p = .ok d := by
  have hread : t.readText p = .ok text := by
    rw [FileTree.readText, hfile]
    exact hcontent.read hreturn
  have hdocument : parseDocument p text = .ok (.map d) := by
    rw [parseDocument, hsuffix, hparse]
    rfl
  rw [loadDocument, hread]
  simp only [pure_bind, hdocument]
  rfl

/-- **A document that comes back.** It has a JSON form. Under every name for JSON files that form can
be written wherever anything can, and loading the file gives the document; so does loading a file
that holds the bytes of the form in UTF-8. -/
def Document.RoundTrips (d : Document) : Prop :=
  ∃ text, Json.render (.map d) = .ok text ∧ ∀ (t : FileTree) (p : Path), p.suffix = ".json" →
    ((t.resolve p).isWritable = true →
      ∃ t', t.writeText p text = .ok t' ∧ loadDocument t' p = .ok d) ∧
    ∀ place, t.resolve p = .file place (.bytes text.toUTF8.data.toList) → loadDocument t p = .ok d

/-- **Plain documents come back.** -/
theorem roundTrips_of_isPlain {d : Document} (h : (Value.map d).isPlain = true) :
    d.RoundTrips := by
  obtain ⟨text, hrender, hparse, hreturn⟩ := Json.exists_render_of_isPlain h
  refine ⟨text, hrender, fun t p hsuffix => ⟨fun hwritable => ?_, fun place hplace => ?_⟩⟩
  · obtain ⟨t', hwrite, place, hplace⟩ := FileTree.exists_writeText hwritable text
    exact ⟨t', hwrite, loadDocument_of_spells hsuffix hplace (.inl rfl) hreturn hparse⟩
  · exact loadDocument_of_spells hsuffix hplace (.inr rfl) hreturn hparse

/-! ### Plain values by their construction -/

@[simp]
theorem Value.isPlain_text (s : String) : (Value.text s).isPlain = true := rfl

@[simp]
theorem Value.isPlain_bool (b : Bool) : (Value.bool b).isPlain = true := rfl

@[simp]
theorem Value.isPlain_texts (items : List String) : (Value.texts items).isPlain = true :=
  Value.isPlain_list_iff.mpr (List.forall_mem_map.mpr fun _ _ => rfl)

/-- Maps that are written down are plain if their names differ and their values are plain. -/
@[simp]
theorem Value.isPlain_object_iff {members : List (String × Value)} :
    (Value.object members).isPlain = true ↔
      (members.map Prod.fst).Nodup ∧ ∀ m ∈ members, m.2.isPlain = true := by
  have hkeys : Members.keys (members.map fun m => (.text m.1, m.2)) =
      (members.map Prod.fst).map .text := by
    simp only [Members.keys, List.map_map, Function.comp_def]
  rw [Value.object, Value.isPlain_map_iff, hkeys, List.nodup_map_iff fun _ _ => Scalar.text.inj,
    List.forall_mem_map, and_comm]
  simp

/-- Setting a member keeps a map plain. -/
theorem Value.isPlain_put {ms : Members} (h : (Value.map ms).isPlain = true) {v : Value}
    (hv : v.isPlain = true) (name : String) :
    (Value.map (Members.put ms name v)).isPlain = true := by
  obtain ⟨hmembers, hnodup⟩ := Value.isPlain_map_iff.mp h
  refine Value.isPlain_map_iff.mpr ⟨fun m hm => ?_, Members.nodup_keys_put hnodup name v⟩
  rcases Members.mem_put hm with rfl | hm
  · exact ⟨⟨name, rfl⟩, hv⟩
  · exact hmembers m hm

/-- Maps that are made by setting members. -/
theorem Value.isPlain_foldl_put {α : Type} (name : α → String) {value : α → Value} {as : List α}
    (h : ∀ a ∈ as, (value a).isPlain = true) :
    (Value.map (as.foldl (fun ms a => Members.put ms (name a) (value a)) [])).isPlain = true := by
  suffices hfrom : ∀ ms : Members, (Value.map ms).isPlain = true → (Value.map
      (as.foldl (fun ms a => Members.put ms (name a) (value a)) ms)).isPlain = true from hfrom [] rfl
  induction as with
  | nil => exact fun ms hms => hms
  | cons a as ih =>
    obtain ⟨ha, has⟩ := List.forall_mem_cons.mp h
    exact fun ms hms => ih has _ (Value.isPlain_put hms ha (name a))

/-- Parts of plain values are plain. -/
theorem isInherited_isPlain : IsInherited fun v => v.isPlain = true where
  null := rfl
  member h m hm := ((Value.isPlain_map_iff.mp h).1 m hm).2
  put h hv name := Value.isPlain_put h hv name

/-! ### Operations -/

namespace Operation

theorem isPlain_parameterObject (p : Parameter) : (parameterObject p).isPlain = true := by
  simp [parameterObject]

theorem isPlain_propertySchema (p : Parameter) : (propertySchema p).isPlain = true := by
  rw [propertySchema]
  split_ifs <;> simp

theorem isPlain_requestBody (params : List Parameter) : (requestBody params).isPlain = true := by
  have hproperties := Value.isPlain_foldl_put Parameter.name
    fun p (_ : p ∈ params) => isPlain_propertySchema p
  rw [requestBody]
  split_ifs <;> simp [hproperties]

/-- The schemas of the responses of a route are plain. -/
def HasPlainSchemas (route : Route) : Prop :=
  ∀ r ∈ route.responses, ∀ schema, r.schema = some schema → (Value.map schema).isPlain = true

theorem isPlain_responseObject {r : Response}
    (h : ∀ schema, r.schema = some schema → (Value.map schema).isPlain = true) :
    (responseObject r).isPlain = true := by
  have hschema : (responseSchema r).isPlain = true := by
    rw [responseSchema]
    split
    · rename_i hsome
      exact h _ hsome
    · simp [messageSchema]
  rw [responseObject]
  split_ifs <;> simp [hschema]

/-- **The operation of a route** is plain if the schemas of its responses are. -/
theorem isPlain_members {route : Route} (h : HasPlainSchemas route) (m : Method) :
    (Value.map (members m route)).isPlain = true := by
  have hresponses : (Value.map (responsesObject route)).isPlain = true := by
    rw [responsesObject]
    have hseen := Value.isPlain_foldl_put (fun r => Text.integer r.statusCode)
      fun r hr => isPlain_responseObject (h r hr)
    split_ifs
    · exact hseen
    · exact Value.isPlain_put hseen (by simp [successObject]) _
  have hparameters : (Value.list (parameterObjects route)).isPlain = true :=
    Value.isPlain_list_iff.mpr (List.forall_mem_map.mpr fun p _ => isPlain_parameterObject p)
  change (ofRoute m route).isPlain = true
  rw [ofRoute]
  split_ifs <;> simp [hresponses, hparameters, isPlain_requestBody]

end Operation

/-- The schemas of extracted routes are plain. -/
theorem Route.IsExtracted.hasPlainSchemas {route : Route} (h : route.IsExtracted) :
    Operation.HasPlainSchemas route := by
  intro r hr schema hschema
  obtain ⟨filePath, registration, hroute⟩ := h.exists_routeOf?
  obtain ⟨t, ht⟩ := exists_schema?_of_routeOf? hroute hr hschema
  rcases schema?_cases ht with rfl | ⟨properties, rfl, htyped⟩
  · change (Value.object [("type", .text "array"),
      ("items", .object [("type", .text "object")])]).isPlain = true
    simp
  · have hproperties : ∀ p ∈ properties, p.2.isPlain = true := by
      intro p hp
      obtain ⟨type, htype⟩ := htyped p hp
      rw [htype]
      simp [Sighting.propertySchema]
    have hmap := Value.isPlain_foldl_put Prod.fst hproperties
    change (Value.object [("type", .text "object"), ("properties", .map _)]).isPlain = true
    simp [hmap]

/-! ### Drafts -/

/-- A draft of the kept shape whose parts are plain is written as a plain document. -/
theorem Draft.IsShaped.isPlain_document {d : Draft} (h : d.IsShaped) (hinfo : d.info.isPlain = true)
    (hservers : d.servers.isPlain = true)
    (hoperations : ForallOperations (fun _ _ op => (Value.map op).isPlain = true) d.paths)
    (hschemas : (Value.map d.schemas).isPlain = true) : (Value.map d.document).isPlain = true := by
  have hitem : ∀ p ∈ d.paths, (itemValue p.2).isPlain = true := by
    intro p hp
    refine Value.isPlain_map_iff.mpr ⟨List.forall_mem_map.mpr fun o ho => ?_, ?_⟩
    · exact ⟨⟨o.1.key, rfl⟩, hoperations p hp o ho⟩
    · exact Members.nodup_keys_ofTable Method.key_injective (h.items p hp).nodup
  have hpaths : (Value.map (Members.ofTable id itemValue d.paths)).isPlain = true := by
    refine Value.isPlain_map_iff.mpr ⟨List.forall_mem_map.mpr fun p hp => ?_, ?_⟩
    · exact ⟨⟨p.1, rfl⟩, hitem p hp⟩
    · exact Members.nodup_keys_ofTable Function.injective_id h.nodup
  have htags : (Value.list (d.tags.map tagValue)).isPlain = true :=
    Value.isPlain_list_iff.mpr (List.forall_mem_map.mpr fun tag _ => by simp [tagValue])
  change (Value.object [("openapi", .text Document.specificationVersion), ("info", d.info),
    ("servers", d.servers), ("paths", .map (Members.ofTable id itemValue d.paths)),
    ("components", .object [("schemas", .map d.schemas)]),
    ("tags", .list (d.tags.map tagValue))]).isPlain = true
  simp [hinfo, hservers, hpaths, hschemas, htags]

/-- Whether the values of a heading are plain. -/
def Heading.isPlain (heading : Heading) : Bool :=
  heading.title.isPlain && heading.version.isPlain && heading.server.isPlain

/-- **The document of extracted routes is plain.** -/
theorem isPlain_quickDocument {routes : List Route} (hroutes : ∀ r ∈ routes, r.IsExtracted)
    {heading : Heading} (hheading : heading.isPlain = true) :
    ∃ d, quickDocument routes heading = .ok d ∧ (Value.map d).isPlain = true := by
  have hknown : ∀ r ∈ routes, r.HasKnownMethod := fun r hr => (hroutes r hr).hasKnownMethod
  obtain ⟨⟨htitle, hversion⟩, hserver⟩ :
      (heading.title.isPlain = true ∧ heading.version.isPlain = true) ∧
        heading.server.isPlain = true := by
    simpa only [Heading.isPlain, Bool.and_eq_true] using hheading
  let draft := (Draft.new heading.title heading.version .null).addRoutes routes
  have hnew : (Draft.new heading.title heading.version .null).IsShaped :=
    ⟨List.nodup_nil, fun p hp => absurd hp List.not_mem_nil⟩
  have hshaped : draft.IsShaped := hnew.addRoutes hknown
  have hoperations : Draft.ForallOperations (fun _ _ op => (Value.map op).isPlain = true)
      draft.paths := by
    refine Draft.ForallOperations.foldl_writeRoute (fun p hp => absurd hp List.not_mem_nil) ?_
    intro r hr m _
    exact Operation.isPlain_members (hroutes r hr).hasPlainSchemas m
  have hfinished : (draft.conclude heading.server).IsShaped := ⟨hshaped.nodup, hshaped.items⟩
  refine ⟨_, quickDocument_eq hknown heading, hfinished.isPlain_document ?_ ?_ hoperations ?_⟩
  · change (Document.infoObject heading.title heading.version .null).isPlain = true
    have hdescription : (Value.null.orElse (.text Document.defaultDescription)).isPlain = true := rfl
    simp [Document.infoObject, htitle, hversion, hdescription]
  · change (Document.serverList heading.server (.text Document.developmentServer)).isPlain = true
    simp [Document.serverList, Value.isPlain_list_iff, hserver]
  · exact Draft.inherited_finish isInherited_isPlain rfl hoperations

/-- **Documents come back from their files**, equal and with all members in their order: every plain
document does, and so does the document of extracted routes, which exists and is plain. -/
theorem roundTrips_plain_and_extracted :
    (∀ d : Document, (Value.map d).isPlain = true → d.RoundTrips) ∧
      ∀ (routes : List Route) (heading : Heading), (∀ r ∈ routes, r.IsExtracted) →
        heading.isPlain = true →
        ∃ d, quickDocument routes heading = .ok d ∧ (Value.map d).isPlain = true ∧ d.RoundTrips := by
  refine ⟨fun d hd => roundTrips_of_isPlain hd, fun routes heading hroutes hheading => ?_⟩
  obtain ⟨d, hquick, hplain⟩ := isPlain_quickDocument hroutes hheading
  exact ⟨d, hquick, hplain, roundTrips_of_isPlain hplain⟩

/-- A document with quotes, control characters, carriage returns, line separators, characters outside
the basic plane, empty maps and lists, and members that are not in alphabetical order. -/
def awkwardDocument : Document := [
  (.text "z\"\\/", .text "\r\n\t\x00\x08\x0c\x1f\x7f\u2028\uFEFF😀"),
  (.text "", .list [.map [], .list [], .null, .bool true, .list [.bool false, .text ""]]),
  (.text "a", .map [(.text "é", .null), (.text "\r", .map [(.text "]\x7d,:", .text "null")])])]

/-- A source text with a route whose response has a schema that can be seen. -/
def schemaSource : String := "app.get('/a\"b/:c',(req,res)=>\x7bres.json(\x7ba:1,b:'x'\x7d)\x7d)"

theorem roundTrips_plain_and_extracted_awkward :
    (Value.map awkwardDocument).isPlain = true ∧ awkwardDocument.RoundTrips ∧
      (∃ text t, Json.render (.map awkwardDocument) = .ok text ∧
        ({} : FileTree).writeText ⟨false, ["openapi.json"]⟩ text = .ok t ∧
        loadDocument t ⟨false, ["openapi.json"]⟩ = .ok awkwardDocument) ∧
      ∃ routes d, extractRoutes schemaSource "r.js" = .ok routes ∧
        routes.map Route.path = ["/a\"b/:c"] ∧ quickDocument routes {} = .ok d ∧
        (Value.map d).isPlain = true ∧ d.RoundTrips := by
  have hplain : (Value.map awkwardDocument).isPlain = true := by decide +kernel
  have hdocument := roundTrips_plain_and_extracted.1 awkwardDocument hplain
  have hpaths : (extractRoutes schemaSource "r.js").toOption.map (List.map Route.path) =
      some ["/a\"b/:c"] := by decide +kernel
  obtain ⟨routes, hextract, hpaths⟩ := exists_ok_of_map_toOption hpaths
  obtain ⟨d, hd⟩ := roundTrips_plain_and_extracted.2 routes {}
    (fun r hr => ⟨_, _, routes, hextract, hr⟩) rfl
  refine ⟨hplain, hdocument, ?_, routes, d, hextract, hpaths, hd⟩
  obtain ⟨text, hrender, hload⟩ := hdocument
  obtain ⟨t, hwrite, hloaded⟩ := (hload {} ⟨false, ["openapi.json"]⟩ (by decide +kernel)).1 rfl
  exact ⟨text, t, hrender, hwrite, hloaded⟩

end RouteAtlas
