import Mathlib.Data.Prod.Basic
import RouteAtlas.Proofs.RouteRecords

/-!
# The form of operations

What a reader finds in the operation of an extracted route, part by part: a parameter object for
each parameter in the path and the query, in order and no two alike; a request body exactly for the
methods that send one, if the handler takes something from it; and a response for every status.

Properties, required names and responses are written into maps and lists one by one, so a repetition
among the parameters or the statuses of a route would drop a property or a response without notice,
or list a name twice. Records have no such repetitions (`Route.IsRecordOf`), and setting different
keys keeps them all (`Members.foldl_put_of_nodup`). That statuses stay different when they are
written out is `Text.integer_injective`. The clauses are collected in `Operation.IsOperationOf`, and
`Operation.isOperationOf_of_isRecordOf` assembles them.
-/

namespace RouteAtlas

/-! ### Different keys -/

theorem Text.decimal_injective : Function.Injective Text.decimal := by
  intro m n h
  have hdigits : Nat.toDigits 10 m = Nat.toDigits 10 n := String.ofList_injective h
  rw [← Nat.ofDigitChars_toDigits (b := 10) (n := m) (by decide) (by decide), hdigits,
    Nat.ofDigitChars_toDigits (by decide) (by decide)]

theorem Text.decimal_ne_minus_append (m : Nat) (s : String) : Text.decimal m ≠ "-" ++ s := by
  intro h
  have hdigits : Nat.toDigits 10 m = '-' :: s.toList := by
    simpa [Text.decimal] using congrArg String.toList h
  have hminus : '-' ∈ Nat.toDigits 10 m := hdigits ▸ List.mem_cons_self
  exact absurd (Nat.isDigit_of_mem_toDigits (by decide) (by decide) hminus) (by decide)

/-- Integers are told apart by how they are written. -/
theorem Text.integer_injective : Function.Injective Text.integer := by
  intro a b h
  cases a with
  | ofNat m =>
    cases b with
    | ofNat n => rw [Text.decimal_injective h]
    | negSucc n => exact absurd h (Text.decimal_ne_minus_append m _)
  | negSucc m =>
    cases b with
    | ofNat n => exact absurd h.symm (Text.decimal_ne_minus_append n _)
    | negSucc n =>
      have hdecimal : Text.decimal (m + 1) = Text.decimal (n + 1) := by
        simpa [Text.integer] using h
      rw [Nat.succ_injective (Text.decimal_injective hdecimal)]

/-- Members that are set under different names are all kept, in order. -/
theorem Members.foldl_put_of_nodup {β : Type} {name : β → String} {value : β → Value}
    {bs : List β} (h : (bs.map name).Nodup) :
    bs.foldl (fun ms b => Members.put ms (name b) (value b)) [] =
      bs.map fun b => (.text (name b), value b) := by
  have hkeys : Members.keys (bs.map fun b => (.text (name b), value b)) =
      (bs.map name).map Scalar.text := by
    simp [Members.keys]
  have hnodup : (Members.keys (bs.map fun b => (.text (name b), value b))).Nodup := by
    rw [hkeys]
    exact h.map fun a b hab => Scalar.text.inj hab
  rw [← Members.ofList_of_nodup (fun m hm => ?_) hnodup, Members.ofList, Members.insertAll,
    List.foldl_map]
  · rfl
  · obtain ⟨b, -, rfl⟩ := List.mem_map.mp hm
    exact ⟨name b, rfl⟩

namespace Operation

/-! ### Parameters -/

/-- What a parameter object says about a parameter. -/
structure IsObjectOf (p : Parameter) (object : Value) : Prop where
  /-- The name. -/
  name_eq : object.textUnder? "name" = some p.name
  /-- The location. -/
  location_eq : object.textUnder? "in" = some p.location
  /-- Whether a request has to give it. -/
  required_eq : object.item "required" = .ok (.bool p.required)

theorem isObjectOf_parameterObject (p : Parameter) : IsObjectOf p (parameterObject p) :=
  ⟨textUnder?_name_parameterObject p, textUnder?_in_parameterObject p, rfl⟩

/-- A test of the location keeps all parameters of one location or none. -/
theorem filter_of_location {location : String} {ps : List Parameter}
    (h : ∀ p ∈ ps, p.location = location) (test : String → Bool) :
    (ps.filter fun p => test p.location) = if test location then ps else [] := by
  split_ifs with htest
  · exact List.filter_eq_self.mpr fun p hp => (congrArg test (h p hp)).trans htest
  · refine List.filter_eq_nil_iff.mpr fun p hp => ?_
    rwa [h p hp]

/-- The parameters that have objects are those in the path and then those in the query. -/
theorem filter_isListed_of_isRecordOf {r : Route} {filePath : String} (h : r.IsRecordOf filePath) :
    r.parameters.filter isListed = r.parametersIn "path" ++ r.parametersIn "query" := by
  obtain ⟨path, query, body, hparameters, hpath, hquery, hbody⟩ := h.parameters_eq
  have hfilter : ∀ test : String → Bool, (r.parameters.filter fun p => test p.location) =
      (if test "path" then path else []) ++ (if test "query" then query else []) ++
        (if test "body" then body else []) := by
    intro test
    rw [hparameters, List.filter_append, List.filter_append, filter_of_location hpath,
      filter_of_location hquery, filter_of_location hbody]
  have hlisted : r.parameters.filter isListed = path ++ query :=
    (hfilter fun l => l == "path" || l == "query").trans (by simp)
  have hinPath : r.parametersIn "path" = path := (hfilter (· == "path")).trans (by simp)
  have hinQuery : r.parametersIn "query" = query := (hfilter (· == "query")).trans (by simp)
  rw [hlisted, hinPath, hinQuery]

theorem nodup_parameterObjects {r : Route} (h : (r.parameters.map Parameter.key).Nodup) :
    ((parameterObjects r).map fun v => (v.textUnder? "name", v.textUnder? "in")).Nodup := by
  have hkeys : (parameterObjects r).map (fun v => (v.textUnder? "name", v.textUnder? "in")) =
      ((r.parameters.filter isListed).map Parameter.key).map (Prod.map some some) := by
    simp [parameterObjects, textUnder?_in_parameterObject, textUnder?_name_parameterObject,
      Parameter.key]
  rw [hkeys]
  have hlisted : ((r.parameters.filter isListed).map Parameter.key).Nodup :=
    (List.filter_sublist.map Parameter.key).nodup h
  have hsome : Function.Injective (some : String → Option String) := fun _ _ => Option.some.inj
  exact hlisted.map (hsome.prodMap hsome)

/-! ### The request body -/

/-- What a request body with the given schema, properties and required names says about body
parameters. -/
structure IsBodyOf (ps : List Parameter) (body : Value) (schema properties : Members)
    (required : List String) : Prop where
  /-- The schema stands where readers look for it. -/
  schema_eq : ((body.item "content").bind (·.item "application/json")).bind (·.item "schema") =
    .ok (.map schema)
  /-- The properties stand in the schema. -/
  find?_properties : Members.find? schema "properties" = some (.map properties)
  /-- The properties are the parameters under their names, in order, none of them lost. -/
  properties_eq : properties = ps.map fun p => (.text p.name, propertySchema p)
  /-- The required names are names of parameters, in order. -/
  required_sublist : required.Sublist (ps.map Parameter.name)
  /-- No required name is there twice. -/
  nodup_required : required.Nodup
  /-- The required names are those of the required parameters. -/
  mem_required_iff : ∀ p ∈ ps, p.name ∈ required ↔ p.required = true
  /-- The schema lists the required names, if there are any. -/
  find?_required : Members.find? schema "required" =
    if required = [] then none else some (Value.texts required)
  /-- The body is required if a part of it is. -/
  required_eq : body.item "required" = .ok (.bool (decide (required ≠ [])))

theorem isBodyOf_requestBody {ps : List Parameter} (h : (ps.map Parameter.name).Nodup) :
    ∃ schema properties required, IsBodyOf ps (requestBody ps) schema properties required := by
  have hsublist : ((ps.filter (·.required)).map Parameter.name).Sublist (ps.map Parameter.name) :=
    List.filter_sublist.map _
  refine ⟨_, ps.map fun p => (.text p.name, propertySchema p),
    (ps.filter (·.required)).map (·.name), rfl, ?_, rfl, hsublist, hsublist.nodup h,
    fun p hp => ⟨fun hmem => ?_, fun hp' => ?_⟩, ?_, ?_⟩
  · rw [← Members.foldl_put_of_nodup h]
    simp [Members.find?_cons]
  · -- Only one parameter has the name, so it is the one that is required.
    obtain ⟨q, hq, hname⟩ := List.mem_map.mp hmem
    obtain ⟨hq, hrequired⟩ := List.mem_filter.mp hq
    rwa [← List.inj_on_of_nodup_map h hq hp hname]
  · exact List.mem_map_of_mem (List.mem_filter.mpr ⟨hp, hp'⟩)
  · generalize (ps.filter (·.required)).map (·.name) = required
    cases required <;> rfl
  · change Except.ok (Value.bool !((ps.filter (·.required)).map (·.name)).isEmpty) = _
    cases (ps.filter (·.required)).map (·.name) <;> rfl

/-- There is a request body exactly if the method sends one and there is something in it. -/
theorem find?_requestBody_eq (m : Method) (r : Route) :
    Members.find? (members m r) "requestBody" =
      if m.hasBody = true ∧ r.parametersIn "body" ≠ [] then
        some (requestBody (r.parametersIn "body"))
      else none := by
  have hcond : (m.hasBody && !(r.parametersIn "body").isEmpty) = true ↔
      m.hasBody = true ∧ r.parametersIn "body" ≠ [] := by
    simp
  simp only [members, ofRoute, Value.object, Value.members?, List.map_append, Option.getD_some,
    hcond]
  split_ifs
  · simp [Members.find?_cons]
  · simp [Members.find?_cons]

theorem hasBody_iff (m : Method) : m.hasBody = true ↔ m.name ∈ ["POST", "PUT", "PATCH"] := by
  cases m <;> decide

/-! ### Responses -/

/-- The statuses of the responses of an operation: those of the route and success. -/
def statusCodes (r : Route) : List Int :=
  r.responses.map Response.statusCode ++
    if 200 ∈ r.responses.map Response.statusCode then [] else [200]

theorem nodup_statusCodes {r : Route} (h : (r.responses.map Response.statusCode).Nodup) :
    (statusCodes r).Nodup := by
  rw [statusCodes]
  split_ifs with hsuccess
  · rwa [List.append_nil]
  · exact List.nodup_append_comm.mp (List.nodup_cons.mpr ⟨hsuccess, h⟩)

/-- No response of the route is lost, and the one for success is added only if there is none. -/
theorem responsesObject_eq {r : Route} (h : (r.responses.map Response.statusCode).Nodup) :
    responsesObject r =
      (r.responses.map fun x => (.text (Text.integer x.statusCode), responseObject x)) ++
        if 200 ∈ r.responses.map Response.statusCode then []
        else [(.text "200", successObject)] := by
  have hnames : (r.responses.map fun x => Text.integer x.statusCode).Nodup := by
    have hmap := h.map Text.integer_injective
    rwa [List.map_map] at hmap
  have hsuccess : Members.has
      (r.responses.map fun x => (.text (Text.integer x.statusCode), responseObject x))
      (.text "200") = true ↔ 200 ∈ r.responses.map Response.statusCode := by
    have hcode : ∀ code : Int, Text.integer code = "200" ↔ code = 200 := fun code =>
      ⟨fun h => Text.integer_injective h, fun h => by rw [h]; rfl⟩
    simp [Members.has_iff, Members.keys, hcode]
  rw [responsesObject, Members.foldl_put_of_nodup hnames]
  split_ifs with hseen hcode
  · simp
  · exact absurd (hsuccess.mp hseen) hcode
  · exact absurd (hsuccess.mpr ‹_›) hseen
  · exact Members.put_of_not_mem (fun hmem => hseen (Members.has_iff.mpr hmem)) _

theorem keys_responsesObject {r : Route} (h : (r.responses.map Response.statusCode).Nodup) :
    Members.keys (responsesObject r) =
      (statusCodes r).map fun code => .text (Text.integer code) := by
  have hsuccess : Text.integer 200 = "200" := rfl
  rw [responsesObject_eq h, statusCodes]
  split_ifs <;> simp [Members.keys, hsuccess]

theorem nodup_keys_responsesObject {r : Route}
    (h : (r.responses.map Response.statusCode).Nodup) :
    (Members.keys (responsesObject r)).Nodup := by
  rw [keys_responsesObject h]
  exact (nodup_statusCodes h).map fun a b hab => Text.integer_injective (Scalar.text.inj hab)

theorem find?_responsesObject {r : Route} (h : (r.responses.map Response.statusCode).Nodup)
    {x : Response} (hx : x ∈ r.responses) :
    Members.find? (responsesObject r) (Text.integer x.statusCode) = some (responseObject x) := by
  refine Members.find?_of_mem (nodup_keys_responsesObject h) ?_
  rw [responsesObject_eq h]
  exact List.mem_append_left _ (List.mem_map_of_mem hx)

/-! ### The operation -/

/-- What the operation of a route says about it. -/
structure IsOperationOf (r : Route) (op : Members) : Prop where
  /-- There is an object for each parameter in the path and in the query, in this order, and no two
  objects agree in name and location. -/
  exists_parameters : ∃ objects, Members.find? op "parameters" = some (.list objects) ∧
    List.Forall₂ IsObjectOf (r.parametersIn "path" ++ r.parametersIn "query") objects ∧
    (objects.map fun v => (v.textUnder? "name", v.textUnder? "in")).Nodup
  /-- There is a request body exactly if the method sends one and something is taken from it. -/
  exists_requestBody_iff : (∃ body, Members.find? op "requestBody" = some body) ↔
    r.method ∈ ["POST", "PUT", "PATCH"] ∧ r.parametersIn "body" ≠ []
  /-- The request body is that of the parameters in the body. -/
  isBodyOf : ∀ body, Members.find? op "requestBody" = some body →
    ∃ schema properties required, IsBodyOf (r.parametersIn "body") body schema properties required
  /-- The responses are those of the route, in order, none of them lost, and one for success if the
  route has none. -/
  exists_responses : ∃ responses, Members.find? op "responses" = some (.map responses) ∧
    Members.keys responses = (statusCodes r).map (fun code => .text (Text.integer code)) ∧
    (Members.keys responses).Nodup ∧ .text "200" ∈ Members.keys responses ∧
    ∀ x ∈ r.responses,
      Members.find? responses (Text.integer x.statusCode) = some (responseObject x)

theorem nodup_names_parametersIn {r : Route} (h : (r.parameters.map Parameter.key).Nodup)
    (location : String) : ((r.parametersIn location).map Parameter.name).Nodup := by
  have hkeys : ((r.parametersIn location).map Parameter.key).Nodup :=
    (List.filter_sublist.map Parameter.key).nodup h
  -- In one location, a parameter is told apart by its name.
  have hlocation : (r.parametersIn location).map Parameter.key =
      ((r.parametersIn location).map Parameter.name).map fun name => (name, location) := by
    rw [List.map_map]
    refine List.map_congr_left fun p hp => ?_
    rw [Parameter.key, beq_iff_eq.mp (List.mem_filter.mp hp).2]
    rfl
  rw [hlocation] at hkeys
  exact hkeys.of_map _

/-- The operation of a well-formed record says what it has to say. -/
theorem isOperationOf_of_isRecordOf {r : Route} {filePath : String} (h : r.IsRecordOf filePath)
    {m : Method} (hm : r.method = m.name) : IsOperationOf r (members m r) := by
  have hresponses := h.nodup_statusCodes
  refine ⟨⟨_, find?_parameters m r, ?_, nodup_parameterObjects h.nodup_parameters⟩, ?_, ?_,
    ⟨_, find?_responses m r, keys_responsesObject hresponses,
      nodup_keys_responsesObject hresponses, text_200_mem_keys_responsesObject r,
      fun x hx => find?_responsesObject hresponses hx⟩⟩
  · rw [← filter_isListed_of_isRecordOf h, parameterObjects, List.forall₂_map_right_iff]
    exact List.forall₂_same.mpr fun p _ => isObjectOf_parameterObject p
  · rw [find?_requestBody_eq, hm, ← hasBody_iff]
    split_ifs with hcond <;> simp [hcond]
  · intro body hfind
    rw [find?_requestBody_eq] at hfind
    split_ifs at hfind
    rw [← Option.some.inj hfind]
    exact isBodyOf_requestBody (nodup_names_parametersIn h.nodup_parameters "body")

end Operation

/-- **Operations of extracted routes are well formed.** They can be built for every one of them, and
say all that the record says about parameters, the request body and responses. -/
theorem isOperationOf_of_isExtracted {r : Route} (h : r.IsExtracted) :
    ∃ m op, Operation.build r = .ok (m, .map op) ∧ r.method = m.name ∧
      Operation.IsOperationOf r op := by
  obtain ⟨filePath, registration, hroute⟩ := h.exists_routeOf?
  obtain ⟨m, hm⟩ := h.hasKnownMethod
  exact ⟨m, _, Operation.build_of_method hm, hm,
    Operation.isOperationOf_of_isRecordOf (isRecordOf_of_routeOf? hroute) hm⟩

/-- A source text whose handler uses one name in the path, the query and the body, needs some names
of the body and not others, and sends one status twice and success never. -/
def eagerSource : String :=
  "app.put('/a/:id',(req,res)=>\x7bconst \x7bid,n=1\x7d=req.body;" ++
    "f(req.query.id,req.query.id,req.body.id,req.body.note);" ++
    "res.status(404).json(\x7be:1\x7d);res.status(404).send();res.status(201).json([])\x7d)"

theorem isOperationOf_of_isExtracted_eager :
    ∃ r m op, r.parameters.map (fun p => (p.key, p.required)) =
        [(("id", "path"), true), (("id", "query"), false), (("id", "body"), true),
          (("n", "body"), true), (("note", "body"), false)] ∧
      r.responses.map Response.statusCode = [404, 201] ∧ Operation.build r = .ok (m, .map op) ∧
      r.method = m.name ∧ Operation.IsOperationOf r op := by
  have hfound : (extractRoutes eagerSource "r.js").toOption.map (List.map fun r =>
      (r.parameters.map (fun p => (p.key, p.required)), r.responses.map Response.statusCode)) =
      some [([(("id", "path"), true), (("id", "query"), false), (("id", "body"), true),
        (("n", "body"), true), (("note", "body"), false)], [404, 201])] := by
    decide +kernel
  obtain ⟨routes, hextract, hfound⟩ := exists_ok_of_map_toOption hfound
  obtain ⟨r, hr, hparts⟩ := List.mem_map.mp (hfound ▸ List.mem_singleton_self _)
  obtain ⟨m, op, hbuild, hm, hop⟩ := isOperationOf_of_isExtracted ⟨_, _, routes, hextract, hr⟩
  exact ⟨r, m, op, congrArg Prod.fst hparts, congrArg Prod.snd hparts, hbuild, hm, hop⟩

end RouteAtlas
