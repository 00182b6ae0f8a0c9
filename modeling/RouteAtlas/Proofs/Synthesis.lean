import RouteAtlas.Proofs.Lifting

/-!
# Synthesized operations

What the operation of a route looks like to the later steps: where its responses and parameters are
found, and that its schemas can be lifted. From this and the simulation of the builder follows
`quickDocument_eq`: the document of routes alone exists whenever all methods are known, and it is a
written draft.
-/

namespace RouteAtlas

/-! ### The parts of an operation -/

namespace Operation

theorem isLiftableResponse_responseObject (r : Response) :
    isLiftableResponse (responseObject r) = true := by
  rw [responseObject]
  split_ifs <;> rfl

/-- The responses of a synthesized operation are those of the route and one for success. -/
theorem mem_responsesObject {route : Route} {m : Scalar × Value} (h : m ∈ responsesObject route) :
    (∃ r ∈ route.responses, m = (.text (Text.integer r.statusCode), responseObject r)) ∨
      m = (.text "200", successObject) := by
  rw [responsesObject] at h
  split_ifs at h
  · exact .inl ((Members.mem_foldl_put h).resolve_right List.not_mem_nil)
  · rcases Members.mem_put h with h | h
    · exact .inr h
    · exact .inl ((Members.mem_foldl_put h).resolve_right List.not_mem_nil)

/-- There is always a response for success. -/
theorem text_200_mem_keys_responsesObject (route : Route) :
    .text "200" ∈ Members.keys (responsesObject route) := by
  rw [responsesObject]
  split_ifs with hseen
  · exact Members.has_iff.mp hseen
  · exact Members.mem_keys_put_self ..

/-- All responses of a synthesized operation can be lifted. -/
theorem isLiftableResponse_of_mem_responsesObject {route : Route} {m : Scalar × Value}
    (h : m ∈ responsesObject route) : isLiftableResponse m.2 = true := by
  rcases mem_responsesObject h with ⟨r, -, rfl⟩ | rfl
  · exact isLiftableResponse_responseObject r
  · rfl

theorem find?_summary (m : Method) (r : Route) :
    Members.find? (members m r) "summary" = some (.text (m.action ++ " " ++ resource r.path)) := by
  simp [members, ofRoute, Value.object, Value.members?, Members.find?_cons]

theorem find?_description (m : Method) (r : Route) :
    Members.find? (members m r) "description" = some (.text
      (orDefault (r.description.getD "") (r.method ++ " operation for " ++ r.path))) := by
  simp [members, ofRoute, Value.object, Value.members?, Members.find?_cons]

theorem find?_tags (m : Method) (r : Route) :
    Members.find? (members m r) "tags" = some (Value.texts [tagOf r.path]) := by
  simp [members, ofRoute, Value.object, Value.members?, Members.find?_cons]

/-- There is a request body only if there is something in it. -/
theorem find?_requestBody (m : Method) (r : Route) :
    Members.find? (members m r) "requestBody" = none ∨
      Members.find? (members m r) "requestBody" = some (requestBody (r.parametersIn "body")) := by
  simp only [members, ofRoute, Value.object, Value.members?, List.map_append, Option.getD_some]
  split_ifs
  · exact .inr (by simp [Members.find?_cons])
  · exact .inl (by simp [Members.find?_cons])

theorem find?_responses (m : Method) (r : Route) :
    Members.find? (members m r) "responses" = some (.map (responsesObject r)) := by
  simp [members, ofRoute, Value.object, Value.members?, Members.find?_cons]

theorem find?_parameters (m : Method) (r : Route) :
    Members.find? (members m r) "parameters" = some (.list (parameterObjects r)) := by
  simp [members, ofRoute, Value.object, Value.members?, Members.find?_cons]

/-- A synthesized operation can be lifted. -/
theorem isLiftableOperation_members (m : Method) (r : Route) :
    isLiftableOperation (.map (members m r)) = true := by
  rw [isLiftableOperation, find?_responses]
  have hall : ∀ e ∈ responsesObject r, isLiftableResponse e.2 = true :=
    fun e he => isLiftableResponse_of_mem_responsesObject he
  simpa [Value.isWalkable, Value.members?] using hall

end Operation

/-- A new draft has no operations. -/
theorem Draft.isLiftable_new (title version description : Value) :
    (Draft.new title version description).document.isLiftable = true := by
  rw [isLiftable_document_iff]
  exact fun p hp => absurd hp List.not_mem_nil

/-- Adding routes adds only operations that can be lifted. -/
theorem Draft.isLiftable_addRoutes {d : Draft} (h : d.document.isLiftable = true)
    (rs : List Route) : (d.addRoutes rs).document.isLiftable = true := by
  rw [isLiftable_document_iff] at h ⊢
  have hops : ForallOperations (fun _ _ op => isLiftableOperation (.map op) = true) d.paths := h
  exact hops.foldl_writeRoute fun r _ m _ => Operation.isLiftableOperation_members m r

/-- **The document of routes alone**: it exists if all methods are known. -/
theorem quickDocument_eq {routes : List Route} (hroutes : ∀ r ∈ routes, r.HasKnownMethod)
    (heading : Heading) :
    quickDocument routes heading = .ok
      ((((Draft.new heading.title heading.version .null).addRoutes routes).conclude
        heading.server).document) := by
  have hrun := run_bind_ok
    (Draft.run_addRoutes (Draft.new heading.title heading.version .null) hroutes)
    fun _ => Document.conclude heading.server
  rw [Draft.run_conclude (Draft.isLiftable_addRoutes (Draft.isLiftable_new ..) routes)] at hrun
  rw [quickDocument, ← Draft.document_new]
  simp only [Document.apply]
  rw [hrun]

end RouteAtlas
