import RouteAtlas.Proofs.Fallback
import RouteAtlas.Proofs.View

/-!
# Which operations a run with a model leaves behind

A run asks the model about every route, but what an answer adds to the document is under the
answer's own path and methods, not under those of the route. `Answer.covers` says what an answer
adds: the operations of its fragment, whatever they are, or, if it is of no use, the one operation
of the route that was asked about. The document of a run has **exactly the operations that its
answers cover** (`exists_operation_assistedDocument_iff`); nothing that was added is taken away
later.

So a route is described whenever the model fails on it, and it is described by its own answer only
if the model kept to the path and the method. A route whose answer is about something else is not
in the document at all, unless another answer makes up for it.
-/

namespace RouteAtlas

/-- Whether an answer about a route adds an operation of a method under a path: in its fragment if
there is one, else as what is known about the route. -/
def Answer.covers (answer : Answer) (route : Route) (path : String) (m : Method) : Bool :=
  match answer.fragment? with
  | some f => f.path == path && Members.has f.operations (.text m.key)
  | none => pathTemplate route.path == path && route.method == m.name

theorem Members.has_ofTable {κ α : Type} {name : κ → String} {value : α → Value}
    (hname : Function.Injective name) {key : κ} {es : List (κ × α)} :
    Members.has (Members.ofTable name value es) (.text (name key)) = true ↔
      key ∈ es.map Prod.fst := by
  simp only [Members.has, Members.ofTable, List.any_map, List.any_eq_true, Function.comp_apply,
    Scalar.same_text_text, beq_iff_eq, hname.eq_iff, List.mem_map]

namespace Draft

/-- The step: after an answer there are the operations that were there before and those that the
answer covers. -/
theorem hasOperation_hear_iff (d : Draft) {route : Route} {answer : Answer} {path : String}
    {m : Method} :
    HasOperation (d.hear route answer).paths path m ↔
      HasOperation d.paths path m ∨ answer.covers route path m = true := by
  rw [hear, Answer.covers]
  cases hf : answer.fragment? with
  | none =>
    change HasOperation ([route].foldl writeRoute d.paths) path m ↔ _
    rw [hasOperation_foldl_writeRoute_iff]
    simp
  | some f =>
    -- The operations of a checked fragment are a table, whose keys are the methods that it adds.
    have hkeys : Members.has f.operations (.text m.key) = true ↔ m ∈ f.item.map Prod.fst := by
      rw [← Answer.isChecked_of_fragment? hf]
      exact Members.has_ofTable Method.key_injective
    have hitem : ∀ item : PathItem, m ∈ (Table.setAll item f.item).map Prod.fst ↔
        m ∈ item.map Prod.fst ∨ Members.has f.operations (.text m.key) = true := by
      intro item
      rw [Table.mem_keys_setAll, hkeys, or_comm]
    change HasOperation (Table.update f.path (Table.setAll · f.item) d.paths) path m ↔ _
    rw [hasOperation_update_iff hitem, Bool.and_eq_true, beq_iff_eq]

/-- The run: after several answers there are the operations that were there before and those that
one of the answers covers. -/
theorem hasOperation_hearAll_iff (d : Draft) {heard : List (Route × Answer)} {path : String}
    {m : Method} :
    HasOperation (d.hearAll heard).paths path m ↔
      HasOperation d.paths path m ∨ ∃ h ∈ heard, h.2.covers h.1 path m = true := by
  induction heard generalizing d with
  | nil => simp [hearAll]
  | cons h heard ih =>
    rw [hearAll, List.foldl_cons, ← hearAll, ih, hasOperation_hear_iff]
    simp only [List.mem_cons, exists_eq_or_imp, or_assoc]

end Draft

/-- **The document of a run has exactly the operations that its answers cover.** -/
theorem exists_operation_assistedDocument_iff (service : Service) (client : Client)
    {cancelled : Nat → Bool} {routes : List Route} (heading : Heading) (log : Log)
    (hroutes : ∀ r ∈ routes, r.HasKnownMethod) {d : Document}
    (hd : (assistedDocument service client cancelled routes heading log).1 = .ok d)
    (path : String) (m : Method) :
    (∃ operation, d.operation? path m.key = some (.map operation)) ↔
      ∃ h ∈ routes.zip (answersTo service client routes log), h.2.covers h.1 path m = true := by
  have hnone : ¬Draft.HasOperation [] path m := by simp [Draft.hasOperation_iff, Table.get?]
  rw [eq_conclude_of_assistedDocument hroutes hd, Draft.exists_operation?_document_iff]
  change Draft.HasOperation (Draft.ofAnswers heading _).paths path m ↔ _
  rw [Draft.ofAnswers, Draft.hasOperation_hearAll_iff]
  exact or_iff_right hnone

/-- A model that answers the question about one path with a fragment about another: the run comes
to a document without the route. -/
theorem exists_operation_assistedDocument_iff_astray :
    let route : Route := { method := "GET", path := "/x", handler := "h" }
    let service : Service := fun _ => .answered [some "/y:\n  get:\n    summary: s\n"]
    route.HasKnownMethod ∧
    ∃ d, (assistedDocument service {} (fun _ => false) [route] {} {}).1 = .ok d ∧
      (∃ operation, d.operation? "/y" "get" = some (.map operation)) ∧
      ¬∃ operation, d.operation? (pathTemplate route.path) "get" = some (.map operation) := by
  intro route service
  have hroute : route.HasKnownMethod := ⟨.get, rfl⟩
  have hmade : (assistedDocument service {} (fun _ => false) [route] {} {}).1.toOption.map
      (fun d => (d.operation? "/y" "get").isSome) = some true := by decide +kernel
  have hastray : ([route].zip (answersTo service {} [route] {})).any
      (fun h => h.2.covers h.1 (pathTemplate route.path) .get) = false := by decide +kernel
  obtain ⟨d, hd, -⟩ := exists_ok_of_map_toOption hmade
  have hiff := exists_operation_assistedDocument_iff service {} {} {}
    (List.forall_mem_singleton.mpr hroute) hd
  refine ⟨hroute, d, hd, (hiff "/y" .get).mpr ?_, mt (hiff (pathTemplate route.path) .get).mp ?_⟩
  · exact List.any_eq_true.mp (by decide +kernel)
  · intro h
    rw [List.any_eq_true.mpr h] at hastray
    cases hastray

end RouteAtlas
