import RouteAtlas.Proofs.Lifting

/-!
# Building a document step by step

A document is built by steps that may come in any order and any number: routes are added, texts
that a model wrote are merged, schemas are copied, settings are changed. `Step` lists them, and
`Document.after` is the document after a step, **whether or not the step fails**: what a failing
step changed before it failed stays changed, and a text that cannot be read changes nothing.

`Draft.after` says what a step does to a draft, and `Draft.after_document` that this is what it
does to the document: every document that steps make of a new one is a written draft. What a step
can do to paths and tags is said once, in `Draft.after_cases`; `Draft.afterAll_induction` turns it
into the principle by which a property of drafts is shown of **every run**.
-/

namespace RouteAtlas

/-! ### Steps -/

/-- A step of building a document. -/
inductive Step
  /-- Routes are added. -/
  | addRoutes (routes : List Route)
  /-- What a model wrote about a route is merged. -/
  | addText (route : Route) (text : String)
  /-- Recognizable schemas are copied to the components. -/
  | liftSchemas
  /-- The document is finished. -/
  | finish
  /-- The server is set. -/
  | setServer (url description : Value)
  /-- Title, version and description are set. -/
  | setInfo (title version description : Value)

namespace Step

/-- The routes that a step is about. -/
def routes : Step → List Route
  | .addRoutes routes => routes
  | .addText route _ => [route]
  | _ => []

/-- A step about routes of known methods only. -/
def HasKnownMethods (s : Step) : Prop := ∀ r ∈ s.routes, r.HasKnownMethod

instance (s : Step) : Decidable s.HasKnownMethods :=
  inferInstanceAs (Decidable (∀ r ∈ s.routes, r.HasKnownMethod))

/-- What a step does to a document, or why its text cannot be read. -/
def edit : Step → Except Yaml.LoadError (Edit Unit)
  | .addRoutes routes => .ok (Document.addRoutes routes)
  | .addText route text => (readFragment text).map (Document.addFragment route)
  | .liftSchemas => .ok Document.liftSchemas
  | .finish => .ok Document.finish
  | .setServer url description => .ok (Document.setServer url description)
  | .setInfo title version description => .ok (Document.setInfo title version description)

end Step

namespace Document

/-- The document after a step, whether or not the step fails. -/
def after (d : Document) (s : Step) : Document :=
  match s.edit with
  | .ok e => (d.apply e).2
  | .error _ => d

/-- The document after several steps. -/
def afterAll (d : Document) (steps : List Step) : Document := steps.foldl after d

end Document

/-! ### Steps on drafts -/

namespace Draft

/-- A draft with its schemas lifted, as far as the walk comes. -/
def lift (d : Draft) : Draft := { d with schemas := d.walk.schemas.foldl offerSchema d.schemas }

/-- A draft after a step. Finishing one that cannot be lifted ends with the lifting. -/
def after (d : Draft) : Step → Draft
  | .addRoutes routes => d.addRoutes routes
  | .addText route text =>
    match readFragment text with
    | .ok (.ok f) => d.merge f
    | .ok (.error _) => d.addRoutes [route]
    | .error _ => d
  | .liftSchemas => d.lift
  | .finish => if d.document.isLiftable then d.finish else d.lift
  | .setServer url description =>
    { d with servers := Document.serverList url (description.orElse (.text "API Server")) }
  | .setInfo title version description =>
    { d with info := Document.infoObject title version description }

/-- A draft after several steps. -/
def afterAll (d : Draft) (steps : List Step) : Draft := steps.foldl after d

theorem snd_run_finish (d : Draft) :
    (Document.finish.run d.document).2 =
      (if d.document.isLiftable then d.finish else d.lift).document := by
  cases hlift : d.document.isLiftable with
  | true =>
    rw [run_finish hlift]
    rfl
  | false =>
    cases hfault : d.walk.fault with
    | none =>
      rw [d.fault_walk_eq_none_iff.mp hfault] at hlift
      cases hlift
    | some f =>
      -- The lifting fails, so the tags are not looked at, but what was lifted before stays.
      have hrun := d.run_liftSchemas
      rw [Walk.outcome, hfault] at hrun
      rw [Document.finish, run_bind_error hrun]
      rfl

/-- **A step on a written draft is the step on the draft**, whether or not it fails. -/
theorem after_document (d : Draft) {s : Step} (hs : s.HasKnownMethods) :
    d.document.after s = (d.after s).document := by
  cases s with
  | addRoutes routes => exact congrArg Prod.snd (d.run_addRoutes hs)
  | addText route text =>
    simp only [Document.after, Step.edit, after]
    cases hread : readFragment text with
    | error e => rfl
    | ok fragment =>
      cases fragment with
      | error reason => exact congrArg Prod.snd (d.run_addRoutes hs)
      | ok f =>
        exact congrArg Prod.snd (d.run_mergeFragment (isChecked_of_readFragment hread))
  | liftSchemas => exact congrArg Prod.snd d.run_liftSchemas
  | finish => exact d.snd_run_finish
  | setServer url description => exact d.put_servers _
  | setInfo title version description => exact d.put_info _

/-- A run of steps on a written draft is the run on the draft. -/
theorem afterAll_document (d : Draft) {steps : List Step}
    (hsteps : ∀ s ∈ steps, s.HasKnownMethods) :
    d.document.afterAll steps = (d.afterAll steps).document := by
  induction steps generalizing d with
  | nil => rfl
  | cons s steps ih =>
    rw [Document.afterAll, List.foldl_cons, d.after_document (hsteps s List.mem_cons_self)]
    exact ih _ fun s hs => hsteps s (List.mem_cons_of_mem _ hs)

/-! ### What a step can do -/

/-- One draft is another with its paths and tags kept, except that the default tag may have been
listed where there was none. -/
structure KeepsRoutes (d d' : Draft) : Prop where
  /-- The paths are the same. -/
  paths_eq : d'.paths = d.paths
  /-- The tags are the same, or the default one is the first. -/
  tags_eq : d'.tags = d.tags ∨
    d.tags = [] ∧ d'.tags = [(Operation.defaultTag, "API endpoints")]

theorem keepsRoutes_finish (d : Draft) : d.KeepsRoutes d.finish where
  paths_eq := rfl
  tags_eq := by
    rw [finish]
    by_cases h : d.tags = []
    · exact .inr ⟨h, if_pos h⟩
    · exact .inl (if_neg h)

/-- **What a step can do** to paths and tags: its routes are added, a fragment is merged, or they
are kept. -/
theorem after_cases (d : Draft) (s : Step) :
    d.after s = d.addRoutes s.routes ∨
      (∃ text f, readFragment text = .ok (.ok f) ∧ d.after s = d.merge f) ∨
      d.KeepsRoutes (d.after s) := by
  cases s with
  | addRoutes routes => exact .inl rfl
  | addText route text =>
    rw [after]
    split
    · rename_i f hread
      exact .inr (.inl ⟨text, f, hread, rfl⟩)
    · exact .inl rfl
    · exact .inr (.inr ⟨rfl, .inl rfl⟩)
  | finish =>
    rw [after]
    split_ifs
    · exact .inr (.inr d.keepsRoutes_finish)
    · exact .inr (.inr ⟨rfl, .inl rfl⟩)
  | _ => exact .inr (.inr ⟨rfl, .inl rfl⟩)

/-- **What holds of every run**: a property of drafts that routes of known methods, fragments and
everything that keeps paths and tags preserve. -/
theorem afterAll_induction {P : Draft → Prop}
    (hadd : ∀ d rs, (∀ r ∈ rs, r.HasKnownMethod) → P d → P (d.addRoutes rs))
    (hmerge : ∀ d text f, readFragment text = .ok (.ok f) → P d → P (d.merge f))
    (hkeep : ∀ d d', d.KeepsRoutes d' → P d → P d')
    {d : Draft} (hd : P d) {steps : List Step} (hsteps : ∀ s ∈ steps, s.HasKnownMethods) :
    P (d.afterAll steps) := by
  induction steps generalizing d with
  | nil => exact hd
  | cons s steps ih =>
    refine ih ?_ fun s hs => hsteps s (List.mem_cons_of_mem _ hs)
    rcases d.after_cases s with h | ⟨text, f, hread, h⟩ | h
    · rw [h]
      exact hadd d _ (hsteps s List.mem_cons_self) hd
    · rw [h]
      exact hmerge d text f hread hd
    · exact hkeep d _ h hd

end Draft

end RouteAtlas
