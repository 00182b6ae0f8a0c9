import RouteAtlas.Generation.Assisted
import RouteAtlas.Proofs.Retry
import RouteAtlas.Proofs.Synthesis

/-!
# Falling back

A run with a model describes a route by a fragment if the model answers with one, and by what is
known about the route otherwise. `answersTo` is what the model answers in the course of a run, and
`Draft.hear` is what one answer does to a draft.

A run keeps an invariant, `Progress.Shows`: its document is the written draft of the answers so far,
and its requests are those of the questions alone. `exists_run_visit` is the step and `run_visitAll`
the run.

Two results follow. If no answer is of use, the document is **the document of routes alone** up to
its description (`assistedDocument_of_isRefused`). And a run comes to a document **exactly if** all
answers can be read and, at its end, all operations have a shape that lifting can walk
(`exists_assistedDocument_iff`). The second condition is not part of the check of fragments, so an
answer that passes the check can still bring a run down.
-/

namespace RouteAtlas

/-! ### Answers -/

/-- What the model says about a route: a text, or why there is none. -/
abbrev Answer := Except CompletionError String

/-- What the model says about routes it is asked about one after another. -/
def answersTo (service : Service) (client : Client) : List Route → Log → List Answer
  | [], _ => []
  | r :: rs, log =>
    (describeRoute service client r none log).1 ::
      answersTo service client rs (describeRoute service client r none log).2

namespace Answer

/-- The fragment in an answer, if it can be used. -/
def fragment? : Answer → Option Fragment
  | .error _ => none
  | .ok text =>
    match readFragment text with
    | .ok (.ok f) => some f
    | _ => none

/-- Whether the reader gets through an answer. -/
def isReadable : Answer → Bool
  | .error _ => true
  | .ok text =>
    match readFragment text with
    | .ok _ => true
    | .error _ => false

/-- Whether an answer is of no use: no text, or a text that the check of fragments refuses. -/
def isRefused : Answer → Bool
  | .error _ => true
  | .ok text =>
    match readFragment text with
    | .ok (.error _) => true
    | _ => false

theorem isReadable_of_isRefused {a : Answer} (h : a.isRefused = true) : a.isReadable = true := by
  cases a with
  | error e => rfl
  | ok text =>
    rw [isRefused] at h
    rw [isReadable]
    cases hread : readFragment text with
    | ok fragment => rfl
    | error e => simp [hread] at h

theorem fragment?_of_isRefused {a : Answer} (h : a.isRefused = true) : a.fragment? = none := by
  cases a with
  | error e => rfl
  | ok text =>
    rw [isRefused] at h
    rw [fragment?]
    split at h
    · rename_i reason hread
      rw [hread]
    · cases h

theorem isChecked_of_fragment? {a : Answer} {f : Fragment} (h : a.fragment? = some f) :
    f.IsChecked := by
  cases a with
  | error e => cases h
  | ok text =>
    rw [fragment?] at h
    split at h
    · rename_i f' hread
      obtain rfl := Option.some.inj h
      exact isChecked_of_readFragment hread
    · cases h

end Answer

/-- An answer depends on nothing but the requests that were sent before. -/
theorem describeRoute_congr (service : Service) (client : Client) (route : Route) {log log' : Log}
    (h : log.requests = log'.requests) :
    (describeRoute service client route none log).1 =
        (describeRoute service client route none log').1 ∧
      (describeRoute service client route none log).2.requests =
        (describeRoute service client route none log').2.requests := by
  -- The outcomes ahead are counted by the requests sent, and lines are not requests.
  have hahead : ∀ line, service.from (log.say line) = service.from (log'.say line) := by
    intro line
    funext i
    rw [Service.from, Service.from]
    exact congrArg (fun requests => service (List.length requests + i)) h
  obtain ⟨console, hask⟩ := askModel_eq service client (Prompt.forRoute route none) 2000
    (log.say ("  Generating documentation for " ++ route.method ++ " " ++ route.path))
  obtain ⟨console', hask'⟩ := askModel_eq service client (Prompt.forRoute route none) 2000
    (log'.say ("  Generating documentation for " ++ route.method ++ " " ++ route.path))
  rw [describeRoute, describeRoute, hask, hask', hahead]
  exact ⟨rfl, congrArg (· ++ _) h⟩

/-! ### What an answer does -/

/-- The step that an answer about a route leads to. -/
def Document.hear (route : Route) (answer : Answer) : Edit Unit :=
  match answer.fragment? with
  | some f => mergeFragment f
  | none => addRoutes [route]

/-- A document after several answers. -/
def Document.hearAll (d : Document) (heard : List (Route × Answer)) : Document :=
  heard.foldl (fun d h => (d.apply (hear h.1 h.2)).2) d

namespace Draft

/-- A draft after an answer about a route. -/
def hear (d : Draft) (route : Route) (answer : Answer) : Draft :=
  match answer.fragment? with
  | some f => d.merge f
  | none => d.addRoutes [route]

/-- A draft after several answers. -/
def hearAll (d : Draft) (heard : List (Route × Answer)) : Draft :=
  heard.foldl (fun d h => d.hear h.1 h.2) d

/-- Adding a route of a known method to a written draft. -/
theorem run_addRoutes_singleton (d : Draft) {route : Route} (hr : route.HasKnownMethod) :
    (Document.addRoutes [route]).run d.document = (.ok (), (d.addRoutes [route]).document) :=
  d.run_addRoutes (List.forall_mem_singleton.mpr hr)

/-- Hearing an answer on a written draft. -/
theorem run_hear (d : Draft) {route : Route} (hr : route.HasKnownMethod) (answer : Answer) :
    (Document.hear route answer).run d.document = (.ok (), (d.hear route answer).document) := by
  rw [Document.hear, hear]
  cases hf : answer.fragment? with
  | none => exact d.run_addRoutes_singleton hr
  | some f => exact d.run_mergeFragment (Answer.isChecked_of_fragment? hf)

theorem hearAll_document (d : Draft) {heard : List (Route × Answer)}
    (hheard : ∀ h ∈ heard, h.1.HasKnownMethod) :
    d.document.hearAll heard = (d.hearAll heard).document := by
  induction heard generalizing d with
  | nil => rfl
  | cons h heard ih =>
    have hstep : (d.document.apply (Document.hear h.1 h.2)).2 = (d.hear h.1 h.2).document :=
      congrArg Prod.snd (d.run_hear (hheard h List.mem_cons_self) h.2)
    rw [Document.hearAll, List.foldl_cons, hstep]
    exact ih _ fun h hh => hheard h (List.mem_cons_of_mem _ hh)

/-- Answers of no use add their routes, one after another. -/
theorem hearAll_of_isRefused (d : Draft) {routes : List Route} {answers : List Answer}
    (hlen : answers.length = routes.length) (hanswers : ∀ a ∈ answers, a.isRefused = true) :
    d.hearAll (routes.zip answers) = d.addRoutes routes := by
  induction routes generalizing d answers with
  | nil => rfl
  | cons r rs ih =>
    cases answers with
    | nil => cases hlen
    | cons a as =>
      have hstep : d.hear r a = d.addRoutes [r] := by
        rw [hear, Answer.fragment?_of_isRefused (hanswers a List.mem_cons_self)]
      have hsplit : d.addRoutes (r :: rs) = (d.addRoutes [r]).addRoutes rs :=
        d.addRoutes_append [r] rs
      rw [List.zip_cons_cons, hearAll, List.foldl_cons, hstep, hsplit]
      exact ih _ (Nat.succ.inj hlen) fun a ha => hanswers a (List.mem_cons_of_mem _ ha)

end Draft

/-! ### The run -/

namespace Run

theorem run_poll (cancelled : Nat → Bool) (p : Progress) :
    (poll cancelled).run p = (.ok (cancelled p.polls), { p with polls := p.polls + 1 }) := rfl

theorem run_record (change : Log → Log) (p : Progress) :
    (record change).run p = (.ok (), { p with log := change p.log }) := rfl

theorem run_talk {α : Type} (session : Log → α × Log) (p : Progress) :
    (talk session).run p = (.ok (session p.log).1, { p with log := (session p.log).2 }) := rfl

theorem run_edit_ok {e : Edit Unit} {p : Progress} {d : Document}
    (h : e.run p.document = (.ok (), d)) :
    (edit e).run p = (.ok (), { p with document := d }) := by
  have hget : (get : Run Progress).run p = (.ok p, p) := rfl
  rw [edit, run_bind_ok hget]
  simp only [Document.apply, h]
  rfl

theorem run_edit_error {e : Edit Unit} {p : Progress} {f : Fault} {d : Document}
    (h : e.run p.document = (.error f, d)) :
    (edit e).run p = (.error (.fault f), { p with document := d }) := by
  have hget : (get : Run Progress).run p = (.ok p, p) := rfl
  rw [edit, run_bind_ok hget]
  simp only [Document.apply, h]
  rfl

end Run

/-- A run that shows a draft has come to it with the requests of a session. What it printed and
where it paused is left open. -/
structure Progress.Shows (p : Progress) (d : Draft) (log : Log) : Prop where
  /-- The document is the draft written out. -/
  document_eq : p.document = d.document
  /-- The requests are those of the session. -/
  requests_eq : p.log.requests = log.requests

namespace Run

section Steps

variable {p : Progress} {d : Draft} {log : Log} {route : Route} {total number : Nat}

/-- Merging a text that can be read is hearing it. -/
theorem exists_run_merge (hp : p.Shows d log) (hr : route.HasKnownMethod) {text : String}
    (hread : Answer.isReadable (.ok text) = true) :
    ∃ p', (merge route text).run p = (.ok (), p') ∧ p'.Shows (d.hear route (.ok text)) log ∧
      p'.polls = p.polls := by
  cases hfragment : readFragment text with
  | error e => simp [Answer.isReadable, hfragment] at hread
  | ok fragment =>
    have hstep : Document.addFragment route fragment = Document.hear route (.ok text) := by
      rw [Document.hear, Answer.fragment?, hfragment]
      cases fragment <;> rfl
    have hrun := d.run_hear hr (.ok text)
    rw [← hp.document_eq, ← hstep] at hrun
    have hedit := @run_edit_ok _ { p with log := { p.log with
      console := Document.fragmentConsole route fragment p.log.console } } _ hrun
    rw [merge, hfragment]
    simp only
    rw [run_bind_ok (run_record ..), hedit]
    exact ⟨_, rfl, ⟨rfl, hp.requests_eq⟩, rfl⟩

/-- Heeding an answer that can be read. -/
theorem exists_run_heed (hp : p.Shows d log) (hr : route.HasKnownMethod) {answer : Answer}
    (hread : answer.isReadable = true) :
    ∃ p', (heed total number route answer).run p = (.ok (), p') ∧
      p'.Shows (d.hear route answer) log ∧ p'.polls = p.polls := by
  cases answer with
  | error e =>
    have hrun := d.run_addRoutes_singleton hr
    rw [← hp.document_eq] at hrun
    have hedit := @run_edit_ok _ { p with log := p.log.warn (failureLine route e) } _ hrun
    rw [heed, run_bind_ok (run_record ..), hedit]
    exact ⟨_, rfl, ⟨rfl, hp.requests_eq⟩, rfl⟩
  | ok text =>
    obtain ⟨p', hmerge, hp', hpolls⟩ := exists_run_merge hp hr hread
    rw [heed, run_bind_ok hmerge]
    split_ifs
    · exact ⟨_, rfl, ⟨hp'.document_eq, hp'.requests_eq⟩, hpolls⟩
    · exact ⟨p', rfl, hp', hpolls⟩

/-- An answer that cannot be read ends the run. -/
theorem exists_run_heed_error {answer : Answer} (hread : answer.isReadable = false) (p : Progress) :
    ∃ e, (heed total number route answer).run p = (.error (.unreadable e), p) := by
  cases answer with
  | error e => cases hread
  | ok text =>
    cases hfragment : readFragment text with
    | ok fragment => simp [Answer.isReadable, hfragment] at hread
    | error e =>
      have hmerge : (merge route text).run p = (.error (.unreadable e), p) := by
        rw [merge, hfragment]
        rfl
      exact ⟨e, run_bind_error hmerge _⟩

variable {service : Service} {client : Client} {cancelled : Nat → Bool}

/-- A step that is not cancelled comes to an answer, the same as that of the questions alone. -/
theorem exists_run_visit_eq (hp : p.Shows d log) (hcancel : cancelled p.polls = false) :
    ∃ p', p'.Shows d (describeRoute service client route none log).2 ∧ p'.polls = p.polls + 1 ∧
      (visit service client cancelled total number route).run p =
        (heed total number route (describeRoute service client route none log).1).run p' := by
  have hline : (p.log.say (progressLine number total route)).requests = log.requests :=
    hp.requests_eq
  obtain ⟨hanswer, hrequests⟩ := describeRoute_congr service client route hline
  rw [visit, run_bind_ok (run_poll ..), hcancel]
  simp only [Bool.false_eq_true, if_false]
  rw [run_bind_ok (run_record ..), run_bind_ok (run_talk ..), ← hanswer]
  exact ⟨⟨p.document, _, p.polls + 1⟩, ⟨hp.document_eq, hrequests⟩, rfl, rfl⟩

/-- **The step of a run** whose answer can be read: the answer is heard. -/
theorem exists_run_visit (hp : p.Shows d log) (hcancel : cancelled p.polls = false)
    (hr : route.HasKnownMethod)
    (hread : Answer.isReadable (describeRoute service client route none log).1 = true) :
    ∃ p', (visit service client cancelled total number route).run p = (.ok (), p') ∧
      p'.Shows (d.hear route (describeRoute service client route none log).1)
        (describeRoute service client route none log).2 ∧
      p'.polls = p.polls + 1 := by
  obtain ⟨p₁, hp₁, hpolls₁, hvisit⟩ := exists_run_visit_eq hp hcancel
  obtain ⟨p₂, hheed, hp₂, hpolls₂⟩ := exists_run_heed hp₁ hr hread
  exact ⟨p₂, hvisit.trans hheed, hp₂, hpolls₂.trans hpolls₁⟩

/-- The step of a run whose answer cannot be read. -/
theorem exists_run_visit_error (hp : p.Shows d log) (hcancel : cancelled p.polls = false)
    (hread : Answer.isReadable (describeRoute service client route none log).1 = false) :
    ∃ e p', (visit service client cancelled total number route).run p =
      (.error (.unreadable e), p') := by
  obtain ⟨p₁, hp₁, hpolls₁, hvisit⟩ := exists_run_visit_eq hp hcancel
  obtain ⟨e, hheed⟩ := exists_run_heed_error hread p₁
  exact ⟨e, p₁, hvisit.trans hheed⟩

/-- **The run**: it hears all answers in order if all can be read, and ends early otherwise. -/
theorem run_visitAll {routes : List Route} (hp : p.Shows d log)
    (hroutes : ∀ r ∈ routes, r.HasKnownMethod)
    (hcancel : ∀ i < routes.length, cancelled (p.polls + i) = false) :
    ((∀ a ∈ answersTo service client routes log, a.isReadable = true) ∧
      ∃ p', (visitAll service client cancelled total number routes).run p = (.ok (), p') ∧
        p'.document = (d.hearAll (routes.zip (answersTo service client routes log))).document) ∨
    (¬(∀ a ∈ answersTo service client routes log, a.isReadable = true) ∧
      ∃ e p', (visitAll service client cancelled total number routes).run p =
        (.error (.unreadable e), p')) := by
  -- The session `log` runs beside the run: it holds the questions without what the run adds.
  induction routes generalizing p d log number with
  | nil => exact .inl ⟨fun a ha => absurd ha List.not_mem_nil, p, rfl, hp.document_eq⟩
  | cons r rs ih =>
    have hfirst : cancelled p.polls = false := hcancel 0 (Nat.succ_pos _)
    rw [answersTo, List.forall_mem_cons, visitAll]
    cases hread : Answer.isReadable (describeRoute service client r none log).1 with
    | false =>
      obtain ⟨e, p', hvisit⟩ := exists_run_visit_error hp hfirst hread
      exact .inr ⟨by simp, e, p', run_bind_error hvisit _⟩
    | true =>
      obtain ⟨p', hvisit, hp', hpolls⟩ :=
        exists_run_visit hp hfirst (hroutes r List.mem_cons_self) hread
      have hlater : ∀ i < rs.length, cancelled (p'.polls + i) = false := by
        intro i hi
        rw [hpolls, Nat.add_assoc, Nat.add_comm 1 i]
        exact hcancel (i + 1) (Nat.succ_lt_succ hi)
      rw [run_bind_ok hvisit, List.zip_cons_cons]
      simp only [true_and]
      exact ih hp' (fun r hr => hroutes r (List.mem_cons_of_mem _ hr)) hlater

/-- A run that comes to its end was not cancelled. -/
theorem cancelled_eq_false_of_run_visitAll {routes : List Route} (hp : p.Shows d log)
    (hroutes : ∀ r ∈ routes, r.HasKnownMethod) {p' : Progress}
    (hrun : (visitAll service client cancelled total number routes).run p = (.ok (), p')) :
    ∀ i < routes.length, cancelled (p.polls + i) = false := by
  induction routes generalizing p d log number with
  | nil => exact fun i hi => absurd hi (Nat.not_lt_zero i)
  | cons r rs ih =>
    rw [visitAll] at hrun
    cases hfirst : cancelled p.polls with
    | true =>
      have hvisit : (visit service client cancelled total number r).run p =
          (.error (.cancelled (number - 1) total), { p with polls := p.polls + 1 }) := by
        rw [visit, run_bind_ok (run_poll ..), hfirst]
        rfl
      rw [run_bind_error hvisit] at hrun
      cases hrun
    | false =>
      cases hread : Answer.isReadable (describeRoute service client r none log).1 with
      | false =>
        -- A text that breaks the loader ends the run, too.
        obtain ⟨e, p'', hvisit⟩ := exists_run_visit_error hp hfirst hread
        rw [run_bind_error hvisit] at hrun
        cases hrun
      | true =>
        obtain ⟨p'', hvisit, hp'', hpolls⟩ :=
          exists_run_visit hp hfirst (hroutes r List.mem_cons_self) hread
        rw [run_bind_ok hvisit] at hrun
        have hlater := ih hp'' (fun r hr => hroutes r (List.mem_cons_of_mem _ hr)) hrun
        intro i hi
        cases i with
        | zero => exact hfirst
        | succ i =>
          have hi' := hlater i (Nat.lt_of_succ_lt_succ hi)
          rwa [hpolls, Nat.add_assoc, Nat.add_comm 1 i] at hi'

end Steps

end Run

/-! ### The document of a run -/

theorem length_answersTo (service : Service) (client : Client) (routes : List Route) (log : Log) :
    (answersTo service client routes log).length = routes.length := by
  induction routes generalizing log with
  | nil => rfl
  | cons r rs ih => exact congrArg Nat.succ (ih _)

/-- A run starts with a new draft. -/
theorem Progress.shows_start (heading : Heading) (log : Log) :
    Progress.Shows
      { document := Document.new heading.title heading.version (.text assistedDescription)
        log := log }
      (Draft.new heading.title heading.version (.text assistedDescription)) log :=
  ⟨(Draft.document_new ..).symm, rfl⟩

/-- The draft of a run before its last steps. -/
def Draft.ofAnswers (heading : Heading) (heard : List (Route × Answer)) : Draft :=
  (Draft.new heading.title heading.version (.text assistedDescription)).hearAll heard

section Outcome

variable (service : Service) (client : Client) {cancelled : Nat → Bool} {routes : List Route}
variable (heading : Heading) (log : Log)

/-- The outcome of a run is that of its last steps on the draft of its answers. -/
theorem assistedDocument_cases (hroutes : ∀ r ∈ routes, r.HasKnownMethod)
    (hcancel : ∀ i < routes.length, cancelled i = false) :
    let d := Draft.ofAnswers heading (routes.zip (answersTo service client routes log))
    ((∀ a ∈ answersTo service client routes log, a.isReadable = true) ∧
        d.document.isLiftable = true ∧
        (assistedDocument service client cancelled routes heading log).1 =
          .ok (d.conclude heading.server).document) ∨
      (¬((∀ a ∈ answersTo service client routes log, a.isReadable = true) ∧
          d.document.isLiftable = true) ∧
        ∃ s, (assistedDocument service client cancelled routes heading log).1 = .error s) := by
  intro d
  have hquiet : ∀ i < routes.length, cancelled (0 + i) = false := by
    simpa only [Nat.zero_add] using hcancel
  rw [assistedDocument]
  rcases @Run.run_visitAll _ _ _ routes.length 1 service client cancelled routes
    (Progress.shows_start heading log) hroutes hquiet with ⟨hread, p, hrun, hp⟩ | ⟨hread, e, p, hrun⟩
  · rw [run_bind_ok hrun]
    have hp : p.document = d.document := hp
    cases hlift : d.document.isLiftable with
    | true =>
      have hconclude := Draft.run_conclude hlift heading.server
      rw [← hp] at hconclude
      rw [Run.run_edit_ok hconclude]
      exact .inl ⟨hread, rfl, rfl⟩
    | false =>
      obtain ⟨f, d', hconclude⟩ := Draft.run_conclude_error hlift heading.server
      rw [← hp] at hconclude
      rw [Run.run_edit_error hconclude]
      exact .inr ⟨fun h => Bool.noConfusion h.2, _, rfl⟩
  · rw [run_bind_error hrun]
    exact .inr ⟨fun h => hread h.1, _, rfl⟩

variable {service client heading log}

/-- **The document that a run comes to** is the finished draft of its answers. -/
theorem eq_conclude_of_assistedDocument (hroutes : ∀ r ∈ routes, r.HasKnownMethod) {d : Document}
    (hd : (assistedDocument service client cancelled routes heading log).1 = .ok d) :
    d = ((Draft.ofAnswers heading (routes.zip (answersTo service client routes log))).conclude
      heading.server).document := by
  have hcancel : ∀ i < routes.length, cancelled i = false := by
    -- The last steps are taken only if the visits have come to their end.
    rw [assistedDocument] at hd
    cases hrun : (Run.visitAll service client cancelled routes.length 1 routes).run
        { document := Document.new heading.title heading.version (.text assistedDescription)
          log := log } with
    | mk result p =>
      cases result with
      | error s =>
        rw [run_bind_error hrun] at hd
        cases hd
      | ok =>
        have hquiet := Run.cancelled_eq_false_of_run_visitAll (Progress.shows_start heading log)
          hroutes hrun
        simpa only [Nat.zero_add] using hquiet
  rcases assistedDocument_cases service client heading log hroutes hcancel with
    ⟨-, -, hok⟩ | ⟨-, s, herror⟩
  · rw [hok] at hd
    exact (Except.ok.inj hd).symm
  · rw [herror] at hd
    cases hd

end Outcome

/-- A document with another description of the interface as a whole. -/
def Document.describedAs (d : Document) (description : Value) : Document :=
  match Members.find? d "info" with
  | some (.map info) => Members.put d "info" (.map (Members.put info "description" description))
  | _ => d

theorem Draft.describedAs_document {d : Draft} {title version description : Value}
    (h : d.info = .object [("title", title), ("version", version), ("description", description)])
    (description' : Value) :
    d.document.describedAs description' =
      { d with info := .object [("title", title), ("version", version),
        ("description", description')] }.document := by
  have hput : Members.put [(.text "title", title), (.text "version", version),
      (.text "description", description)] "description" description' =
        [(.text "title", title), (.text "version", version),
          (.text "description", description')] := by
    simp [Members.put_cons]
  rw [Document.describedAs, find?_info, h, Value.object]
  simp only [List.map_cons, List.map_nil, hput]
  exact d.put_info _

/-- **Answers of no use change nothing but the description**: if, for every route, the model fails or
what it writes is refused, the document is that of the routes alone. -/
theorem assistedDocument_of_isRefused (service : Service) (client : Client)
    {cancelled : Nat → Bool} {routes : List Route} (heading : Heading) (log : Log)
    (hroutes : ∀ r ∈ routes, r.HasKnownMethod)
    (hcancel : ∀ i < routes.length, cancelled i = false)
    (hanswers : ∀ a ∈ answersTo service client routes log, a.isRefused = true) :
    ∃ d, quickDocument routes heading = .ok d ∧
      (assistedDocument service client cancelled routes heading log).1 =
        .ok (d.describedAs (.text assistedDescription)) := by
  refine ⟨_, quickDocument_eq hroutes heading, ?_⟩
  have hread : ∀ a ∈ answersTo service client routes log, a.isReadable = true :=
    fun a ha => Answer.isReadable_of_isRefused (hanswers a ha)
  have hdraft : Draft.ofAnswers heading (routes.zip (answersTo service client routes log)) =
      (Draft.new heading.title heading.version (.text assistedDescription)).addRoutes routes :=
    Draft.hearAll_of_isRefused _ (length_answersTo ..) hanswers
  have hlift := Draft.isLiftable_addRoutes
    (Draft.isLiftable_new heading.title heading.version (.text assistedDescription)) routes
  rw [Draft.describedAs_document rfl]
  rcases assistedDocument_cases service client heading log hroutes hcancel with
    ⟨-, -, hok⟩ | ⟨hnot, -⟩
  · rw [hok, hdraft]
    rfl
  · rw [hdraft] at hnot
    exact absurd ⟨hread, hlift⟩ hnot

/-- Two spellings of one path, and a route of another path between them. -/
def interleavedRoutes : List Route := [
  { method := "GET", path := "/users/:id", handler := "show" },
  { method := "POST", path := "/orders", handler := "create" },
  { method := "GET", path := "/users/:id?", handler := "find" }]

/-- A service whose first call fails, whose second answers without a fragment and whose later calls
answer nothing. -/
def fickleService : Service
  | 0 => .failed .network
  | 1 => .answered [some "no fragment"]
  | _ => .answered []

theorem assistedDocument_of_isRefused_interleaved :
    (∀ r ∈ interleavedRoutes, r.HasKnownMethod) ∧
    (∀ a ∈ answersTo fickleService {} interleavedRoutes {}, a.isRefused = true) ∧
    ∃ d, quickDocument interleavedRoutes {} = .ok d ∧
      (assistedDocument fickleService {} (fun _ => false) interleavedRoutes {} {}).1 =
        .ok (d.describedAs (.text assistedDescription)) := by
  have hroutes : ∀ r ∈ interleavedRoutes, r.HasKnownMethod := by
    intro r hr
    simp only [interleavedRoutes, List.mem_cons, List.not_mem_nil, or_false] at hr
    rcases hr with rfl | rfl | rfl
    · exact ⟨.get, rfl⟩
    · exact ⟨.post, rfl⟩
    · exact ⟨.get, rfl⟩
  have hanswers : ∀ a ∈ answersTo fickleService {} interleavedRoutes {}, a.isRefused = true :=
    List.all_eq_true.mp (by decide +kernel)
  exact ⟨hroutes, hanswers,
    assistedDocument_of_isRefused fickleService {} {} {} hroutes (fun _ _ => rfl) hanswers⟩

/-- **When a run comes to a document**: exactly if all answers can be read and the operations that
are left at its end can be lifted. The document is then the finished one. An answer that is of no
use never stands in the way: it only leaves its own route to what is known about it. -/
theorem exists_assistedDocument_iff (service : Service) (client : Client)
    {cancelled : Nat → Bool} {routes : List Route} (heading : Heading) (log : Log)
    (hroutes : ∀ r ∈ routes, r.HasKnownMethod)
    (hcancel : ∀ i < routes.length, cancelled i = false) :
    let merged := (Document.new heading.title heading.version (.text assistedDescription)).hearAll
      (routes.zip (answersTo service client routes log))
    ((∃ d, (assistedDocument service client cancelled routes heading log).1 = .ok d) ↔
      (∀ a ∈ answersTo service client routes log, a.isReadable = true) ∧
        merged.isLiftable = true) ∧
    ∀ d, (assistedDocument service client cancelled routes heading log).1 = .ok d →
      merged.apply (Document.conclude heading.server) = (.ok (), d) := by
  intro merged
  have hmerged : merged =
      (Draft.ofAnswers heading (routes.zip (answersTo service client routes log))).document :=
    (Draft.new heading.title heading.version (.text assistedDescription)).hearAll_document
      fun h hh => hroutes h.1 (List.of_mem_zip hh).1
  rw [hmerged]
  rcases assistedDocument_cases service client heading log hroutes hcancel with
    ⟨hread, hlift, hok⟩ | ⟨hnot, s, herror⟩
  · refine ⟨⟨fun _ => ⟨hread, hlift⟩, fun _ => ⟨_, hok⟩⟩, fun d hd => ?_⟩
    rw [hok] at hd
    rw [← Except.ok.inj hd]
    exact Draft.run_conclude hlift heading.server
  · have hnone : ∀ d, (assistedDocument service client cancelled routes heading log).1 ≠ .ok d := by
      intro d hd
      rw [herror] at hd
      cases hd
    exact ⟨⟨fun ⟨d, hd⟩ => absurd hd (hnone d), fun h => absurd h hnot⟩,
      fun d hd => absurd hd (hnone d)⟩

/-- An answer that the check lets pass and the last steps cannot walk. -/
theorem exists_assistedDocument_iff_textResponses :
    let route : Route := { method := "GET", path := "/x", handler := "h" }
    let service : Service := fun _ => .answered [some "/x:\n  get:\n    responses: ok\n"]
    route.HasKnownMethod ∧
    (∀ a ∈ answersTo service {} [route] {}, a.isReadable = true ∧ a.isRefused = false) ∧
    ¬∃ d, (assistedDocument service {} (fun _ => false) [route] {} {}).1 = .ok d := by
  intro route service
  have hroute : route.HasKnownMethod := ⟨.get, rfl⟩
  have hanswers : (answersTo service {} [route] {}).all
      (fun a => a.isReadable && !a.isRefused) = true := by decide +kernel
  have hshape : ((Document.new (.text Document.defaultTitle) (.text Document.defaultVersion)
      (.text assistedDescription)).hearAll
        ([route].zip (answersTo service {} [route] {}))).isLiftable = false := by decide +kernel
  refine ⟨hroute, by simpa using hanswers, fun h => ?_⟩
  have hlift := ((exists_assistedDocument_iff service {} {} {}
    (List.forall_mem_singleton.mpr hroute) fun _ _ => rfl).1.mp h).2
  rw [hshape] at hlift
  cases hlift

end RouteAtlas
