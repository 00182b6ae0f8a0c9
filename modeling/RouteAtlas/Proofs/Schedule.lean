import Mathlib.Tactic.IntervalCases
import RouteAtlas.Proofs.Fallback

/-!
# The schedule of a run

A run with a model asks whether it is cancelled, asks the model about a route, and pauses, route by
route. Three counts follow from this: how often it was asked whether to cancel, which requests were
sent, and where the run paused. A `Turn` is what asking about one route comes to, and `turnsOf` are
the turns of a session that does nothing but ask. `KeepsSchedule` says that a log was continued by
certain turns: their requests, one to four each, and their pauses, which are the delays before
retries and half a second behind a text that was not about the last route.

`assistedDocument_schedule` is the law of whole runs: if a run is cancelled, it has taken exactly the
turns in front of the first question that was answered with yes, and otherwise all of them. It says
nothing of runs that break down, since these stop in the middle of a turn.

The step is `run_visit_cases` and the run is `run_visitAll_cases`, one induction in which the run and
a session that only asks send the same requests.
-/

namespace RouteAtlas

/-! ### Turns -/

/-- What asking about one route comes to. -/
structure Turn where
  /-- The route. -/
  route : Route
  /-- The number of transport calls. -/
  calls : Nat
  /-- What the model said. -/
  answer : Answer

namespace Turn

/-- The turn of a session with a history. -/
def take (service : Service) (client : Client) (log : Log) (route : Route) : Turn where
  route := route
  calls := (describeRoute service client route none log).2.requests.length - log.requests.length
  answer := (describeRoute service client route none log).1

/-- The requests of a turn. -/
def requests (client : Client) (t : Turn) : List Request :=
  List.replicate t.calls (routeRequest client t.route none)

/-- The pauses of a turn between its calls. -/
def backoffs (t : Turn) : List Pause := (List.range (t.calls - 1)).map .backoff

/-- The pause behind a turn of the given number: there is one after a text, unless the route is the
last one. -/
def spacing (total number : Nat) (answer : Answer) : List Pause :=
  if answer.isOk && number < total then [.spacing] else []

/-- The pauses of the turn of the given number in seconds. -/
def delays (total number : Nat) (t : Turn) : List Value :=
  ([1, 2, 4].take (t.calls - 1)).map Value.int ++
    if t.answer.isOk && number < total then [.float 0.5] else []

end Turn

/-- The turns of a session that asks about routes one after another. -/
def turnsOf (service : Service) (client : Client) : List Route → Log → List Turn
  | [], _ => []
  | r :: rs, log =>
    Turn.take service client log r ::
      turnsOf service client rs (describeRoute service client r none log).2

/-- The pauses of turns, of which the first has the given number. -/
def pausesOf (total : Nat) : Nat → List Turn → List Pause
  | _, [] => []
  | number, t :: ts => t.backoffs ++ Turn.spacing total number t.answer ++ pausesOf total (number + 1) ts

/-- The pauses of turns in seconds, of which the first has the given number. -/
def delaysOf (total : Nat) : Nat → List Turn → List Value
  | _, [] => []
  | number, t :: ts => t.delays total number ++ delaysOf total (number + 1) ts

section Session

variable (service : Service) (client : Client)

theorem map_route_turnsOf (routes : List Route) (log : Log) :
    (turnsOf service client routes log).map Turn.route = routes := by
  induction routes generalizing log with
  | nil => rfl
  | cons r rs ih => exact congrArg (List.cons r) (ih _)

theorem map_answer_turnsOf (routes : List Route) (log : Log) :
    (turnsOf service client routes log).map Turn.answer = answersTo service client routes log := by
  induction routes generalizing log with
  | nil => rfl
  | cons r rs ih => exact congrArg (List.cons _) (ih _)

/-- A turn makes one call more than it makes retries. -/
theorem calls_take (log : Log) (route : Route) :
    (Turn.take service client log route).calls =
      retriesWithin maxRetries (service.from log) + 1 := by
  obtain ⟨console, hask⟩ := askModel_eq service client (Prompt.forRoute route none) 2000
    (log.say ("  Generating documentation for " ++ route.method ++ " " ++ route.path))
  rw [Turn.take, describeRoute, hask]
  simp only [Log.say, List.length_append, List.length_replicate, Nat.add_sub_cancel_left]
  rfl

/-- A turn makes one to four calls. -/
theorem calls_take_bounds (log : Log) (route : Route) :
    1 ≤ (Turn.take service client log route).calls ∧
      (Turn.take service client log route).calls ≤ 4 := by
  have hle := retriesWithin_le maxRetries (service.from log)
  rw [calls_take]
  rw [maxRetries] at hle ⊢
  omega

theorem calls_bounds_of_mem_turnsOf {routes : List Route} {log : Log} {t : Turn}
    (h : t ∈ turnsOf service client routes log) : 1 ≤ t.calls ∧ t.calls ≤ 4 := by
  induction routes generalizing log with
  | nil => cases h
  | cons r rs ih =>
    rcases List.mem_cons.mp h with rfl | h
    · exact calls_take_bounds ..
    · exact ih h

/-- **What a turn does** to any log with the requests of the session: it adds its requests and the
pauses between them. -/
theorem exists_describeRoute_eq (route : Route) {log log' : Log}
    (h : log'.requests = log.requests) :
    ∃ console, describeRoute service client route none log' =
      ((Turn.take service client log route).answer,
        { requests := log.requests ++ (Turn.take service client log route).requests client
          pauses := log'.pauses ++ (Turn.take service client log route).backoffs
          console := console }) := by
  have hanswer : (describeRoute service client route none log').1 =
      (Turn.take service client log route).answer := (describeRoute_congr service client route h).1
  have hahead : ∀ line, service.from (log'.say line) = service.from log := by
    intro line
    funext i
    exact congrArg (fun requests => service (List.length requests + i)) h
  obtain ⟨console, hask⟩ := askModel_eq service client (Prompt.forRoute route none) 2000
    (log'.say ("  Generating documentation for " ++ route.method ++ " " ++ route.path))
  refine ⟨console, Prod.ext hanswer ?_⟩
  rw [describeRoute, hask, hahead, Turn.requests, Turn.backoffs, calls_take, Nat.add_sub_cancel, ← h]
  rfl

end Session

/-! ### The pauses in seconds -/

/-- The pauses between the calls of a turn are the first of one, two and four seconds. -/
theorem Turn.map_seconds_backoffs {t : Turn} (h : t.calls ≤ 4) :
    t.backoffs.map Pause.seconds = ([1, 2, 4].take (t.calls - 1)).map Value.int := by
  have hretries : t.calls - 1 ≤ 3 := by omega
  rw [backoffs]
  generalize t.calls - 1 = retries at hretries
  interval_cases retries <;> rfl

theorem map_seconds_pausesOf {turns : List Turn} (h : ∀ t ∈ turns, t.calls ≤ 4)
    (total number : Nat) :
    (pausesOf total number turns).map Pause.seconds = delaysOf total number turns := by
  induction turns generalizing number with
  | nil => rfl
  | cons t ts ih =>
    have hspacing : (Turn.spacing total number t.answer).map Pause.seconds =
        if t.answer.isOk && number < total then [.float 0.5] else [] := by
      rw [Turn.spacing]
      split_ifs <;> rfl
    rw [pausesOf, delaysOf, Turn.delays, List.map_append, List.map_append, hspacing,
      Turn.map_seconds_backoffs (h t List.mem_cons_self),
      ih fun t ht => h t (List.mem_cons_of_mem _ ht)]

/-! ### The run -/

/-- Whether a run was cancelled. -/
def Stop.isCancelled : Stop → Bool
  | .cancelled _ _ => true
  | _ => false

namespace Run

/-- The steps stop early, and not because the run was cancelled. -/
def BreaksDown (x : Run Unit) (p : Progress) : Prop :=
  ∃ s p', x.run p = (.error s, p') ∧ s.isCancelled = false

theorem BreaksDown.bind {x : Run Unit} {p : Progress} (h : x.BreaksDown p) (f : Unit → Run Unit) :
    BreaksDown (x >>= f) p := by
  obtain ⟨s, p', hx, hs⟩ := h
  exact ⟨s, p', run_bind_error hx f, hs⟩

/-- Changing the document breaks down or changes nothing else. -/
theorem run_edit_cases (e : Edit Unit) (p : Progress) :
    (edit e).BreaksDown p ∨ ∃ d, (edit e).run p = (.ok (), { p with document := d }) := by
  cases hrun : e.run p.document with
  | mk result d =>
    cases result with
    | error f => exact .inl ⟨.fault f, _, run_edit_error hrun, rfl⟩
    | ok => exact .inr ⟨d, run_edit_ok hrun⟩

section Turns

variable {p : Progress} {log : Log} {total number : Nat}

/-- Merging a text breaks down or only prints and changes the document. -/
theorem run_merge_cases (route : Route) (text : String) (p : Progress) :
    (merge route text).BreaksDown p ∨
      ∃ d console, (merge route text).run p =
        (.ok (), { p with document := d, log := { p.log with console := console } }) := by
  rw [merge]
  cases readFragment text with
  | error e => exact .inl ⟨.unreadable e, p, rfl, rfl⟩
  | ok fragment =>
    simp only [BreaksDown]
    rw [run_bind_ok (run_record ..)]
    rcases run_edit_cases (Document.addFragment route fragment) _ with hbreak | ⟨d, hedit⟩
    · exact .inl hbreak
    · exact .inr ⟨d, _, hedit⟩

/-- Heeding an answer breaks down or adds the pause behind a text. -/
theorem run_heed_cases (route : Route) (answer : Answer) (p : Progress) :
    (heed total number route answer).BreaksDown p ∨
      ∃ p', (heed total number route answer).run p = (.ok (), p') ∧ p'.polls = p.polls ∧
        p'.log.requests = p.log.requests ∧
        p'.log.pauses = p.log.pauses ++ Turn.spacing total number answer := by
  cases answer with
  | error e =>
    have hnone : Turn.spacing total number (.error e) = [] := rfl
    rw [heed, hnone, List.append_nil]
    simp only [BreaksDown]
    rw [run_bind_ok (run_record ..)]
    rcases run_edit_cases (Document.addRoutes [route]) _ with hbreak | ⟨d, hedit⟩
    · exact .inl hbreak
    · exact .inr ⟨_, hedit, rfl, rfl, rfl⟩
  | ok text =>
    rcases run_merge_cases route text p with hbreak | ⟨d, console, hmerge⟩
    · exact .inl (hbreak.bind _)
    · right
      have hok : Except.isOk (.ok text : Answer) = true := rfl
      rw [heed, run_bind_ok hmerge, Turn.spacing, hok, Bool.true_and]
      by_cases hlast : number < total
      · rw [if_pos hlast, if_pos (decide_eq_true hlast), run_record]
        exact ⟨_, rfl, rfl, rfl, rfl⟩
      · rw [if_neg hlast, if_neg (by simp [hlast]), List.append_nil]
        exact ⟨_, rfl, rfl, rfl, rfl⟩

variable {service : Service} {client : Client} {cancelled : Nat → Bool}

/-- A run that is cancelled stops before it asks. -/
theorem run_visit_cancelled (route : Route) (hcancel : cancelled p.polls = true) :
    (visit service client cancelled total number route).run p =
      (.error (.cancelled (number - 1) total), { p with polls := p.polls + 1 }) := by
  rw [visit, run_bind_ok (run_poll ..), hcancel]
  rfl

/-- **The step of a run** that is not cancelled: it breaks down, or it takes one turn of the session
with the same requests. -/
theorem run_visit_cases (hp : p.log.requests = log.requests) (hcancel : cancelled p.polls = false)
    (route : Route) :
    (visit service client cancelled total number route).BreaksDown p ∨
      ∃ p', (visit service client cancelled total number route).run p = (.ok (), p') ∧
        p'.polls = p.polls + 1 ∧
        p'.log.requests =
          log.requests ++ (Turn.take service client log route).requests client ∧
        p'.log.pauses = p.log.pauses ++ (Turn.take service client log route).backoffs ++
          Turn.spacing total number (Turn.take service client log route).answer := by
  obtain ⟨console, hask⟩ := @exists_describeRoute_eq service client route log
    (p.log.say (progressLine number total route)) hp
  have hvisit : ∃ p₁ : Progress, p₁.polls = p.polls + 1 ∧
      p₁.log.requests = log.requests ++ (Turn.take service client log route).requests client ∧
      p₁.log.pauses = p.log.pauses ++ (Turn.take service client log route).backoffs ∧
      (visit service client cancelled total number route).run p =
        (heed total number route (Turn.take service client log route).answer).run p₁ := by
    rw [visit, run_bind_ok (run_poll ..), hcancel]
    simp only [Bool.false_eq_true, if_false]
    rw [run_bind_ok (run_record ..), run_bind_ok (run_talk ..)]
    dsimp only
    rw [hask]
    exact ⟨⟨p.document, _, p.polls + 1⟩, rfl, rfl, rfl, rfl⟩
  obtain ⟨p₁, hpolls, hrequests, hpauses, hvisit⟩ := hvisit
  rw [BreaksDown, hvisit, ← hpolls, ← hrequests, ← hpauses]
  exact run_heed_cases route _ p₁

/-- **The run**: if the question of the given number is the first that is answered with yes, it
breaks down or takes exactly the turns in front of that question. -/
theorem run_visitAll_cases {routes : List Route} {i : Nat} (hp : p.log.requests = log.requests)
    (hnumber : 1 ≤ number) (hi : i ≤ routes.length)
    (hquiet : ∀ j < i, cancelled (p.polls + j) = false)
    (hcancel : i < routes.length → cancelled (p.polls + i) = true) :
    (visitAll service client cancelled total number routes).BreaksDown p ∨
      ∃ p', (visitAll service client cancelled total number routes).run p =
          (if i < routes.length then .error (.cancelled (number - 1 + i) total) else .ok (), p') ∧
        p'.polls = p.polls + min (i + 1) routes.length ∧
        p'.log.requests = log.requests ++
          ((turnsOf service client routes log).take i).flatMap (Turn.requests client) ∧
        p'.log.pauses = p.log.pauses ++
          pausesOf total number ((turnsOf service client routes log).take i) := by
  -- The session `log` runs beside the run: both have sent the same requests.
  induction routes generalizing p log number i with
  | nil =>
    obtain rfl : i = 0 := Nat.le_zero.mp hi
    exact .inr ⟨p, rfl, rfl, by simp [hp, turnsOf], by simp [turnsOf, pausesOf]⟩
  | cons r rs ih =>
    rw [visitAll]
    cases i with
    | zero =>
      have hstop := @run_visit_cancelled p total number service client cancelled r
        (hcancel (Nat.succ_pos _))
      refine .inr ⟨_, run_bind_error hstop _, ?_, by simp [hp], by simp [pausesOf]⟩
      simp
    | succ i =>
      rcases @run_visit_cases p log total number service client cancelled hp
        (hquiet 0 (Nat.succ_pos i)) r with hbreak | ⟨p₁, hvisit, hpolls, hrequests, hpauses⟩
      · exact .inl (hbreak.bind _)
      · have hsession : p₁.log.requests = (describeRoute service client r none log).2.requests := by
          obtain ⟨console, hask⟩ := @exists_describeRoute_eq service client r log log rfl
          rw [hask, hrequests]
        have hlater : ∀ j < i, cancelled (p₁.polls + j) = false := by
          intro j hj
          rw [hpolls, Nat.add_assoc, Nat.add_comm 1 j]
          exact hquiet (j + 1) (Nat.succ_lt_succ hj)
        have hnext : i < rs.length → cancelled (p₁.polls + i) = true := by
          intro hlt
          rw [hpolls, Nat.add_assoc, Nat.add_comm 1 i]
          exact hcancel (Nat.succ_lt_succ hlt)
        rw [BreaksDown, run_bind_ok hvisit]
        rcases @ih p₁ _ (number + 1) i hsession (Nat.le_succ_of_le hnumber)
          (Nat.le_of_succ_le_succ hi) hlater hnext with
          hbreak | ⟨p', hrun, hpolls', hrequests', hpauses'⟩
        · exact .inl hbreak
        · refine .inr ⟨p', ?_, ?_, ?_, ?_⟩
          · have hdone : number + 1 - 1 + i = number - 1 + (i + 1) := by omega
            rw [hrun, hdone, List.length_cons]
            simp only [Nat.succ_lt_succ_iff]
          · rw [hpolls', hpolls, List.length_cons]
            omega
          · rw [hrequests', ← hsession, hrequests, turnsOf, List.take_succ_cons, List.flatMap_cons,
              List.append_assoc]
          · rw [hpauses', hpauses, turnsOf, List.take_succ_cons, pausesOf]
            simp only [List.append_assoc]

end Turns

end Run

/-! ### The law of whole runs -/

/-- A run with a model and the state it ends in. -/
def assistedRun (service : Service) (client : Client) (cancelled : Nat → Bool)
    (routes : List Route) (heading : Heading) (log : Log) : Except Stop Unit × Progress :=
  let steps : Run Unit := do
    Run.visitAll service client cancelled routes.length 1 routes
    Run.edit (Document.conclude heading.server)
  steps.run
    { document := Document.new heading.title heading.version (.text assistedDescription), log := log }

/-- The document of a run is the one in the state it ends in. -/
theorem assistedDocument_eq (service : Service) (client : Client) (cancelled : Nat → Bool)
    (routes : List Route) (heading : Heading) (log : Log) :
    assistedDocument service client cancelled routes heading log =
      ((assistedRun service client cancelled routes heading log).1.map fun _ =>
          (assistedRun service client cancelled routes heading log).2.document,
        (assistedRun service client cancelled routes heading log).2.log) := by
  have hdef : assistedDocument service client cancelled routes heading log =
      match assistedRun service client cancelled routes heading log with
      | (.ok _, p) => (.ok p.document, p.log)
      | (.error s, p) => (.error s, p.log) := rfl
  rw [hdef]
  cases assistedRun service client cancelled routes heading log with
  | mk result p => cases result <;> rfl

/-- Whether a run came to a document or was cancelled. -/
def isOrderly : Except Stop Document → Bool
  | .ok _ => true
  | .error s => s.isCancelled

/-- A log was continued by turns: their requests, and their pauses in seconds. -/
structure KeepsSchedule (client : Client) (total : Nat) (turns : List Turn) (before after : Log) :
    Prop where
  /-- All requests are those of the turns, in order. -/
  requests_eq : after.requests = before.requests ++ turns.flatMap (Turn.requests client)
  /-- Each turn makes one to four calls. -/
  calls_bounds : ∀ t ∈ turns, 1 ≤ t.calls ∧ t.calls ≤ 4
  /-- All pauses are those of the turns, in order. -/
  delays_eq : ∃ pauses, after.pauses = before.pauses ++ pauses ∧
    pauses.map Pause.seconds = delaysOf total 1 turns

/-- A run that comes to a document or is cancelled has taken the turns in front of the first question
that is answered with yes. -/
theorem assistedRun_of_isOrderly {service : Service} {client : Client} {cancelled : Nat → Bool}
    {routes : List Route} {heading : Heading} {log : Log} {i : Nat} (hi : i ≤ routes.length)
    (hquiet : ∀ j < i, cancelled j = false) (hcancel : i < routes.length → cancelled i = true)
    (horderly : isOrderly (assistedDocument service client cancelled routes heading log).1 = true) :
    ∃ p, assistedRun service client cancelled routes heading log =
        (if i < routes.length then .error (.cancelled i routes.length) else .ok (), p) ∧
      p.polls = min (i + 1) routes.length ∧
      KeepsSchedule client routes.length ((turnsOf service client routes log).take i) log p.log := by
  -- A breakdown would be the outcome of the whole run, so it cannot have happened.
  have hnot : ¬∃ s p, assistedRun service client cancelled routes heading log = (.error s, p) ∧
      s.isCancelled = false := by
    rintro ⟨s, p, hrun, hs⟩
    rw [assistedDocument_eq, hrun] at horderly
    exact Bool.noConfusion (hs.symm.trans horderly)
  have hturns : ∀ t ∈ (turnsOf service client routes log).take i, 1 ≤ t.calls ∧ t.calls ≤ 4 :=
    fun t ht => calls_bounds_of_mem_turnsOf service client (List.mem_of_mem_take ht)
  rcases @Run.run_visitAll_cases
    { document := Document.new heading.title heading.version (.text assistedDescription)
      log := log } log routes.length 1 service client cancelled routes i rfl (Nat.le_refl 1) hi
    (by simpa only [Nat.zero_add] using hquiet) (by simpa only [Nat.zero_add] using hcancel) with
    hbreak | ⟨p, hrun, hpolls, hrequests, hpauses⟩
  · exact absurd (hbreak.bind fun _ => Run.edit (Document.conclude heading.server)) hnot
  · have hkeeps : KeepsSchedule client routes.length
        ((turnsOf service client routes log).take i) log p.log :=
      ⟨hrequests, hturns, _, hpauses, map_seconds_pausesOf (fun t ht => (hturns t ht).2) _ 1⟩
    simp only [Nat.zero_add, Nat.sub_self] at hpolls hrun
    by_cases hlt : i < routes.length
    · rw [if_pos hlt] at hrun ⊢
      exact ⟨p, run_bind_error hrun _, hpolls, hkeeps⟩
    · rw [if_neg hlt] at hrun ⊢
      rcases Run.run_edit_cases (Document.conclude heading.server) p with
        ⟨s, p', hedit, hs⟩ | ⟨d, hedit⟩
      · exact absurd ⟨s, p', (run_bind_ok hrun _).trans hedit, hs⟩ hnot
      · exact ⟨_, (run_bind_ok hrun _).trans hedit, hpolls, hkeeps⟩

/-- **The schedule of a run** that comes to a document or is cancelled. If the first question that is
answered with yes is in front of a route, the run has asked up to there, is cancelled with the number
of routes that are done, and has taken the turns of these routes and no other. Otherwise it has asked
in front of every route and taken all turns. -/
theorem assistedDocument_schedule (service : Service) (client : Client) (cancelled : Nat → Bool)
    (routes : List Route) (heading : Heading) (log : Log)
    (horderly : isOrderly (assistedDocument service client cancelled routes heading log).1 = true) :
    let turns := turnsOf service client routes log
    let polls := (assistedRun service client cancelled routes heading log).2.polls
    let result := assistedDocument service client cancelled routes heading log
    turns.map Turn.route = routes ∧
    turns.map Turn.answer = answersTo service client routes log ∧
    (∀ i < routes.length, (∀ j < i, cancelled j = false) → cancelled i = true →
      polls = i + 1 ∧
      (∃ s, result.1 = .error s ∧ s.isCancelled = true ∧
        s.message = "Generation cancelled after " ++ Text.decimal i ++ " of " ++
          Text.decimal routes.length ++ " routes") ∧
      KeepsSchedule client routes.length (turns.take i) log result.2) ∧
    ((∀ j < routes.length, cancelled j = false) →
      polls = routes.length ∧
      (∃ d, result.1 = .ok d) ∧
      KeepsSchedule client routes.length turns log result.2) := by
  intro turns polls result
  refine ⟨map_route_turnsOf .., map_answer_turnsOf .., ?_, ?_⟩
  · intro i hi hquiet hcancel
    obtain ⟨p, hrun, hpolls, hkeeps⟩ :=
      assistedRun_of_isOrderly (Nat.le_of_lt hi) hquiet (fun _ => hcancel) horderly
    have hresult : result = (.error (.cancelled i routes.length), p.log) := by
      refine (assistedDocument_eq ..).trans ?_
      rw [hrun, if_pos hi]
      rfl
    have hcount : polls = p.polls := congrArg (·.2.polls) hrun
    refine ⟨?_, ⟨_, by rw [hresult], rfl, rfl⟩, by rwa [hresult]⟩
    rw [hcount, hpolls]
    omega
  · intro hquiet
    obtain ⟨p, hrun, hpolls, hkeeps⟩ :=
      assistedRun_of_isOrderly (Nat.le_refl _) hquiet
        (fun h => absurd h (Nat.lt_irrefl _)) horderly
    have hresult : result = (.ok p.document, p.log) := by
      refine (assistedDocument_eq ..).trans ?_
      rw [hrun, if_neg (Nat.lt_irrefl _)]
      rfl
    have hcount : polls = p.polls := congrArg (·.2.polls) hrun
    have hall : turns.take routes.length = turns :=
      List.take_of_length_le (by rw [← List.length_map Turn.route, map_route_turnsOf])
    refine ⟨?_, ⟨_, by rw [hresult]⟩, ?_⟩
    · rw [hcount, hpolls]
      omega
    · rwa [hresult, ← hall]

/-- A service that is busy at first, then answers without a fragment, then cannot be reached. -/
def busyService : Service
  | 0 => .failed (.other "busy" .null (.int 503))
  | 1 => .answered [some "no fragment"]
  | _ => .failed .network

/-- A run that is cancelled in front of its third route: the first took two calls and came to a text,
the second came to nothing, so that no pause follows it. -/
theorem assistedDocument_schedule_cancelled :
    let routes : List Route := ["/a", "/b", "/c"].map fun path =>
      { method := "GET", path := path, handler := "h" }
    let turns := turnsOf busyService {} routes {}
    let result := assistedDocument busyService {} (· == 2) routes {} {}
    isOrderly result.1 = true ∧
    (turns.take 2).map (fun t => (t.calls, t.answer.isOk)) = [(2, true), (1, false)] ∧
    (assistedRun busyService {} (· == 2) routes {} {}).2.polls = 3 ∧
    (∃ s, result.1 = .error s ∧ s.message = "Generation cancelled after 2 of 3 routes") ∧
    KeepsSchedule {} 3 (turns.take 2) {} result.2 := by
  intro routes turns result
  have horderly : isOrderly result.1 = true := by decide +kernel
  obtain ⟨hpolls, ⟨s, hs, -, hmessage⟩, hkeeps⟩ :=
    (assistedDocument_schedule busyService {} (· == 2) routes {} {} horderly).2.2.1 2 (by decide)
      (by decide) rfl
  exact ⟨horderly, by decide +kernel, hpolls, ⟨s, hs, hmessage.trans (by decide +kernel)⟩, hkeeps⟩

end RouteAtlas
