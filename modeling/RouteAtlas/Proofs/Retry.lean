import Mathlib.Data.ENat.Lattice
import RouteAtlas.Completion.Session

/-!
# Asking again

How often a request is sent, how long the pauses are and what a question comes to are all decided by
one number: the first index `k` at which the outcomes of the transport are **final**, an answer or a
failure that will not pass. `k` may be infinite. `FollowsRetryProtocol` states the law in these terms
and `followsRetryProtocol_describe` proves it of questions about one route and about several.

The loop counts the retries that are left instead. `retriesWithin` is the number of retries it makes,
by recursion on that count, and `persist_eq` says that the loop does nothing else: it is one
statement about calls, pauses and outcome, proved by one induction. `coe_retriesWithin` then ties
the number to `k`.
-/

namespace RouteAtlas

/-! ### Final outcomes -/

/-- Whether an outcome ends the attempts: an answer, or a failure that will not pass. -/
def Reply.isFinal : Reply → Bool
  | .answered _ => true
  | .failed f => !f.retryable

open Classical in
/-- The first index at which outcomes are final, infinite if there is none. -/
noncomputable def firstFinal (outcomes : Nat → Reply) : ℕ∞ :=
  if h : ∃ i, (outcomes i).isFinal = true then (Nat.find h : ℕ∞) else ⊤

/-- The outcomes that a session has still ahead of it. -/
def Service.from (service : Service) (log : Log) : Nat → Reply :=
  fun i => service (log.requests.length + i)

/-- The number of retries of a request that may be sent again a given number of times. -/
def retriesWithin : Nat → (Nat → Reply) → Nat
  | 0, _ => 0
  | left + 1, outcomes =>
    if (outcomes 0).isFinal then 0 else retriesWithin left (fun i => outcomes (i + 1)) + 1

theorem retriesWithin_le (left : Nat) (outcomes : Nat → Reply) :
    retriesWithin left outcomes ≤ left := by
  induction left generalizing outcomes with
  | zero => exact Nat.le_refl 0
  | succ left ih =>
    rw [retriesWithin]
    split_ifs
    · exact Nat.zero_le _
    · exact Nat.succ_le_succ (ih _)

/-- A request is only sent again after an outcome that is not final. -/
theorem isFinal_eq_false_of_lt_retriesWithin {left i : Nat} {outcomes : Nat → Reply}
    (h : i < retriesWithin left outcomes) : (outcomes i).isFinal = false := by
  induction left generalizing outcomes i with
  | zero => exact absurd h (Nat.not_lt_zero i)
  | succ left ih =>
    rw [retriesWithin] at h
    split_ifs at h with hfinal
    · exact absurd h (Nat.not_lt_zero i)
    · cases i with
      | zero => exact Bool.eq_false_iff.mpr hfinal
      | succ i => exact @ih i (fun i => outcomes (i + 1)) (Nat.lt_of_succ_lt_succ h)

/-- Only a final outcome ends the attempts early. -/
theorem isFinal_retriesWithin {left : Nat} {outcomes : Nat → Reply}
    (h : retriesWithin left outcomes < left) :
    (outcomes (retriesWithin left outcomes)).isFinal = true := by
  induction left generalizing outcomes with
  | zero => exact absurd h (Nat.not_lt_zero _)
  | succ left ih =>
    rw [retriesWithin] at h ⊢
    split_ifs at h ⊢ with hfinal
    · exact hfinal
    · exact ih (Nat.lt_of_succ_lt_succ h)

/-- **The number of retries** is the first final index, but at most the number allowed. -/
theorem coe_retriesWithin (left : Nat) (outcomes : Nat → Reply) :
    (retriesWithin left outcomes : ℕ∞) = min (firstFinal outcomes) left := by
  have hbefore : ∀ i < retriesWithin left outcomes, ¬(outcomes i).isFinal = true := fun i hi =>
    Bool.eq_false_iff.mp (isFinal_eq_false_of_lt_retriesWithin hi)
  rcases Nat.lt_or_ge (retriesWithin left outcomes) left with hlt | hge
  · -- Retries are left, so the last outcome is final, and it is the first that is.
    have hfinal := isFinal_retriesWithin hlt
    have hex : ∃ i, (outcomes i).isFinal = true := ⟨_, hfinal⟩
    have hfind : Nat.find hex = retriesWithin left outcomes :=
      (Nat.find_eq_iff hex).mpr ⟨hfinal, hbefore⟩
    rw [firstFinal, dif_pos hex, hfind]
    exact (min_eq_left (by exact_mod_cast hlt.le)).symm
  · -- All retries are used up, so nothing is final before the last call.
    have heq : retriesWithin left outcomes = left := Nat.le_antisymm (retriesWithin_le ..) hge
    rw [heq] at hbefore ⊢
    refine (min_eq_right ?_).symm
    rw [firstFinal]
    split_ifs with hex
    · exact_mod_cast (Nat.le_find_iff hex left).mpr hbefore
    · exact le_top

/-! ### The loop -/

section Loop

variable (service : Service) (request : Request)

theorem send_eq (log : Log) : send service request log =
    (service.from log 0, { log with requests := log.requests ++ [request] }) := rfl

/-- No retries are left. -/
theorem persist_zero (log : Log) : persist service request 0 log = send service request log := by
  rw [persist.eq_def, send_eq]
  cases service.from log 0 <;> rfl

/-- A final outcome is kept. -/
theorem persist_of_isFinal (left : Nat) {log : Log} (h : (service.from log 0).isFinal = true) :
    persist service request left log = send service request log := by
  rw [persist.eq_def, send_eq]
  cases ho : service.from log 0 with
  | answered contents => rfl
  | failed f =>
    rw [ho, Reply.isFinal, Bool.not_eq_true'] at h
    cases left with
    | zero => rfl
    | succ left => simp [h]

/-- After an outcome that is not final the request is sent again. -/
theorem persist_of_not_isFinal (left : Nat) {log : Log}
    (h : (service.from log 0).isFinal = false) :
    persist service request (left + 1) log =
      persist service request left
        { requests := log.requests ++ [request]
          pauses := log.pauses ++ [.backoff (maxRetries - (left + 1))]
          console := log.console.warn (retryLine (maxRetries - (left + 1))) } := by
  rw [persist.eq_def, send_eq]
  cases ho : service.from log 0 with
  | answered contents => rw [ho] at h; cases h
  | failed f =>
    rw [ho, Reply.isFinal, Bool.not_eq_false'] at h
    simp only [h, if_true]
    rfl

/-- After one more request the outcomes ahead are those behind the first. -/
theorem Service.from_sent (log : Log) {log' : Log} (h : log'.requests = log.requests ++ [request]) :
    service.from log' = fun i => service.from log (i + 1) := by
  funext i
  rw [Service.from, Service.from, h, List.length_append, List.length_singleton, Nat.add_assoc,
    Nat.add_comm 1 i]

/-- **What the loop does**: as many calls as retries and one more, all with the same request, a
pause before each retry, and the outcome of the last call. What it prints is left open. -/
theorem persist_eq {left : Nat} (hleft : left ≤ maxRetries) (log : Log) :
    ∃ console, persist service request left log =
      (service.from log (retriesWithin left (service.from log)),
        { requests := log.requests ++
            List.replicate (retriesWithin left (service.from log) + 1) request
          pauses := log.pauses ++ (List.range' (maxRetries - left)
            (retriesWithin left (service.from log))).map .backoff
          console := console }) := by
  induction left generalizing log with
  | zero =>
    refine ⟨log.console, ?_⟩
    rw [persist_zero, send_eq, retriesWithin]
    simp
  | succ left ih =>
    cases hfinal : (service.from log 0).isFinal with
    | true =>
      refine ⟨log.console, ?_⟩
      rw [persist_of_isFinal service request _ hfinal, send_eq, retriesWithin, if_pos hfinal]
      simp
    | false =>
      -- The first pause is written here; the pauses of the rest are counted from one later.
      obtain ⟨console, hrest⟩ := ih (Nat.le_of_succ_le hleft)
        { requests := log.requests ++ [request]
          pauses := log.pauses ++ [.backoff (maxRetries - (left + 1))]
          console := log.console.warn (retryLine (maxRetries - (left + 1))) }
      have hnext : maxRetries - left = maxRetries - (left + 1) + 1 := by omega
      refine ⟨console, ?_⟩
      rw [persist_of_not_isFinal service request left hfinal, hrest,
        Service.from_sent service request log rfl, retriesWithin,
        if_neg (by simp [hfinal])]
      simp only [List.append_assoc, List.replicate_succ, List.range'_succ, hnext, List.map_cons,
        List.nil_append, List.cons_append]

end Loop

/-! ### Questions -/

/-- The request that asks about a route. -/
def routeRequest (client : Client) (route : Route) (snippet : Option String) : Request :=
  ⟨client, preamble ++ "\n\n" ++ Prompt.forRoute route snippet, some 2000⟩

/-- The request that asks about several routes. -/
def routesRequest (client : Client) (routes : List Route) : Request :=
  ⟨client, preamble ++ "\n\n" ++ Prompt.forRoutes routes, some 4000⟩

/-- The status that the report of a failure has to carry: that of the failure if it is a number, and
none if no answer came. A failure that had been reported keeps its own. -/
def Failure.carriedStatus : Failure → Value
  | .network => .null
  | .reported e => e.status
  | .other _ _ status => if (statusNumber? status).isSome then status else .null

/-- The law of a question that comes to `result` in a session with the history `log`. -/
structure FollowsRetryProtocol (service : Service) (request : Request) (log : Log) (calls : Nat)
    (result : Except CompletionError String × Log) : Prop where
  /-- The number of calls is decided by the first final outcome. -/
  calls_eq : (calls : ℕ∞) = min (firstFinal (service.from log)) 3 + 1
  /-- All calls are made with the same arguments. -/
  requests_eq : result.2.requests = log.requests ++ List.replicate calls request
  /-- Between two calls there is a pause, and pauses double. -/
  pauses_eq : ∃ pauses, result.2.pauses = log.pauses ++ pauses ∧
    pauses.map Pause.seconds = (List.range (calls - 1)).map fun i => .int ((2 ^ i : Nat) : Int)
  /-- An answer whose first choice has a content comes to that content without its fences. -/
  answered : ∀ text rest, service.from log (calls - 1) = .answered (some text :: rest) →
    text ≠ "" → result.1 = .ok (unfence text)
  /-- An answer without content is an error without a status. -/
  unanswered : ∀ contents, service.from log (calls - 1) = .answered contents →
    (∀ text rest, contents = some text :: rest → text = "") →
    result.1 = .error ⟨"Empty response from AI model", .null⟩
  /-- A failure is reported, and the report carries its status. -/
  failed : ∀ f, service.from log (calls - 1) = .failed f →
    result.1 = .error f.report ∧ f.report.status = f.carriedStatus ∧
      statusNumber? f.report.status = f.status?

theorem Failure.report_status (f : Failure) : f.report.status = f.carriedStatus := by
  cases f with
  | network => rfl
  | reported e => rfl
  | other text message status =>
    rw [report, carriedStatus]
    cases statusNumber? status <;> rfl

theorem Failure.statusNumber?_report (f : Failure) : statusNumber? f.report.status = f.status? := by
  rw [report_status]
  cases f with
  | network => rfl
  | reported e => rfl
  | other text message status =>
    rw [carriedStatus, status?]
    cases h : statusNumber? status with
    | none => rfl
    | some n => exact h

/-- What the outcome of the last call comes to. -/
def Reply.verdict : Reply → Except CompletionError String
  | .failed f => .error f.report
  | reply =>
    match reply.content? with
    | none => .error ⟨emptyResponse, .null⟩
    | some content => .ok (unfence content)

/-- Taking the text out of a content only prints. -/
theorem exists_acceptContent_eq (content : String) (log : Log) :
    ∃ console, acceptContent content log = (unfence content, { log with console := console }) := by
  rw [acceptContent]
  split_ifs
  · exact ⟨_, rfl⟩
  · exact ⟨_, rfl⟩

/-- Behind the loop a question only prints. -/
theorem askModel_of_persist {service : Service} {client : Client} {prompt : String}
    {maxTokens : Nat} {log log' : Log} {reply : Reply}
    (h : persist service ⟨client, preamble ++ "\n\n" ++ prompt, some maxTokens⟩ maxRetries log =
      (reply, log')) :
    ∃ console, askModel service client prompt maxTokens log =
      (reply.verdict, { log' with console := console }) := by
  simp only [askModel, h]
  cases reply with
  | failed f => exact ⟨log'.console, rfl⟩
  | answered contents =>
    simp only [Reply.verdict]
    cases (Reply.answered contents).content? with
    | none => exact ⟨log'.console, rfl⟩
    | some content =>
      obtain ⟨console, haccept⟩ := exists_acceptContent_eq content log'
      exact ⟨console, by simp only [haccept]⟩

/-- **What a question does**: what the loop does, and a verdict on the outcome of its last call. -/
theorem askModel_eq (service : Service) (client : Client) (prompt : String) (maxTokens : Nat)
    (log : Log) :
    ∃ console, askModel service client prompt maxTokens log =
      ((service.from log (retriesWithin maxRetries (service.from log))).verdict,
        { requests := log.requests ++
            List.replicate (retriesWithin maxRetries (service.from log) + 1)
              ⟨client, preamble ++ "\n\n" ++ prompt, some maxTokens⟩
          pauses := log.pauses ++
            (List.range (retriesWithin maxRetries (service.from log))).map .backoff
          console := console }) := by
  obtain ⟨console, hloop⟩ := persist_eq service
    ⟨client, preamble ++ "\n\n" ++ prompt, some maxTokens⟩ (Nat.le_refl maxRetries) log
  rw [Nat.sub_self, ← List.range_eq_range'] at hloop
  exact askModel_of_persist hloop

/-- A question about which a line is printed first follows the protocol. -/
theorem followsRetryProtocol_askModel (service : Service) (client : Client) (prompt line : String)
    (maxTokens : Nat) (log : Log) :
    ∃ calls, FollowsRetryProtocol service ⟨client, preamble ++ "\n\n" ++ prompt, some maxTokens⟩ log
      calls (askModel service client prompt maxTokens (log.say line)) := by
  obtain ⟨console, hask⟩ := askModel_eq service client prompt maxTokens (log.say line)
  -- A printed line sends nothing, so the outcomes ahead are the same.
  have hahead : service.from (log.say line) = service.from log := rfl
  rw [hahead] at hask
  refine ⟨retriesWithin maxRetries (service.from log) + 1, ?_⟩
  rw [hask]
  refine ⟨?_, rfl, ⟨_, rfl, ?_⟩, ?_, ?_, ?_⟩
  · rw [Nat.cast_add, coe_retriesWithin]
    rfl
  · rw [Nat.add_sub_cancel, List.map_map]
    rfl
  · intro text rest hreply htext
    rw [Nat.add_sub_cancel] at hreply
    simp [hreply, Reply.verdict, Reply.content?, htext]
  · intro contents hreply hempty
    rw [Nat.add_sub_cancel] at hreply
    have hnone : (Reply.answered contents).content? = none := by
      cases contents with
      | nil => rfl
      | cons c rest =>
        cases c with
        | none => rfl
        | some text => simp [Reply.content?, hempty text rest rfl]
    simp [hreply, Reply.verdict, hnone, emptyResponse]
  · intro f hreply
    rw [Nat.add_sub_cancel] at hreply
    exact ⟨by rw [hreply]; rfl, f.report_status, f.statusNumber?_report⟩

/-- **Questions follow the retry protocol**, be they about one route or about several. -/
theorem followsRetryProtocol_describe (service : Service) (client : Client) (route : Route)
    (snippet : Option String) (routes : List Route) (log : Log) :
    (∃ calls, FollowsRetryProtocol service (routeRequest client route snippet) log calls
      (describeRoute service client route snippet log)) ∧
    ∃ calls, FollowsRetryProtocol service (routesRequest client routes) log calls
      (describeRoutes service client routes log) :=
  ⟨followsRetryProtocol_askModel .., followsRetryProtocol_askModel ..⟩

end RouteAtlas
