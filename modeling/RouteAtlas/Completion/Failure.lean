import RouteAtlas.Value.Display

/-!
# Failures of the completion service

A request can fail without an answer, with a status, or for reasons of its own. `Failure.report`
turns every failure into a `CompletionError`, whose message may be shown to a user, and
`Failure.retryable` says whether asking again may help: after a refusal for too many requests and
after an error of the server.
-/

namespace RouteAtlas

/-- A reported failure: a message and the status, `null` where there is none. -/
structure CompletionError where
  /-- The message. -/
  message : String
  /-- The status code, if a response had arrived. -/
  status : Value

/-- Why a request failed. -/
inductive Failure
  /-- No answer came: the request timed out or no connection was made. -/
  | network
  /-- The failure had been reported before. -/
  | reported (error : CompletionError)
  /-- Any other failure, with its text, its message if it has one, and its status if it has
  one. -/
  | other (text : String) (message status : Value)

/-- The status of a failure, as a number. Truth values count as numbers. -/
def statusNumber? : Value → Option Int
  | .scalar (.int n) => some n
  | .scalar (.bool b) => some (if b then 1 else 0)
  | _ => none

namespace Failure

/-- The status of a failure. A failure without an answer has none. -/
def status? : Failure → Option Int
  | .network => none
  | .reported e => statusNumber? e.status
  | .other _ _ status => statusNumber? status

/-- Whether asking again may help. -/
def retryable (f : Failure) : Bool :=
  match f.status? with
  | some n => n == 429 || 500 ≤ n
  | none => false

/-- The message for failures without an answer. -/
def networkMessage : String :=
  "Network error. Please check your internet connection."

/-- The message of a failure with a given status. -/
def statusMessage (status : Int) (detail : String) : String :=
  if status == 400 then "Bad Request: " ++ detail
  else if status == 401 then "Invalid API key. Please check your API key."
  else if status == 429 then "Rate limit exceeded. Please try again later."
  else if status == 500 || status == 502 || status == 503 || status == 504 then
    "Completion service server error (" ++ Text.integer status ++ "). Please try again."
  else "API error: " ++ detail

/-- The report of a failure. -/
def report : Failure → CompletionError
  | .network => ⟨networkMessage, .null⟩
  | .reported e => e
  | .other text message status =>
    let detail := if message.truthy then message.display else text
    match statusNumber? status with
    | none => ⟨"Unexpected error: " ++ detail, .null⟩
    | some n => ⟨statusMessage n detail, status⟩

end Failure

end RouteAtlas
