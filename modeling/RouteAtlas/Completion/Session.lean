import RouteAtlas.Completion.Failure
import RouteAtlas.Completion.Fence
import RouteAtlas.Completion.Prompt
import RouteAtlas.Completion.Request
import RouteAtlas.Console

/-!
# Talking to the completion service

A `Service` says what each transport call comes to, by the number of the call. A `Log` records what a
session did: its requests, its pauses and what it printed. `persist` sends a request and, after a
failure that may pass, sends it again after one, two and four seconds. `askModel` makes one text of a
reply: the content of the first choice without the fences around it.
-/

namespace RouteAtlas

/-- What a transport call comes to. -/
inductive Reply
  /-- An answer: the contents of its choices. -/
  | answered (contents : List (Option String))
  /-- A failure. -/
  | failed (failure : Failure)

/-- The content of the first choice; an empty content counts as none. -/
def Reply.content? : Reply → Option String
  | .answered (some text :: _) => if text == "" then none else some text
  | _ => none

/-- What each transport call comes to, by the number of the call. -/
abbrev Service := Nat → Reply

/-- A pause. -/
inductive Pause
  /-- Before the retry of the given number, counted from zero. -/
  | backoff (retry : Nat)
  /-- Between two routes. -/
  | spacing
deriving DecidableEq

/-- The whole seconds before a retry, which double each time. -/
def backoffSeconds (retry : Nat) : Nat := Nat.pow 2 retry

/-- The length of a pause in seconds. -/
def Pause.seconds : Pause → Value
  | .backoff n => .int (backoffSeconds n)
  | .spacing => .float 0.5

/-- What a session did. -/
structure Log where
  /-- The requests, in order. -/
  requests : List Request := []
  /-- The pauses, in order. -/
  pauses : List Pause := []
  /-- What was printed. -/
  console : Console := {}

namespace Log

/-- Prints a line for the user. -/
def say (log : Log) (line : String) : Log := { log with console := log.console.say line }

/-- Prints a line about a problem. -/
def warn (log : Log) (line : String) : Log := { log with console := log.console.warn line }

/-- Pauses. -/
def pause (log : Log) (p : Pause) : Log := { log with pauses := log.pauses ++ [p] }

end Log

/-! ### Sending -/

/-- Sends a request once. -/
def send (service : Service) (request : Request) (log : Log) : Reply × Log :=
  (service log.requests.length, { log with requests := log.requests ++ [request] })

/-- How often a request is sent again. -/
def maxRetries : Nat := 3

/-- The line before a retry. -/
def retryLine (retry : Nat) : String :=
  "  Request failed, retrying in " ++ Text.decimal (backoffSeconds retry) ++ "s (" ++
    Text.decimal (retry + 1) ++ "/" ++ Text.decimal maxRetries ++ ")..."

/-- Sends a request, again as long as the failure may pass and retries are left. -/
def persist (service : Service) (request : Request) (left : Nat) (log : Log) : Reply × Log :=
  match send service request log, left with
  | (.failed f, log), left + 1 =>
    if f.retryable then
      let retry := maxRetries - (left + 1)
      persist service request left ((log.warn (retryLine retry)).pause (.backoff retry))
    else (.failed f, log)
  | (reply, log), _ => (reply, log)

/-! ### Asking -/

/-- What every question starts with. -/
def preamble : String :=
  "You are an expert API documentation assistant.\n" ++
    "Generate clear, accurate OpenAPI 3.1 documentation."

/-- The message for an answer without content. -/
def emptyResponse : String := "Empty response from AI model"

/-- The line about what a first look at a reply finds. -/
def flawsLine (flaws : List ReplyFlaw) : String :=
  "  AI response validation warnings: " ++ Text.join "; " (flaws.map ReplyFlaw.message)

/-- Takes the text out of the content of a reply and looks at it once. The clock of a session stands
still, so no time passes between question and answer. -/
def acceptContent (content : String) (log : Log) : String × Log :=
  let log := log.say "  Documentation generated in 0.0s"
  let text := unfence content
  let flaws := checkReply text
  (text, if flaws.isEmpty then log else log.warn (flawsLine flaws))

/-- Asks the model a question. -/
def askModel (service : Service) (client : Client) (prompt : String) (maxTokens : Nat) (log : Log) :
    Except CompletionError String × Log :=
  let request : Request := ⟨client, preamble ++ "\n\n" ++ prompt, some maxTokens⟩
  let (reply, log) := persist service request maxRetries log
  match reply with
  | .failed f => (.error f.report, log)
  | reply =>
    match reply.content? with
    | none => (.error ⟨emptyResponse, .null⟩, log)
    | some content =>
      let (text, log) := acceptContent content log
      (.ok text, log)

/-- Asks for the documentation of a route. -/
def describeRoute (service : Service) (client : Client) (route : Route) (snippet : Option String)
    (log : Log) : Except CompletionError String × Log :=
  askModel service client (Prompt.forRoute route snippet) 2000
    (log.say ("  Generating documentation for " ++ route.method ++ " " ++ route.path))

/-- Asks for the documentation of several routes at once. -/
def describeRoutes (service : Service) (client : Client) (routes : List Route) (log : Log) :
    Except CompletionError String × Log :=
  askModel service client (Prompt.forRoutes routes) 4000
    (log.say ("  Generating documentation for " ++ Text.decimal routes.length ++ " routes"))

/-- Whether the model answers at all. -/
def testConnection (service : Service) (client : Client) (log : Log) : Bool × Log :=
  match send service ⟨client, "Say hello in one word", none⟩ log with
  | (.failed f, log) => (false, log.warn ("  Connection test failed: " ++ f.report.message))
  | (reply, log) => (reply.content?.isSome, log)

end RouteAtlas
