import RouteAtlas.Value.Basic

/-!
# Requests to the completion service

A `Client` holds the settings that all requests of a session share. A `Request` is one question to
the model; `Request.toValue` lists its arguments in the order in which they are sent.
-/

namespace RouteAtlas

/-- The model that is asked if none is named. -/
def defaultModel : String := "openrouter/google/gemma-3-12b-it:free"

/-- The settings of a session. -/
structure Client where
  /-- The key that the service asks for; absent or empty means none. -/
  apiKey : Value := .null
  /-- The model; absent or empty means the default one. -/
  model : Value := .null
  /-- The address of the service; absent or empty means the usual one. -/
  apiBase : Value := .null
  /-- How many seconds to wait for an answer. -/
  timeout : Value := .float 60.0

/-- The model that a client asks. -/
def Client.chosenModel (c : Client) : Value :=
  if c.model.truthy then c.model else .text defaultModel

/-- One question to the model. -/
structure Request where
  /-- Who asks. -/
  client : Client
  /-- The question. -/
  content : String
  /-- The largest number of tokens of the answer; without one the sampling is left to the
  service. -/
  maxTokens : Option Nat

namespace Request

/-- How freely the model may choose its words. -/
def temperature : Float := 0.2

/-- An argument that is left out where it does not count as true. -/
def optionalArgument (name : String) (v : Value) : List (String × Value) :=
  if v.truthy then [(name, v)] else []

/-- The arguments that limit the answer. -/
def sampling (maxTokens : Option Nat) : List (String × Value) :=
  match maxTokens with
  | none => []
  | some n => [("temperature", .float temperature), ("max_tokens", .int n)]

/-- The arguments of a request. The service itself never retries. -/
def toValue (r : Request) : Value :=
  .object ([("model", r.client.chosenModel),
    ("messages", .list [.object [("role", .text "user"), ("content", .text r.content)]]),
    ("timeout", r.client.timeout),
    ("num_retries", .int 0)] ++ sampling r.maxTokens ++
    optionalArgument "api_key" r.client.apiKey ++ optionalArgument "api_base" r.client.apiBase)

end Request

end RouteAtlas
