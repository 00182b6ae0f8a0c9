import RouteAtlas.Completion.Session
import RouteAtlas.Document.Fragment
import RouteAtlas.Generation.Quick

/-!
# Documents with the help of a model

`assistedDocument` asks the model about one route after the other. Where the model fails, or what it
wrote cannot be used, a route is described by what is known about it. Before each route the run may
be cancelled, and after each answer but the last it pauses.
-/

namespace RouteAtlas

/-- Why a run stops early. -/
inductive Stop
  /-- It was cancelled after some of the routes. -/
  | cancelled (done total : Nat)
  /-- The document could not be changed. -/
  | fault (f : Fault)
  /-- What the model wrote could not be read. -/
  | unreadable (e : Yaml.LoadError)

/-- The wording of a stop. -/
def Stop.message : Stop → String
  | .cancelled done total =>
    "Generation cancelled after " ++ Text.decimal done ++ " of " ++ Text.decimal total ++ " routes"
  | .fault f => f.message
  | .unreadable e => e.message

/-- How far a run has come. -/
structure Progress where
  /-- The document so far. -/
  document : Document
  /-- What the session did. -/
  log : Log := {}
  /-- How often it was asked whether to cancel. -/
  polls : Nat := 0

/-- A run that may stop early. -/
abbrev Run (α : Type) := ExceptT Stop (StateM Progress) α

namespace Run

/-- Changes the document. -/
def edit (e : Edit Unit) : Run Unit := do
  let p ← get
  let (result, document) := p.document.apply e
  set { p with document := document }
  match result with
  | .ok _ => return
  | .error f => throw (.fault f)

/-- Changes the log. -/
def record (change : Log → Log) : Run Unit :=
  modify fun p => { p with log := change p.log }

/-- Asks whether to cancel. The answers are given by the number of the question. -/
def poll (cancelled : Nat → Bool) : Run Bool := do
  let p ← get
  set { p with polls := p.polls + 1 }
  return cancelled p.polls

/-- Talks to the completion service. -/
def talk {α : Type} (session : Log → α × Log) : Run α := do
  let p ← get
  let (a, log) := session p.log
  set { p with log := log }
  return a

/-- Adds what the model wrote about a route. -/
def merge (route : Route) (text : String) : Run Unit := do
  match readFragment text with
  | .error e => throw (.unreadable e)
  | .ok fragment =>
    record fun log =>
      { log with console := Document.fragmentConsole route fragment log.console }
    edit (Document.addFragment route fragment)

/-- The line about a route that the model said nothing about. -/
def failureLine (route : Route) (e : CompletionError) : String :=
  "  Failed to generate AI docs for " ++ route.method ++ " " ++ route.path ++ " (" ++ e.message ++
    "), using fallback"

/-- The line at the start of each route. -/
def progressLine (number total : Nat) (route : Route) : String :=
  "Processing route " ++ Text.decimal number ++ "/" ++ Text.decimal total ++ ": " ++ route.method ++
    " " ++ route.path

/-- Describes the route of a number, after the model has answered or failed. A pause follows an
answer about any route but the last. -/
def heed (total number : Nat) (route : Route) : Except CompletionError String → Run Unit
  | .error e => do
    record (·.warn (failureLine route e))
    edit (Document.addRoutes [route])
  | .ok text => do
    merge route text
    if number < total then record (·.pause .spacing)

/-- Describes the route of a number, counted from one. -/
def visit (service : Service) (client : Client) (cancelled : Nat → Bool) (total number : Nat)
    (route : Route) : Run Unit := do
  if ← poll cancelled then throw (.cancelled (number - 1) total)
  record (·.say (progressLine number total route))
  let answer ← talk (describeRoute service client route none)
  heed total number route answer

/-- Describes routes, of which the first has the given number. -/
def visitAll (service : Service) (client : Client) (cancelled : Nat → Bool) (total : Nat) :
    Nat → List Route → Run Unit
  | _, [] => return
  | number, r :: rs => do
    visit service client cancelled total number r
    visitAll service client cancelled total (number + 1) rs

end Run

/-- The description of documents made with a model. -/
def assistedDescription : String := "Auto-generated API documentation using AI"

/-- The document of routes, with the help of a model. -/
def assistedDocument (service : Service) (client : Client) (cancelled : Nat → Bool)
    (routes : List Route) (heading : Heading) (log : Log) : Except Stop Document × Log :=
  let steps : Run Unit := do
    Run.visitAll service client cancelled routes.length 1 routes
    Run.edit (Document.conclude heading.server)
  let empty := Document.new heading.title heading.version (.text assistedDescription)
  match steps.run { document := empty, log := log } with
  | (.ok _, p) => (.ok p.document, p.log)
  | (.error s, p) => (.error s, p.log)

end RouteAtlas
