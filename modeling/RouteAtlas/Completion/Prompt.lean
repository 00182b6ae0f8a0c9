import RouteAtlas.Route.Basic

/-!
# Prompts

What the model is asked. A prompt consists of sections separated by blank lines: who the model is,
what it has to do, what is known about the route or the routes, optionally the source of the
handler, an example of the expected answer, and the requirements on its form.
-/

namespace RouteAtlas.Prompt

/-- Who the model is. -/
def systemContext : String :=
  "You are an expert API documentation assistant specialized in generating OpenAPI " ++
    "3.1 specifications from Express.js code."

/-- What it has to do. -/
def task : String :=
  "TASK: Generate accurate OpenAPI 3.1 documentation for the following Express.js " ++
    "REST API endpoint(s)."

/-- An answer of the expected form. -/
def exampleAnswer : String := Text.join "\n" [
  "EXAMPLE OUTPUT FORMAT:",
  "",
  "```yaml",
  "/users/\x7bid\x7d:",
  "  get:",
  "    summary: Get user by ID",
  "    description: Retrieve detailed information about a specific user",
  "    operationId: getUserById",
  "    tags:",
  "      - Users",
  "    parameters:",
  "      - name: id",
  "        in: path",
  "        required: true",
  "        description: User ID",
  "        schema:",
  "          type: string",
  "    responses:",
  "      '200':",
  "        description: Successful response",
  "        content:",
  "          application/json:",
  "            schema:",
  "              type: object",
  "              properties:",
  "                id:",
  "                  type: string",
  "                name:",
  "                  type: string",
  "                email:",
  "                  type: string",
  "      '404':",
  "        description: User not found",
  "        content:",
  "          application/json:",
  "            schema:",
  "              type: object",
  "              properties:",
  "                message:",
  "                  type: string",
  "```"]

/-- What is required of the answer. -/
def requirements : String := Text.join "\n" [
  "REQUIREMENTS:",
  "1. Generate ONLY the OpenAPI path object in YAML format",
  "2. Include accurate parameter definitions with proper types",
  "3. Include all relevant response status codes (200, 201, 400, 401, 404, 500, etc.)",
  "4. Add clear descriptions for the endpoint and parameters",
  "5. Use proper OpenAPI 3.1 schema definitions",
  "6. Do NOT include any explanations, just the YAML content",
  "7. Ensure valid YAML syntax",
  "",
  "OUTPUT (YAML only):"]

/-- A fixed prompt for trying out a model. -/
def test : String := Text.join "\n" [
  "You are an API documentation expert.",
  "",
  "Generate OpenAPI 3.1 documentation for this Express route:",
  "",
  "METHOD: GET",
  "PATH: /users/:id",
  "PARAMETERS:",
  "  Path: id (string)",
  "RESPONSES:",
  "  200: Success",
  "  404: Not Found",
  "",
  "Output only valid OpenAPI 3.1 YAML for this path, no explanations."]

/-- The parameters in one location, on a line of their own. -/
def parameterLine (route : Route) (label location : String) : List String :=
  match route.parametersIn location with
  | [] => []
  | ps => ["  " ++ label ++ ": " ++
      Text.join ", " (ps.map fun p => p.name ++ " (" ++ p.dataType ++ ")")]

/-- The parameters of a route, if it has any. -/
def parameterLines (route : Route) : List String :=
  if route.parameters.isEmpty then []
  else
    "PARAMETERS:" :: (parameterLine route "Path" "path" ++ parameterLine route "Query" "query" ++
      parameterLine route "Body" "body")

/-- The middlewares of a route, if it has any. -/
def middlewareLines (route : Route) : List String :=
  if route.middlewares.isEmpty then []
  else ["MIDDLEWARES: " ++ Text.join ", " (route.middlewares.map (·.name))]

/-- The responses of a route, if it has any. -/
def responseLines (route : Route) : List String :=
  if route.responses.isEmpty then []
  else
    "RESPONSES:" ::
      route.responses.map fun r => "  " ++ Text.integer r.statusCode ++ ": " ++ r.description

/-- What is known about a route. -/
def routeInformation (route : Route) : String :=
  Text.join "\n" (["METHOD: " ++ route.method, "PATH: " ++ route.path] ++ parameterLines route ++
    middlewareLines route ++ responseLines route)

/-- The section that shows the source of a handler. -/
def snippetSection (snippet : Option String) : List String :=
  match snippet with
  | none => []
  | some code =>
    if code == "" then [] else ["CODE SNIPPET:\n```javascript\n" ++ code ++ "\n```"]

/-- The prompt for one route. -/
def forRoute (route : Route) (snippet : Option String) : String :=
  Text.join "\n\n" ([systemContext, task, routeInformation route] ++ snippetSection snippet ++
    [exampleAnswer, requirements])

/-- The information on several routes, numbered from the given number on. -/
def numbered : Nat → List Route → List String
  | _, [] => []
  | i, r :: rs => ("Route " ++ Text.decimal i ++ ":\n" ++ routeInformation r) :: numbered (i + 1) rs

/-- The prompt for several routes. -/
def forRoutes (routes : List Route) : String :=
  Text.join "\n\n" [systemContext, task, Text.join "\n\n" (numbered 1 routes), exampleAnswer,
    requirements]

end RouteAtlas.Prompt
