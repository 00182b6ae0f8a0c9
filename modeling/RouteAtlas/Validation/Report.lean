import RouteAtlas.Validation.Result

/-!
# Validation reports

A report lists the errors and the warnings of an outcome with their places.
-/

namespace RouteAtlas.Report

/-- A line across the page. -/
def rule : String := Text.repeated 60 "="

/-- A line below a heading. -/
def divider : String := Text.repeated 60 "-"

/-- A line for a detail that may be missing. -/
def detail (label : String) : Option String → List String
  | none => []
  | some s => if s == "" then [] else ["   " ++ label ++ ": " ++ s]

/-- The lines of numbered entries: message, details, an empty line. -/
def entries : Nat → List (String × List String) → List String
  | _, [] => []
  | n, (message, details) :: rest =>
    (Text.decimal n ++ ". " ++ message) :: details ++ "" :: entries (n + 1) rest

/-- A section with a heading and numbered entries; nothing if there are none. -/
def entrySection (heading : String) (es : List (String × List String)) : List String :=
  if es.isEmpty then []
  else
    [heading ++ " (" ++ Text.decimal es.length ++ "):", divider] ++ entries 1 es

/-- The lines of a report. -/
def lines (r : ValidationResult) : List String :=
  [rule, "OPENAPI VALIDATION REPORT", rule, "",
    "Status: " ++ (if r.isValid then "VALID" else "INVALID"), ""] ++
  entrySection "ERRORS" (r.errors.map fun e =>
    (e.message, detail "Path" e.path ++ detail "Keyword" e.keyword)) ++
  entrySection "WARNINGS" (r.warnings.map fun w =>
    (w.message, detail "Path" w.path ++ detail "Suggestion" w.suggestion)) ++
  (if r.errors.isEmpty && r.warnings.isEmpty then
    ["No errors or warnings found!", "Your OpenAPI document is perfectly valid.", ""]
  else []) ++
  [rule]

/-- The text of a report. -/
def render (r : ValidationResult) : String :=
  Text.join "\n" (lines r) ++ "\n"

end RouteAtlas.Report
