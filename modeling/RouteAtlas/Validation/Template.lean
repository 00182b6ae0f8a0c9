import RouteAtlas.Text.Basic

/-!
# The names in a path template

A template is a text in which names stand in braces. A brace that is meant as such is written twice.
Inside the braces a name ends at a colon or an exclamation mark; what follows is passed over.
-/

namespace RouteAtlas

/-- Why a template is not well formed. -/
inductive TemplateError
  /-- A closing brace has no opening one. -/
  | loneClosing
  /-- The template ends with an opening brace. -/
  | loneOpening
  /-- A name contains an opening brace. -/
  | nested
  /-- The template ends inside a name. -/
  | unclosed
  /-- The template ends after an exclamation mark. -/
  | noConversion
  /-- After an exclamation mark there is more than one character. -/
  | longConversion
  /-- The template ends after a colon. -/
  | unclosedFormat
deriving DecidableEq

/-- The wording of a template error. -/
def TemplateError.message : TemplateError → String
  | .loneClosing => "Single '\x7d' encountered in format string"
  | .loneOpening => "Single '\x7b' encountered in format string"
  | .nested => "unexpected '\x7b' in field name"
  | .unclosed => "expected '\x7d' before end of string"
  | .noConversion => "end of string while looking for conversion specifier"
  | .longConversion => "expected ':' after conversion specifier"
  | .unclosedFormat => "unmatched '\x7b' in format spec"

namespace Template

/-- What is left of a template: literal text, the inside of a bracket within a name, a name read so
far, or a format with the number of braces that are open. -/
inductive Place
  | literal
  | name (read : List Char)
  | bracket (read : List Char)
  | conversion (name : List Char)
  | afterConversion (name : List Char)
  | format (name : List Char) (depth : Nat)

/-- Reads the names of a template. -/
def names : Place → List Char → Except TemplateError (List (List Char))
  | .literal, [] => .ok []
  | .literal, ['\x7b'] => .error .loneOpening
  | .literal, '\x7b' :: '\x7b' :: cs => names .literal cs
  | .literal, '\x7b' :: c :: cs => names (.name []) (c :: cs)
  | .literal, '\x7d' :: '\x7d' :: cs => names .literal cs
  | .literal, '\x7d' :: _ => .error .loneClosing
  | .literal, _ :: cs => names .literal cs
  | .name _, [] => .error .unclosed
  | .name read, c :: cs =>
    if c == '\x7b' then .error .nested
    else if c == '\x7d' then (names .literal cs).map (read :: ·)
    else if c == ':' then names (.format read 1) cs
    else if c == '!' then names (.conversion read) cs
    else if c == '[' then names (.bracket (read ++ [c])) cs
    else names (.name (read ++ [c])) cs
  | .bracket _, [] => .error .unclosed
  | .bracket read, c :: cs =>
    if c == ']' then names (.name (read ++ [c])) cs else names (.bracket (read ++ [c])) cs
  | .conversion _, [] => .error .noConversion
  | .conversion name, _ :: cs => names (.afterConversion name) cs
  | .afterConversion _, [] => .error .unclosedFormat
  | .afterConversion name, c :: cs =>
    if c == '\x7d' then (names .literal cs).map (name :: ·)
    else if c == ':' then names (.format name 1) cs
    else .error .longConversion
  | .format _ _, [] => .error .unclosedFormat
  | .format name depth, c :: cs =>
    if c == '\x7b' then names (.format name (depth + 1)) cs
    else if c == '\x7d' then
      if depth ≤ 1 then (names .literal cs).map (name :: ·) else names (.format name (depth - 1)) cs
    else names (.format name depth) cs
termination_by _ cs => cs.length

end Template

/-- The names in a template, without empty ones. -/
def templateNames (template : String) : Except TemplateError (List String) :=
  (Template.names .literal template.toList).map fun names =>
    (names.map String.ofList).filter (· != "")

end RouteAtlas
