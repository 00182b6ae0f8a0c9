import RouteAtlas.Console
import RouteAtlas.Document.Loading
import RouteAtlas.Validation.Checks
import RouteAtlas.Validation.Meaning
import RouteAtlas.Validation.Structure

/-!
# Validating documents

`validateDocument` puts together what is wrong with the structure of a document, with its meaning,
and by the checks of good practice. The first two may break down, which is one more error; if the
last one meets a part that it cannot read, the outcome is that error alone. `judge` is the part of
this that does not depend on how structure and meaning are looked at.
-/

namespace RouteAtlas

/-- What is wrong with structure and meaning of a document. -/
def documentFindings (document : Value) : Findings :=
  match document with
  | .map ms => structureFindings ms ++ Meaning.findings ms
  | v => .stop (.fault (.noAttribute v.kind "get"))

/-- Adds a finding to an outcome. -/
def ValidationResult.addFinding (r : ValidationResult) (f : Finding) : ValidationResult :=
  r.addError (if f.message == "" then "Validation error" else f.message) (some f.path) f.keyword

/-- Adds findings to an outcome. -/
def ValidationResult.addFindings (r : ValidationResult) (f : Findings) : ValidationResult :=
  let r := f.found.foldl ValidationResult.addFinding r
  match f.breakdown with
  | some b => r.addError ("Schema validation could not complete: " ++ b.display) none none
  | none => r

/-- The outcome for a document that cannot be read. -/
def ValidationResult.failed (message : String) : ValidationResult where
  isValid := false
  errors := [{ message := message }]

/-- The line that counts errors and warnings. -/
def ValidationResult.countLine (r : ValidationResult) : String :=
  "  Found " ++ Text.decimal r.errors.length ++ " errors and " ++ Text.decimal r.warnings.length ++
    " warnings"

/-- The outcome for a document in which certain things were found to be wrong: these, and what the
checks of good practice add. If the checks break down, this is the only error. -/
def judge (findings : Findings) (document : Value) (console : Console) :
    ValidationResult × Console :=
  let structural := ({} : ValidationResult).addFindings findings
  match Checks.checkDocument document structural with
  | .error f =>
    (.failed ("Validation exception: " ++ f.message),
      console.warn ("  Validation failed: " ++ f.message))
  | .ok r =>
    (r, if r.errors.isEmpty && r.warnings.isEmpty then console else console.say r.countLine)

/-- Validates a document. -/
def validateDocument (document : Value) (console : Console) : ValidationResult × Console :=
  judge (documentFindings document) document console

/-- Validates the document in a file. Failures that are not reported are handed on. -/
def validateFile (t : FileTree) (p : Path) (console : Console) :
    Except LoadFailure (ValidationResult × Console) :=
  match loadDocument t p with
  | .ok ms => .ok (validateDocument (.map ms) console)
  | .error f =>
    if f.isReported then .ok (.failed ("Failed to validate file: " ++ f.message), console)
    else .error f

end RouteAtlas
