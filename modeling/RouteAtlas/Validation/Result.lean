import RouteAtlas.Value.Decoding

/-!
# Outcomes of validation

Errors make a document invalid, warnings do not. Each has a message and, where there is one, the
place it is about.
-/

namespace RouteAtlas

/-- An error: the document is not valid. -/
structure Issue where
  /-- The message. -/
  message : String
  /-- The place. -/
  path : Option String := none
  /-- The rule that is broken. -/
  keyword : Option String := none

/-- A warning: the document could be better. -/
structure Warning where
  /-- The message. -/
  message : String
  /-- The place. -/
  path : Option String := none
  /-- What could be done. -/
  suggestion : Option String := none

/-- The outcome of a validation. -/
structure ValidationResult where
  /-- Whether the document is valid. -/
  isValid : Bool := true
  /-- The errors. -/
  errors : List Issue := []
  /-- The warnings. -/
  warnings : List Warning := []

namespace ValidationResult

/-- Adds an error. -/
def addError (r : ValidationResult) (message : String) (path keyword : Option String) :
    ValidationResult :=
  { r with errors := r.errors ++ [⟨message, path, keyword⟩], isValid := false }

/-- Adds a warning. -/
def addWarning (r : ValidationResult) (message : String) (path suggestion : Option String) :
    ValidationResult :=
  { r with warnings := r.warnings ++ [⟨message, path, suggestion⟩] }

end ValidationResult

/-- Decodes an error. -/
def Issue.decode : Value → Decoded Issue :=
  Decode.record fun ms =>
    Issue.mk <$> Decode.field ms "message" Decode.text
      <*> Decode.fieldD ms "path" none (Decode.optional Decode.text)
      <*> Decode.fieldD ms "keyword" none (Decode.optional Decode.text)

/-- Decodes a warning. -/
def Warning.decode : Value → Decoded Warning :=
  Decode.record fun ms =>
    Warning.mk <$> Decode.field ms "message" Decode.text
      <*> Decode.fieldD ms "path" none (Decode.optional Decode.text)
      <*> Decode.fieldD ms "suggestion" none (Decode.optional Decode.text)

/-- Decodes an outcome. -/
def ValidationResult.decode : Value → Decoded ValidationResult :=
  Decode.record fun ms =>
    ValidationResult.mk <$> Decode.fieldD ms "is_valid" true Decode.truth
      <*> Decode.fieldD ms "errors" [] (Decode.list Issue.decode)
      <*> Decode.fieldD ms "warnings" [] (Decode.list Warning.decode)

end RouteAtlas
