import RouteAtlas.Proofs.Reports
import RouteAtlas.Validation.Document

/-!
# The verdict and the errors agree

A document is judged by what was found wrong with its structure and meaning and by the checks of good
practice. The verdict and the list of errors are two parts of an outcome that are set separately, and
a breakdown of the checks throws the outcome away. `IsVerdict` says what comes of it: **a document
counts as valid exactly if there are no errors**, and nothing that was found is forgiven, whether the
checks come to an end or not.

`isVerdict_judge` holds of every value, whatever was found wrong with it and wherever the search for it
broke down. Which of the two endings is taken depends on the shape of the document alone
(`Checks.IsReadable`).
-/

namespace RouteAtlas

/-- The error that reports a broken rule. -/
def Finding.issue (f : Finding) : Issue :=
  ⟨if f.message == "" then "Validation error" else f.message, some f.path, f.keyword⟩

/-- The error that reports a breakdown of a check. -/
def Breakdown.issue (b : Breakdown) : Issue :=
  ⟨"Schema validation could not complete: " ++ b.display, none, none⟩

/-- The errors that report findings: one for each broken rule, and one for the breakdown if there was
one. -/
def Findings.issues (f : Findings) : List Issue :=
  f.found.map Finding.issue ++ (f.breakdown.map Breakdown.issue).toList

/-- An outcome whose verdict agrees with its errors. -/
def ValidationResult.IsConsistent (r : ValidationResult) : Prop := r.isValid = true ↔ r.errors = []

namespace Checks

theorem adds_addError (r : ValidationResult) (message : String) (path keyword : Option String) :
    Adds [⟨message, path, keyword⟩] r (r.addError message path keyword) :=
  ⟨rfl, (Bool.and_false _).symm, List.prefix_rfl⟩

theorem adds_addFindings (r : ValidationResult) (f : Findings) :
    Adds f.issues r (r.addFindings f) := by
  have hfound : ∀ (found : List Finding) (r : ValidationResult),
      Adds (found.map Finding.issue) r (found.foldl ValidationResult.addFinding r) := by
    intro found
    induction found with
    | nil => exact Adds.refl
    | cons x found ih =>
      exact fun r => (adds_addError r _ (some x.path) x.keyword).trans (ih (r.addFinding x))
  have hrest := hfound f.found r
  rw [ValidationResult.addFindings, Findings.issues]
  cases f.breakdown with
  | none => simpa using hrest
  | some b => exact hrest.trans (adds_addError _ _ none none)

/-- Adding errors keeps verdict and errors in agreement. -/
theorem Adds.isConsistent {issues : List Issue} {r r' : ValidationResult} (h : Adds issues r r')
    (hr : r.IsConsistent) : r'.IsConsistent := by
  rw [ValidationResult.IsConsistent] at hr ⊢
  rw [h.isValid, h.errors, Bool.and_eq_true, hr, List.append_eq_nil_iff, List.isEmpty_iff]

/-- An outcome to which errors were added is not one of a valid document. -/
theorem Adds.isValid_eq_false {issues : List Issue} {r r' : ValidationResult} (h : Adds issues r r')
    (hne : issues ≠ []) : r'.isValid = false := by
  rw [h.isValid, List.isEmpty_eq_false_iff.mpr hne, Bool.and_false]

/-- The checks break down on exactly what is no readable document. -/
theorem exists_checkDocument_eq_error {document : Value}
    (h : ¬∃ d, document = .map d ∧ IsReadable d) (r : ValidationResult) :
    ∃ f, checkDocument document r = .error f := by
  cases document with
  | map d => exact (reports_checkDocument d r).2 fun hd => h ⟨d, rfl, hd⟩
  | _ => exact ⟨_, rfl⟩

end Checks

open Checks

/-- What an outcome says about a document in which certain things were found to be wrong. -/
structure IsVerdict (findings : Findings) (document : Value) (outcome : ValidationResult) : Prop where
  /-- The document counts as valid exactly if there are no errors. -/
  isConsistent : outcome.IsConsistent
  /-- What was found is not forgiven. -/
  isValid_eq_false : findings.issues ≠ [] → outcome.isValid = false
  /-- If the checks come to an end, the errors are those of the findings and then those of the
  requirements that the document violates. -/
  errors_eq : ∀ d, document = .map d → IsReadable d → ∃ issues,
    outcome.errors = findings.issues ++ issues ∧ InOrder Requirement.Precedes (Violates d) issues
  /-- If they break down, there is one error and no warning. -/
  eq_failed : (¬∃ d, document = .map d ∧ IsReadable d) → ∃ f,
    checkDocument document (({} : ValidationResult).addFindings findings) = .error f ∧
      outcome = ⟨false, [⟨"Validation exception: " ++ f.message, none, none⟩], []⟩

theorem IsVerdict.of_judge (findings : Findings) (document : Value) (console : Console) :
    IsVerdict findings document (judge findings document console).1 := by
  have hfindings := adds_addFindings {} findings
  by_cases hread : ∃ d, document = .map d ∧ IsReadable d
  · -- The checks go on from the outcome of the findings, so that both add their errors to an empty one.
    obtain ⟨d, rfl, hd⟩ := hread
    obtain ⟨r, issues, hrun, hadds, horder⟩ :=
      (reports_checkDocument d (({} : ValidationResult).addFindings findings)).1 hd
    have hall := hfindings.trans hadds
    have hjudge : (judge findings (.map d) console).1 = r := by rw [judge, hrun]
    rw [hjudge]
    refine ⟨hall.isConsistent (by simp [ValidationResult.IsConsistent]), fun hne => ?_, ?_, ?_⟩
    · exact hall.isValid_eq_false (List.append_ne_nil_of_left_ne_nil hne issues)
    · rintro _ hmap -
      obtain rfl := Value.map.inj hmap
      exact ⟨issues, hall.errors, horder⟩
    · exact fun hno => absurd ⟨d, rfl, hd⟩ hno
  · obtain ⟨f, hf⟩ := exists_checkDocument_eq_error hread (({} : ValidationResult).addFindings findings)
    have hjudge : (judge findings document console).1 =
        .failed ("Validation exception: " ++ f.message) := by rw [judge, hf]
    rw [hjudge]
    refine ⟨by simp [ValidationResult.IsConsistent, ValidationResult.failed], fun _ => rfl, ?_, ?_⟩
    · exact fun d hmap hd => absurd ⟨d, hmap, hd⟩ hread
    · exact fun _ => ⟨f, hf, rfl⟩

/-- **The verdict and the errors agree**, for every value and every account of what is wrong with its
structure and meaning. In particular this is so of the library's own account. -/
theorem isVerdict_judge (document : Value) (console : Console) :
    (∀ findings, IsVerdict findings document (judge findings document console).1) ∧
      IsVerdict (documentFindings document) document (validateDocument document console).1 :=
  ⟨fun findings => .of_judge findings document console,
    .of_judge (documentFindings document) document console⟩

end RouteAtlas
