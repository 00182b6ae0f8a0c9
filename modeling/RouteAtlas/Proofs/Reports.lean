import Mathlib.Data.Set.Card
import RouteAtlas.Proofs.Requirements
import RouteAtlas.Proofs.Sequences

/-!
# Checks report what is violated

A check of good practice adds to an outcome or breaks down. `Reports` says of a check on which data it
comes to an end, and that the errors which it then adds are those of the violated requirements, each
once and in order, **whatever the outcome was before**. There is one rule for two checks in sequence
(`Reports.andThen`), where the second has to be about later requirements, and one for a list of checks
(`reports_inOrder`); the laws of the checks follow the way they are composed.

`reports_checkDocument` is the law of whole documents. `exists_checkDocument_iff` says it as one
statement: the checks come to an end on exactly the readable documents, and then there are as many new
errors as violated requirements.
-/

namespace RouteAtlas

namespace Checks

/-! ### What checks add -/

/-- An outcome after errors were added to it, and perhaps warnings. -/
structure Adds (issues : List Issue) (r r' : ValidationResult) : Prop where
  errors : r'.errors = r.errors ++ issues
  isValid : r'.isValid = (r.isValid && issues.isEmpty)
  warnings : r.warnings <+: r'.warnings

theorem Adds.refl (r : ValidationResult) : Adds [] r r :=
  ⟨(List.append_nil _).symm, (Bool.and_true _).symm, List.prefix_rfl⟩

theorem Adds.trans {issues issues' : List Issue} {r r' r'' : ValidationResult}
    (h : Adds issues r r') (h' : Adds issues' r' r'') : Adds (issues ++ issues') r r'' where
  errors := by rw [h'.errors, h.errors, List.append_assoc]
  isValid := by
    rw [h'.isValid, h.isValid, Bool.and_assoc]
    cases issues <;> rfl
  warnings := h.warnings.trans h'.warnings

/-- The check comes to an end exactly if a condition holds, and then it adds the errors that are seen
at requirements, in their order. -/
def Reports (c : Check) (isRead : Prop) (Sees : Requirement → Issue → Prop) : Prop :=
  ∀ r, (isRead → ∃ r' issues, c r = .ok r' ∧ Adds issues r r' ∧
      InOrder Requirement.Precedes Sees issues) ∧
    (¬isRead → ∃ f, c r = .error f)

section Reports

variable {c c' : Check} {isRead isRead' : Prop} {Sees Sees' : Requirement → Issue → Prop}

theorem Reports.congr (h : Reports c isRead Sees) (hread : isRead' ↔ isRead)
    (hsees : isRead → ∀ q e, Sees' q e ↔ Sees q e) : Reports c isRead' Sees' := by
  intro r
  rw [hread]
  refine ⟨fun hr => ?_, (h r).2⟩
  obtain ⟨r', issues, hrun, hadds, horder⟩ := (h r).1 hr
  exact ⟨r', issues, hrun, hadds, horder.congr (hsees hr)⟩

/-- A check that breaks down. -/
theorem reports_error {f : Fault} (h : ∀ r, c r = .error f) (hread : ¬isRead) :
    Reports c isRead Sees :=
  fun r => ⟨fun hr => absurd hr hread, fun _ => ⟨f, h r⟩⟩

/-- A check that adds no errors. -/
theorem reports_nothing (h : ∀ r, ∃ r', c r = .ok r' ∧ Adds [] r r') :
    Reports c True fun _ _ => False := by
  intro r
  obtain ⟨r', hrun, hadds⟩ := h r
  exact ⟨fun _ => ⟨r', [], hrun, hadds, inOrder_nil fun _ _ => not_false⟩, fun hno => absurd trivial hno⟩

theorem adds_warningIf (b : Bool) (message path : String) (suggestion : Option String)
    (r : ValidationResult) : Adds [] r (warningIf b message path suggestion r) := by
  rw [warningIf]
  split_ifs
  · exact ⟨(List.append_nil _).symm, (Bool.and_true _).symm, List.prefix_append _ _⟩
  · exact .refl r

theorem reports_warningIf (b : Bool) (message path : String) (suggestion : Option String) :
    Reports (fun r => .ok (warningIf b message path suggestion r)) True fun _ _ => False :=
  reports_nothing fun r => ⟨_, rfl, adds_warningIf b message path suggestion r⟩

/-- An error on a condition is about one requirement. -/
theorem reports_errorIf (q : Requirement) (b : Bool) (message path : String) :
    Reports (fun r => .ok (errorIf b message path r)) True
      fun p e => p = q ∧ b = true ∧ e = ⟨message, some path, none⟩ := by
  intro r
  refine ⟨fun _ => ?_, fun hno => absurd trivial hno⟩
  cases b with
  | false => exact ⟨_, [], rfl, .refl r, inOrder_nil (by simp)⟩
  | true =>
    let e : Issue := ⟨message, some path, none⟩
    refine ⟨_, [e], rfl, ⟨rfl, (Bool.and_false _).symm, List.prefix_rfl⟩, ?_⟩
    exact (inOrder_option q (some e)).congr fun p e' => by simp [e, eq_comm]

/-- Two checks in sequence, of which the second is about later requirements. -/
theorem Reports.andThen (h : Reports c isRead Sees) (h' : Reports c' isRead' Sees')
    (hlater : ∀ p s q t, Sees p s → Sees' q t → p.Precedes q) :
    Reports (fun r => c r >>= c') (isRead ∧ isRead') fun q e => Sees q e ∨ Sees' q e := by
  intro r
  by_cases hr : isRead
  · obtain ⟨r₁, issues, hrun, hadds, horder⟩ := (h r).1 hr
    simp only [hrun, hr, true_and]
    refine ⟨fun hr' => ?_, (h' r₁).2⟩
    obtain ⟨r₂, issues', hrun', hadds', horder'⟩ := (h' r₁).1 hr'
    exact ⟨r₂, issues ++ issues', hrun', hadds.trans hadds', horder.append horder' hlater⟩
  · obtain ⟨f, hrun⟩ := (h r).2 hr
    simp only [hrun, hr, false_and, false_implies, true_and, not_false_eq_true]
    exact fun _ => ⟨f, rfl⟩

/-- A check of something that has to be read first. -/
theorem Reports.read {α : Type} {x : Except Fault α} {check : α → Check} {isRead : α → Prop}
    {Sees : α → Requirement → Issue → Prop} (h : ∀ a, x = .ok a → Reports (check a) (isRead a) (Sees a)) :
    Reports (fun r => x >>= fun a => check a r) (∃ a, x = .ok a ∧ isRead a)
      fun q e => ∃ a, x = .ok a ∧ Sees a q e := by
  cases x with
  | error f => exact reports_error (fun r => rfl) (by simp)
  | ok a => exact (h a rfl).congr (by simp) (by simp)

/-- A check behind one that adds no errors. -/
theorem Reports.afterNone (h : Reports c isRead fun _ _ => False) (h' : Reports c' isRead' Sees') :
    Reports (fun r => c r >>= c') (isRead ∧ isRead') Sees' :=
  (h.andThen h' fun _ _ _ _ hp => hp.elim).congr Iff.rfl fun _ _ _ => by rw [false_or]

/-- A check in front of one that adds no errors. -/
theorem Reports.beforeNone (h : Reports c isRead Sees) (h' : Reports c' isRead' fun _ _ => False) :
    Reports (fun r => c r >>= c') (isRead ∧ isRead') Sees :=
  (h.andThen h' fun _ _ _ _ _ hq => hq.elim).congr Iff.rfl fun _ _ _ => by rw [or_false]

/-- Checks of the entries of a list, one after the other. -/
theorem reports_inOrder {α : Type} {check : α → Check} {as : List α} {isRead : α → Prop}
    (Sees : Nat → α → Requirement → Issue → Prop)
    (h : ∀ i a, as[i]? = some a → Reports (check a) (isRead a) (Sees i a))
    (hlater : ∀ i j a b, i < j → as[i]? = some a → as[j]? = some b →
      ∀ p s q t, Sees i a p s → Sees j b q t → p.Precedes q) :
    Reports (inOrder check as) (∀ a ∈ as, isRead a)
      fun q e => ∃ i a, as[i]? = some a ∧ Sees i a q e := by
  induction as generalizing Sees with
  | nil => exact (reports_nothing fun r => ⟨r, rfl, .refl r⟩).congr (by simp) (by simp)
  | cons a as ih =>
    have hrest := ih (fun i => Sees (i + 1)) (fun i b hb => h (i + 1) b hb)
      fun i j b b' hij hb hb' => hlater (i + 1) (j + 1) b b' (Nat.add_lt_add_right hij 1) hb hb'
    refine ((h 0 a rfl).andThen hrest ?_).congr List.forall_mem_cons fun _ q e => ?_
    · rintro p s q t hp ⟨j, b, hb, hq⟩
      exact hlater 0 (j + 1) a b (Nat.succ_pos j) rfl hb p s q t hp hq
    · constructor
      · rintro ⟨i, b, hb, hsees⟩
        cases i with
        | zero =>
          obtain rfl : a = b := Option.some.inj hb
          exact .inl hsees
        | succ i => exact .inr ⟨i, b, hb, hsees⟩
      · rintro (hsees | ⟨i, b, hb, hsees⟩)
        · exact ⟨0, a, rfl, hsees⟩
        · exact ⟨i + 1, b, hb, hsees⟩

end Reports

/-! ### Parameters -/

section Operation

variable {path : Nat} {m : Method} {place : String}

/-- The requirement of a part of a parameter, and the error if it is missing. -/
def SeesPart (path : Nat) (m : Method) (place : String) (index : Nat) (parameter : Members)
    (part : ParameterPart) (q : Requirement) (e : Issue) : Prop :=
  q = .parameter path m index part ∧ part.isMissing parameter = true ∧ e = part.issue place index

/-- What is seen at a value in the place of a parameter. -/
def SeesParameter (path : Nat) (m : Method) (place : String) (index : Nat) (v : Value)
    (q : Requirement) (e : Issue) : Prop :=
  ∃ parameter part, v = .map parameter ∧ SeesPart path m place index parameter part q e

/-- The check of one part of a parameter. -/
def checkPart (place : String) (index : Nat) (parameter : Members) (part : ParameterPart) : Check :=
  fun r => .ok (errorIf (part.isMissing parameter) (part.message ++ place)
    ("/paths/" ++ place ++ "/parameters/" ++ Text.decimal index) r)

theorem reports_checkPart (index : Nat) (parameter : Members) (part : ParameterPart) :
    Reports (checkPart place index parameter part) True
      (SeesPart path m place index parameter part) :=
  reports_errorIf (.parameter path m index part) _ _ _

theorem SeesPart.precedes {index : Nat} {parameter : Members} {a b : ParameterPart}
    (hab : a.position < b.position) (p : Requirement) (s : Issue) (q : Requirement) (t : Issue)
    (hp : SeesPart path m place index parameter a p s)
    (hq : SeesPart path m place index parameter b q t) : p.Precedes q := by
  obtain ⟨rfl, -, -⟩ := hp
  obtain ⟨rfl, -, -⟩ := hq
  simpa [Requirement.Precedes, Requirement.position, List.cons_lt_cons_iff] using hab

/-- A parameter is checked part by part. -/
theorem checkParameter_map (index : Nat) (parameter : Members) :
    checkParameter place index (.map parameter) = fun r =>
      checkPart place index parameter .name r >>= fun r =>
      checkPart place index parameter .location r >>= fun r =>
      checkPart place index parameter .schema r := by
  funext r
  simp only [checkPart, ParameterPart.isMissing, ← truthy_getD_find?]
  rfl

theorem reports_checkParameter (index : Nat) (v : Value) :
    Reports (checkParameter place index v) (∃ parameter, v = .map parameter)
      (SeesParameter path m place index v) := by
  cases v with
  | map parameter =>
    have hpart (part : ParameterPart) : Reports (checkPart place index parameter part) True
        (SeesPart path m place index parameter part) := reports_checkPart index parameter part
    rw [checkParameter_map]
    refine ((hpart .name).andThen ((hpart .location).andThen (hpart .schema)
      (SeesPart.precedes (by decide))) ?_).congr (by simp) fun _ q e => ?_
    · rintro p s q t hp (hq | hq)
      · exact SeesPart.precedes (by decide) p s q t hp hq
      · exact SeesPart.precedes (by decide) p s q t hp hq
    · constructor
      · rintro ⟨_, part, hv, hsees⟩
        obtain rfl := Value.map.inj hv
        cases part
        · exact .inl hsees
        · exact .inr (.inl hsees)
        · exact .inr (.inr hsees)
      · rintro (hsees | hsees | hsees) <;> exact ⟨parameter, _, rfl, hsees⟩
  | _ => exact reports_error (fun r => rfl) (by simp)

theorem checkParameters_eq_inOrder (n : Nat) (vs : List Value) :
    checkParameters place n vs =
      inOrder (fun v : Value × Nat => checkParameter place v.2 v.1) (vs.zipIdx n) := by
  funext r
  induction vs generalizing n r with
  | nil => rfl
  | cons v vs ih =>
    rw [checkParameters, List.zipIdx_cons, inOrder]
    simp only [ih]

theorem reports_checkParameters (path : Nat) (m : Method) (vs : List Value) :
    Reports (checkParameters place 0 vs) (∀ v ∈ vs, ∃ parameter, v = .map parameter)
      fun q e => ∃ index v, vs[index]? = some v ∧ SeesParameter path m place index v q e := by
  rw [checkParameters_eq_inOrder]
  refine (reports_inOrder (fun _ v => SeesParameter path m place v.2 v.1)
    (fun i v _ => reports_checkParameter v.2 v.1) ?_).congr ?_ fun _ q e => ?_
  · rintro i j ⟨v, n⟩ ⟨w, k⟩ hij hv hw p s q t ⟨-, part, -, rfl, -⟩ ⟨-, part', -, rfl, -⟩
    rw [List.getElem?_zipIdx, Option.map_eq_some_iff] at hv hw
    obtain ⟨_, -, hv⟩ := hv
    obtain ⟨_, -, hw⟩ := hw
    obtain ⟨-, rfl⟩ := Prod.mk.inj hv
    obtain ⟨-, rfl⟩ := Prod.mk.inj hw
    simp [Requirement.Precedes, Requirement.position, List.cons_lt_cons_iff, hij]
  · conv_lhs => rw [← List.zipIdx_map_fst 0 vs, List.forall_mem_map]
  · simp only [List.getElem?_zipIdx, Option.map_eq_some_iff]
    constructor
    · rintro ⟨index, v, hv, hsees⟩
      exact ⟨index, (v, index), ⟨v, hv, by rw [Nat.zero_add]⟩, hsees⟩
    · rintro ⟨i, _, ⟨v, hv, rfl⟩, hsees⟩
      exact ⟨i, v, hv, by simpa using hsees⟩

theorem iterate_eq_nil_of_not_truthy {v : Value} {items : List Value} (h : v.truthy = false)
    (hitems : v.iterate = .ok items) : items = [] := by
  cases v with
  | scalar s =>
    cases s with
    | text s =>
      obtain rfl : s = "" := by simpa [Value.truthy, Scalar.truthy] using h
      exact (Except.ok.inj hitems).symm
    | bytes b =>
      obtain rfl : b = [] := by simpa [Value.truthy, Scalar.truthy] using h
      exact (Except.ok.inj hitems).symm
    | _ => cases hitems
  | pair a b => cases h
  | _ xs =>
    obtain rfl : xs = [] := by simpa [Value.truthy] using h
    exact (Except.ok.inj hitems).symm

/-- A condition on a member that counts as true, and the same on what is found under its name. -/
theorem forall_truthy_find?_iff {ms : Members} {name : String} {P : Value → Prop} :
    (∀ v, Members.find? ms name = some v → v.truthy = true → P v) ↔
      (((Members.find? ms name).getD .null).truthy = true → P ((Members.find? ms name).getD .null)) := by
  cases Members.find? ms name with
  | none => simp [Value.truthy, Scalar.truthy]
  | some v => simp

/-! ### Operations -/

theorem reports_checkResponses (path : Nat) (m : Method) (v : Value) :
    Reports (checkResponses place v) (v.truthy = true → ∃ codes, v.iterate = .ok codes) fun q e =>
      q = .response path m ∧ v.truthy = false ∧ e = missingResponse place := by
  cases hv : v.truthy with
  | false =>
    have hrun : checkResponses place v = fun r => .ok (errorIf true
        ("Operation must have at least one response: " ++ place)
        ("/paths/" ++ place ++ "/responses") r) := by
      funext r
      simp [checkResponses, hv, pure, Except.pure]
    have herror := reports_errorIf (.response path m) true
      ("Operation must have at least one response: " ++ place) ("/paths/" ++ place ++ "/responses")
    rw [hrun]
    exact herror.congr (by simp) fun _ _ _ =>
      and_congr_right fun _ => and_congr_left fun _ => iff_of_true rfl rfl
  | true =>
    have hrun : checkResponses place v = fun r => v.iterate >>= fun codes => .ok (warningIf
        (!codes.any isSuccess) ("Operation should have at least one success response (2xx): " ++ place)
        ("/paths/" ++ place ++ "/responses") (some "Add a 200 or 201 response") r) := by
      funext r
      simp [checkResponses, hv, pure, Except.pure]
    rw [hrun]
    refine (Reports.read fun codes _ => reports_warningIf (!codes.any isSuccess) _ _ _).congr
      (by simp) fun _ _ _ => by simp

/-- The items of the parameters of an operation, none if the parameters are empty. -/
def parameterItems (operation : Members) : Except Fault (List Value) :=
  let parameters := (Members.find? operation "parameters").getD .null
  if parameters.truthy then parameters.iterate else .ok []

theorem hasParameter_iff {operation parameter : Members} {index : Nat} :
    HasParameter operation index parameter ↔
      ∃ items, parameterItems operation = .ok items ∧ items[index]? = some (.map parameter) := by
  rw [parameterItems, HasParameter]
  cases Members.find? operation "parameters" with
  | none => simp [Value.truthy, Scalar.truthy]
  | some v =>
    cases hv : v.truthy with
    | true => simp [hv]
    | false =>
      simp only [Option.some.injEq, exists_and_left, exists_eq_left', Option.getD_some, hv,
        Bool.false_eq_true, if_false, Except.ok.injEq, List.getElem?_nil, reduceCtorEq, iff_false,
        not_exists, not_and]
      intro items hitems
      simp [iterate_eq_nil_of_not_truthy hv hitems]

theorem isReadableOperation_iff {operation : Members} : IsReadableOperation operation ↔
    (((Members.find? operation "responses").getD .null).truthy = true →
      ∃ codes, ((Members.find? operation "responses").getD .null).iterate = .ok codes) ∧
    ∃ items, parameterItems operation = .ok items ∧ ∀ v ∈ items, ∃ parameter, v = .map parameter := by
  have hitems : (∀ v, Members.find? operation "parameters" = some v → v.truthy = true →
      ∃ items, v.iterate = .ok items ∧ ∀ p ∈ items, ∃ ms, p = .map ms) ↔
      ∃ items, parameterItems operation = .ok items ∧
        ∀ v ∈ items, ∃ parameter, v = .map parameter := by
    rw [forall_truthy_find?_iff, parameterItems]
    split_ifs with htruthy <;> simp [htruthy]
  rw [← hitems, ← forall_truthy_find?_iff (P := fun v => ∃ codes, v.iterate = .ok codes)]
  exact ⟨fun h => ⟨h.responses, h.parameters⟩, fun h => ⟨h.1, h.2⟩⟩

theorem reports_checkOperation (path : Nat) (m : Method) (v : Value) :
    Reports (checkOperation place v) (∃ operation, v = .map operation ∧ IsReadableOperation operation)
      fun q e => ∃ operation, v = .map operation ∧ OperationViolates path m place operation q e := by
  cases v with
  | map operation =>
    have hrun : checkOperation place (.map operation) = fun r =>
        (.ok (warningIf (!((Members.find? operation "summary").getD .null).truthy &&
            !((Members.find? operation "description").getD .null).truthy)
          ("Operation should have summary or description: " ++ place) ("/paths/" ++ place)
          (some "Add summary or description to document the endpoint") r)) >>= fun r =>
        checkResponses place ((Members.find? operation "responses").getD .null) r >>= fun r =>
        parameterItems operation >>= fun items => checkParameters place 0 items r := by
      funext r
      simp only [checkOperation, Value.member, parameterItems, bind, Except.bind]
      cases ((Members.find? operation "parameters").getD .null).truthy <;> rfl
    rw [hrun]
    refine ((reports_warningIf _ _ _ _).afterNone ((reports_checkResponses path m _).andThen
      (Reports.read fun items _ => reports_checkParameters path m items) ?_)).congr ?_
      fun hread q e => ?_
    · rintro p s q t ⟨rfl, -⟩ ⟨items, -, index, v, -, parameter, part, -, rfl, -⟩
      simp [Requirement.Precedes, Requirement.position, List.cons_lt_cons_iff]
    · simp [isReadableOperation_iff]
    · -- What the two laws see is what the operation violates, once absent members are read as empty.
      constructor
      · rintro ⟨_, hv, hsees⟩
        obtain rfl := Value.map.inj hv
        cases hsees with
        | response h => exact .inl ⟨rfl, by rwa [truthy_getD_find?], rfl⟩
        | parameter hparameter h =>
          obtain ⟨items, hitems, hindex⟩ := hasParameter_iff.mp hparameter
          exact .inr ⟨items, hitems, _, _, hindex, _, _, rfl, rfl, h, rfl⟩
      · rintro (⟨rfl, h, rfl⟩ | ⟨items, hitems, index, v, hindex, parameter, part, rfl, rfl, h, rfl⟩)
        · exact ⟨operation, rfl, .response (by rwa [truthy_getD_find?] at h)⟩
        · exact ⟨operation, rfl, .parameter (hasParameter_iff.mpr ⟨items, hitems, hindex⟩) h⟩
  | _ => exact reports_error (fun r => rfl) (by simp)

theorem OperationViolates.exists_position {operation : Members} {q : Requirement} {e : Issue}
    (h : OperationViolates path m place operation q e) :
    ∃ rest, q.position = 3 :: path :: Method.all.idxOf m :: rest := by
  cases h <;> exact ⟨_, rfl⟩

end Operation

/-! ### Paths -/

theorem inOrder_map {α β : Type} (f : α → β) (check : β → Check) (as : List α) :
    inOrder check (as.map f) = inOrder (fun a => check (f a)) as := by
  funext r
  induction as generalizing r with
  | nil => rfl
  | cons a as ih =>
    rw [List.map_cons, inOrder, inOrder]
    simp only [ih]

theorem idxOf_of_getElem?_all {i : Nat} {m : Method} (h : Method.all[i]? = some m) :
    Method.all.idxOf m = i := by
  obtain ⟨hi, rfl⟩ := List.getElem?_eq_some_iff.mp h
  exact List.Nodup.idxOf_getElem (by decide) i hi

/-- What is seen at the operations of a path item. -/
def SeesItem (path : Nat) (key : Scalar) (item : Members) (q : Requirement) (e : Issue) : Prop :=
  ∃ m operation, Members.find? item (Method.key m) = some (.map operation) ∧ operation ≠ [] ∧
    OperationViolates path m (placeOf key m) operation q e

/-- The check of what a path item has under the name of a method. -/
def checkMethod (key : Scalar) (item : Members) (m : Method) : Check := fun r =>
  match Members.find? item m.key with
  | some operation =>
    if operation.truthy then checkOperation (placeOf key m) operation r else .ok r
  | none => .ok r

theorem reports_checkMethod (path : Nat) (key : Scalar) (item : Members) (m : Method) :
    Reports (checkMethod key item m)
      (∀ v, Members.find? item m.key = some v → v.truthy = true →
        ∃ operation, v = .map operation ∧ IsReadableOperation operation)
      fun q e => ∃ operation, Members.find? item m.key = some (.map operation) ∧ operation ≠ [] ∧
        OperationViolates path m (placeOf key m) operation q e := by
  unfold checkMethod
  cases hfind : Members.find? item m.key with
  | none => exact (reports_nothing fun r => ⟨r, rfl, .refl r⟩).congr (by simp) (by simp)
  | some v =>
    cases hv : v.truthy with
    | false =>
      -- An operation without members is passed over, and it has no requirements.
      refine (reports_nothing fun r => ⟨r, by simp [hv], .refl r⟩).congr (by simp [hv])
        fun _ q e => ?_
      simp only [Option.some.injEq, iff_false, not_exists, not_and]
      rintro operation rfl hne
      simp [Value.truthy, hne] at hv
    | true =>
      simp only [hv, if_true]
      refine (reports_checkOperation path m v).congr (by simp [hv]) fun _ q e => ?_
      simp only [Option.some.injEq]
      refine exists_congr fun operation => and_congr_right fun hoperation => ?_
      subst hoperation
      exact and_iff_right (by simpa [Value.truthy] using hv)

theorem checkMethods_eq_inOrder (key : Scalar) (item : Members) :
    checkMethods key.display item = inOrder (checkMethod key item) Method.all :=
  inOrder_map Method.key _ Method.all

theorem mem_methods (m : Method) : m ∈ Method.all := by cases m <;> decide

theorem reports_checkMethods (path : Nat) (key : Scalar) (item : Members) :
    Reports (checkMethods key.display item) (IsReadableItem item) (SeesItem path key item) := by
  rw [checkMethods_eq_inOrder]
  refine (reports_inOrder _ (fun _ m _ => reports_checkMethod path key item m) ?_).congr ?_
    fun _ q e => ?_
  · -- Methods come in the order in which they are tried.
    rintro i j m m' hij hm hm' p s q t ⟨_, -, -, hp⟩ ⟨_, -, -, hq⟩
    obtain ⟨rest, hp⟩ := hp.exists_position
    obtain ⟨rest', hq⟩ := hq.exists_position
    rw [Requirement.Precedes, hp, hq, idxOf_of_getElem?_all hm, idxOf_of_getElem?_all hm']
    simp [List.cons_lt_cons_iff, hij]
  · exact ⟨fun h m _ => h m, fun h m => h m (mem_methods m)⟩
  · constructor
    · rintro ⟨m, hsees⟩
      obtain ⟨i, hi⟩ := List.getElem?_of_mem (mem_methods m)
      exact ⟨i, m, hi, hsees⟩
    · rintro ⟨i, m, -, hsees⟩
      exact ⟨m, hsees⟩

theorem reports_checkPath (path : Nat) (entry : Scalar × Value) :
    Reports (checkPath entry) (∀ item, entry.2 = .map item → IsReadableItem item)
      fun q e => ∃ item, entry.2 = .map item ∧ SeesItem path entry.1 item q e := by
  obtain ⟨key, v⟩ := entry
  have hunrooted := reports_warningIf (!Text.beginsWith key.display "/")
    ("Path should start with /: " ++ key.display) ("/paths/" ++ key.display) none
  cases v with
  | map item =>
    exact (hunrooted.afterNone (reports_checkMethods path key item)).congr (by simp) (by simp)
  | _ => exact hunrooted.congr (by simp) (by simp)

/-- What is seen at the operations of all paths. -/
def SeesPaths (v : Value) (q : Requirement) (e : Issue) : Prop :=
  ∃ paths path key item, v = .map paths ∧ paths[path]? = some (key, .map item) ∧
    SeesItem path key item q e

theorem reports_checkPaths (v : Value) :
    Reports (checkPaths v)
      (v.truthy = true → ∃ paths, v = .map paths ∧
        ∀ key item, (key, .map item) ∈ paths → IsReadableItem item)
      (SeesPaths v) := by
  cases hv : v.truthy with
  | false =>
    have hrun : checkPaths v = fun r => .ok (warningIf true "No paths defined in the document" "/paths"
        (some "Add at least one API endpoint") r) := by
      funext r
      simp [checkPaths, hv, pure, Except.pure]
    rw [hrun]
    refine (reports_warningIf _ _ _ _).congr (by simp) fun _ q e => ?_
    -- Without paths there are no operations to be seen.
    rw [iff_false]
    rintro ⟨paths, path, key, item, rfl, hpath, -⟩
    obtain rfl : paths = [] := by simpa [Value.truthy] using hv
    cases hpath
  | true =>
    have hrun : checkPaths v = fun r => v.membersFor "items" >>= fun paths =>
        inOrder checkPath paths r := by
      funext r
      simp only [checkPaths, hv, Bool.not_true, Bool.false_eq_true, if_false]
    rw [hrun]
    cases v with
    | map paths =>
      refine (reports_inOrder _ (fun path entry _ => reports_checkPath path entry) ?_).congr ?_
        fun _ q e => ?_
      · rintro i j a b hij - - p s q t ⟨_, -, _, _, -, -, hp⟩ ⟨_, -, _, _, -, -, hq⟩
        obtain ⟨rest, hp⟩ := hp.exists_position
        obtain ⟨rest', hq⟩ := hq.exists_position
        rw [Requirement.Precedes, hp, hq]
        simp [List.cons_lt_cons_iff, hij]
      · constructor
        · rintro h ⟨key, _⟩ hentry item rfl
          obtain ⟨_, hpaths, hread⟩ := h rfl
          obtain rfl := Value.map.inj hpaths
          exact hread key item hentry
        · exact fun h _ => ⟨paths, rfl, fun key item hentry => h (key, .map item) hentry item rfl⟩
      · constructor
        · rintro ⟨_, path, key, item, hpaths, hpath, hsees⟩
          obtain rfl := Value.map.inj hpaths
          exact ⟨path, (key, .map item), hpath, item, rfl, hsees⟩
        · rintro ⟨path, ⟨key, _⟩, hpath, item, rfl, hsees⟩
          exact ⟨paths, path, key, item, rfl, hpath, hsees⟩
    | _ => exact reports_error (fun r => rfl) (by simp)

/-! ### Documents -/

/-- A description that is missing or empty is reported as a whole. -/
theorem reports_checkInfo_of_not_truthy {v : Value} (hv : v.truthy = false) :
    Reports (checkInfo v) True (DescriptionViolates v) := by
  have hrun : checkInfo v = fun r =>
      .ok (errorIf true "Missing required field: info" "/info" r) := by
    funext r
    simp [checkInfo, hv, pure, Except.pure]
  rw [hrun]
  refine (reports_errorIf .info _ _ _).congr Iff.rfl fun _ q e => ?_
  constructor
  · intro hsees
    cases hsees with
    | info => exact ⟨rfl, rfl, rfl⟩
    | title hinfo hne => simp [hinfo, Value.truthy, hne] at hv
    | version hinfo hne => simp [hinfo, Value.truthy, hne] at hv
  · rintro ⟨rfl, -, rfl⟩
    exact .info hv

/-- A description with members is searched for its title, and then for its version. -/
theorem reports_checkInfo_map {info : Members} (hne : info ≠ []) :
    Reports (checkInfo (.map info)) True (DescriptionViolates (.map info)) := by
  have htruthy : (Value.map info).truthy = true := by simpa [Value.truthy] using hne
  have hrun : checkInfo (.map info) = fun r =>
      (.ok (errorIf (!isFilled info "title") "Missing required field: info.title" "/info/title" r))
        >>= fun r => .ok (errorIf (!isFilled info "version") "Missing required field: info.version"
          "/info/version" r) := by
    funext r
    simp only [checkInfo, htruthy, ← truthy_getD_find?]
    rfl
  rw [hrun]
  refine ((reports_errorIf .title _ _ _).andThen (reports_errorIf .version _ _ _) ?_).congr
    (by simp) fun _ q e => ?_
  · rintro p s q t ⟨rfl, -⟩ ⟨rfl, -⟩
    simp [Requirement.Precedes, Requirement.position, List.cons_lt_cons_iff]
  · constructor
    · intro hsees
      cases hsees with
      | info h => exact absurd htruthy (by simp [h])
      | title hinfo _ h => exact .inl ⟨rfl, by rw [Value.map.inj hinfo, h]; rfl, rfl⟩
      | version hinfo _ h => exact .inr ⟨rfl, by rw [Value.map.inj hinfo, h]; rfl, rfl⟩
    · rintro (⟨rfl, h, rfl⟩ | ⟨rfl, h, rfl⟩)
      · exact .title rfl hne (by simpa using h)
      · exact .version rfl hne (by simpa using h)

theorem reports_checkInfo (v : Value) :
    Reports (checkInfo v) (v.truthy = true → ∃ info, v = .map info) (DescriptionViolates v) := by
  cases hv : v.truthy with
  | false => exact (reports_checkInfo_of_not_truthy hv).congr (by simp) fun _ _ _ => Iff.rfl
  | true =>
    cases v with
    | map info =>
      have hne : info ≠ [] := by simpa [Value.truthy] using hv
      exact (reports_checkInfo_map hne).congr (by simp) fun _ _ _ => Iff.rfl
    | _ => exact reports_error (fun r => by rw [checkInfo, hv]; rfl) (by simp)

theorem exists_isEmptyCollection_iff {v : Value} :
    (∃ b, isEmptyCollection v = .ok b) ↔ (v ≠ .null → ∃ n, v.length = .ok n) := by
  by_cases hv : v = .null
  · subst hv
    simp [isEmptyCollection]
  · have hlength : isEmptyCollection v = v.length.map (· == 0) := by
      rw [isEmptyCollection.eq_def]
      split
      · exact absurd rfl hv
      · rfl
    rw [hlength]
    cases v.length <;> simp [hv, Except.map]

/-- A warning about a part without items. -/
theorem reports_emptyCollection (v : Value) (message path : String) (suggestion : Option String) :
    Reports
      (fun r => isEmptyCollection v >>= fun b => .ok (warningIf b message path suggestion r))
      (v ≠ .null → ∃ n, v.length = .ok n) fun _ _ => False :=
  (Reports.read fun b _ => reports_warningIf b message path suggestion).congr
    (by simp [← exists_isEmptyCollection_iff]) (by simp)

/-- A condition on a member that is there and not the absent value, and the same on what is found
under its name. -/
theorem forall_ne_null_find?_iff {ms : Members} {name : String} {P : Value → Prop} :
    (∀ v, Members.find? ms name = some v → v ≠ .null → P v) ↔
      ((Members.find? ms name).getD .null ≠ .null → P ((Members.find? ms name).getD .null)) := by
  cases Members.find? ms name <;> simp

theorem member_of_not_map {v : Value} (h : ¬∃ ms, v = .map ms) (name : String) :
    v.member name = .error (.noAttribute v.kind "get") := by
  cases v with
  | map ms => exact absurd ⟨ms, rfl⟩ h
  | _ => rfl

theorem getD_find?_eq_map_iff {ms inner : Members} {name : String} :
    (Members.find? ms name).getD .null = .map inner ↔ Members.find? ms name = some (.map inner) := by
  cases Members.find? ms name <;> simp

/-- The violated requirements are those of the description and those of the paths. -/
theorem violates_iff {document : Members} {q : Requirement} {e : Issue} :
    Violates document q e ↔
      DescriptionViolates ((Members.find? document "info").getD .null) q e ∨
        SeesPaths ((Members.find? document "paths").getD .null) q e := by
  constructor
  · rintro (h | ⟨hoperation, h⟩)
    · exact .inl h
    · obtain ⟨paths, key, item, hpaths, hpath, hfind, hne, rfl⟩ := hoperation
      exact .inr ⟨paths, _, key, item, getD_find?_eq_map_iff.mpr hpaths, hpath, _, _, hfind, hne, h⟩
  · rintro (h | ⟨paths, path, key, item, hpaths, hpath, m, operation, hfind, hne, h⟩)
    · exact .description h
    · exact .operation ⟨paths, key, item, getD_find?_eq_map_iff.mp hpaths, hpath, hfind, hne, rfl⟩ h

theorem isReadable_iff {document : Members} :
    IsReadable document ↔
      IsMapAt document "info" ∧
      (((Members.find? document "paths").getD .null).truthy = true →
        ∃ paths, (Members.find? document "paths").getD .null = .map paths ∧
          ∀ key item, (key, .map item) ∈ paths → IsReadableItem item) ∧
      IsSizedAt document "tags" ∧ IsMapAt document "components" ∧
      ∀ components, Members.find? document "components" = some (.map components) →
        IsSizedAt components "schemas" := by
  rw [← forall_truthy_find?_iff (P := fun v => ∃ paths, v = .map paths ∧
    ∀ key item, (key, .map item) ∈ paths → IsReadableItem item)]
  constructor
  · rintro ⟨hinfo, hpaths, hitems, htags, hcomponents, hschemas⟩
    refine ⟨hinfo, fun v hv htruthy => ?_, htags, hcomponents, hschemas⟩
    obtain ⟨paths, rfl⟩ := hpaths v hv htruthy
    exact ⟨paths, rfl, fun key item => hitems paths key item hv⟩
  · rintro ⟨hinfo, hpaths, htags, hcomponents, hschemas⟩
    refine ⟨hinfo, fun v hv htruthy => ?_, fun paths key item hv hentry => ?_, htags, hcomponents,
      hschemas⟩
    · obtain ⟨paths, rfl, -⟩ := hpaths v hv htruthy
      exact ⟨paths, rfl⟩
    · have hne : (Value.map paths).truthy = true := by
        simpa [Value.truthy] using List.ne_nil_of_mem hentry
      obtain ⟨_, hmap, hread⟩ := hpaths _ hv hne
      obtain rfl := Value.map.inj hmap
      exact hread key item hentry

/-- The warning about schemas, which are looked for in the components only if there are any. -/
theorem reports_checkSchemas (v : Value) (message path : String) (suggestion : Option String) :
    Reports
      (fun r => (v.orElse (.map [])).member "schemas" >>= fun schemas =>
        isEmptyCollection schemas >>= fun b => .ok (warningIf b message path suggestion r))
      ((v.truthy = true → ∃ components, v = .map components) ∧
        ∀ components, v = .map components → IsSizedAt components "schemas") fun _ _ => False := by
  refine (Reports.read fun schemas _ =>
    reports_emptyCollection schemas message path suggestion).congr ?_ (by simp)
  -- Components that are no map are harmless if they are empty, since an empty map is read instead.
  by_cases hmap : ∃ components, v = .map components
  · obtain ⟨components, rfl⟩ := hmap
    have hmember : ((Value.map components).orElse (.map [])).member "schemas" =
        .ok ((Members.find? components "schemas").getD .null) := by
      cases components <;> rfl
    simp [hmember, IsSizedAt, forall_ne_null_find?_iff]
  · have hmember : (v.orElse (.map [])).member "schemas" =
        if v.truthy then .error (.noAttribute v.kind "get") else .ok .null := by
      rw [Value.orElse]
      split_ifs
      · exact member_of_not_map hmap "schemas"
      · rfl
    rw [hmember]
    split_ifs with htruthy
    · exact iff_of_false (fun h => hmap (h.1 htruthy)) (by simp)
    · exact iff_of_true ⟨fun h => absurd h htruthy, fun components hv => absurd ⟨components, hv⟩ hmap⟩
        ⟨.null, rfl, fun hne => absurd rfl hne⟩

/-- **What the checks report**: they come to an end on exactly the readable documents, and the errors
they add are those of the violated requirements, in order. -/
theorem reports_checkDocument (document : Members) :
    Reports (checkDocument (.map document)) (IsReadable document) (Violates document) := by
  have hrun : checkDocument (.map document) = fun r =>
      (.ok (warningIf (!isThirdSeries ((Members.find? document "openapi").getD .null))
        "OpenAPI version should be 3.x" "/openapi" none r)) >>= fun r =>
      checkInfo ((Members.find? document "info").getD .null) r >>= fun r =>
      checkPaths ((Members.find? document "paths").getD .null) r >>= fun r =>
      (isEmptyCollection ((Members.find? document "tags").getD .null) >>= fun b =>
        .ok (warningIf b "Tags array is empty" "/tags"
          (some "Add tags to organize your API endpoints") r)) >>= fun r =>
      (((Members.find? document "components").getD .null).orElse (.map [])).member "schemas"
        >>= fun schemas => isEmptyCollection schemas >>= fun b => .ok (warningIf b
          "No reusable schemas defined in components" "/components/schemas"
          (some "Consider extracting common schemas to components for reusability") r) := by
    funext r
    simp only [checkDocument, Value.member, bind_assoc]
    rfl
  rw [hrun]
  -- Only the description and the paths have requirements; the other three checks add warnings.
  refine ((reports_warningIf _ _ _ _).afterNone ((reports_checkInfo _).andThen
    ((reports_checkPaths _).beforeNone ((reports_emptyCollection _ _ _ _).afterNone
      (reports_checkSchemas _ _ _ _))) ?_)).congr ?_ fun _ q e => violates_iff
  · rintro p s q t hp ⟨_, _, _, _, -, -, _, _, -, -, hq⟩
    obtain ⟨rest, hq⟩ := hq.exists_position
    rw [Requirement.Precedes, hq]
    cases hp <;> simp [Requirement.position, List.cons_lt_cons_iff]
  · simp only [isReadable_iff, IsMapAt, IsSizedAt, forall_truthy_find?_iff, forall_ne_null_find?_iff,
      getD_find?_eq_map_iff, true_and]

/-- Errors that are reported are counted by the requirements that are violated. -/
theorem length_eq_ncard_violated {document : Members} {issues : List Issue}
    (h : InOrder Requirement.Precedes (Violates document) issues) :
    issues.length = {q | ∃ e, Violates document q e}.ncard := by
  obtain ⟨requirements, hsorted, hmem, hsees⟩ := h
  have hset : {q | ∃ e, Violates document q e} = (requirements.toFinset : Set Requirement) := by
    ext q
    simp [hmem]
  have hnodup : requirements.Nodup := hsorted.imp Requirement.Precedes.ne
  rw [hset, Set.ncard_coe_finset, List.toFinset_card_of_nodup hnodup, hsees.length_eq]

theorem eq_nil_iff_violatesNothing {document : Members} {issues : List Issue}
    (h : InOrder Requirement.Precedes (Violates document) issues) :
    issues = [] ↔ ∀ q e, ¬Violates document q e := by
  obtain ⟨requirements, -, hmem, hsees⟩ := h
  have hnil : issues = [] ↔ requirements = [] := by
    rw [← List.length_eq_zero_iff, ← hsees.length_eq, List.length_eq_zero_iff]
  rw [hnil, List.eq_nil_iff_forall_not_mem]
  simp only [hmem, not_exists]

/-- **The checks report every violated requirement and nothing else.** They come to an end on exactly
the readable documents. Then the errors that they add to an outcome are those of the violated
requirements, one for each, in the order of the document; so their number is that of the violated
requirements, and there are none if and only if nothing is violated. -/
theorem exists_checkDocument_iff (document : Members) (r : ValidationResult) :
    ((∃ r', checkDocument (.map document) r = .ok r') ↔ IsReadable document) ∧
    ∀ r', checkDocument (.map document) r = .ok r' →
      ∃ issues, Adds issues r r' ∧ InOrder Requirement.Precedes (Violates document) issues ∧
        issues.length = {q | ∃ e, Violates document q e}.ncard ∧
        (r'.errors = r.errors ↔ ∀ q e, ¬Violates document q e) := by
  obtain ⟨hok, herror⟩ := reports_checkDocument document r
  have hread : (∃ r', checkDocument (.map document) r = .ok r') → IsReadable document := by
    rintro ⟨r', hr'⟩
    by_contra hno
    obtain ⟨f, hf⟩ := herror hno
    rw [hf] at hr'
    cases hr'
  refine ⟨⟨hread, fun h => ?_⟩, fun r' hr' => ?_⟩
  · obtain ⟨r', -, hrun, -, -⟩ := hok h
    exact ⟨r', hrun⟩
  · obtain ⟨_, issues, hrun, hadds, horder⟩ := hok (hread ⟨r', hr'⟩)
    obtain rfl := Except.ok.inj (hrun.symm.trans hr')
    refine ⟨issues, hadds, horder, length_eq_ncard_violated horder, ?_⟩
    rw [hadds.errors, List.append_right_eq_self, eq_nil_iff_violatesNothing horder]

/-- A document with several faults at once: an empty title, no version, no responses, and two
parameters that lack two and three parts. The second path is no map, and `trace` is no method. -/
def faultyDocument : Members :=
  [(.text "info", .object [("title", .text "")]),
    (.text "paths", .object [
      ("/a", .object [
        ("trace", .object []),
        ("get", .object [("parameters", .list [.object [("name", .text "q")], .object []])])]),
      ("/b", .int 1)]),
    (.text "tags", .text "a")]

theorem exists_checkDocument_iff_faultyDocument :
    ∃ r', checkDocument (.map faultyDocument) {} = .ok r' ∧ r'.errors.length = 8 ∧
      IsReadable faultyDocument ∧ {q | ∃ e, Violates faultyDocument q e}.ncard = 8 := by
  have hrun : ∃ r', checkDocument (.map faultyDocument) {} = .ok r' ∧ r'.errors.length = 8 :=
    ⟨_, rfl, rfl⟩
  obtain ⟨r', hr', hlength⟩ := hrun
  obtain ⟨hread, hreports⟩ := exists_checkDocument_iff faultyDocument {}
  obtain ⟨issues, hadds, -, hcount, -⟩ := hreports r' hr'
  refine ⟨r', hr', hlength, hread.mp ⟨r', hr'⟩, ?_⟩
  rw [← hcount, ← hlength, hadds.errors, List.nil_append]

end Checks

end RouteAtlas
