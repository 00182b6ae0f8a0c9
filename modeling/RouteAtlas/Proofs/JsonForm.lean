import RouteAtlas.Json.Writer
import RouteAtlas.Proofs.Fallback
import RouteAtlas.Proofs.View

/-!
# Which documents have a JSON form

Data that was read from YAML may hold what JSON has no form for: dates, bytes and sets, and dates
and bytes as keys. `Value.isJson` is the exact condition: a value can be written as JSON **if and
only if** it holds none of these (`exists_render_iff`).

The document that a run with a model comes to has a JSON form exactly if its heading and all its
operations have one (`isJson_assistedDocument_iff`). Everything else in it is text, or a schema that
was copied out of an operation, and a part of something with a JSON form has one too.
-/

namespace RouteAtlas

/-! ### The condition -/

/-- Whether a scalar has a JSON form, as a value and as a key. -/
def Scalar.isJson : Scalar → Bool
  | .date _ | .stamp _ | .bytes _ => false
  | _ => true

mutual

/-- Whether a value has a JSON form. -/
def Value.isJson : Value → Bool
  | .scalar s => s.isJson
  | .set _ => false
  | .pair a b => a.isJson && b.isJson
  | .list xs => Value.itemsAreJson xs
  | .map ms => Value.membersAreJson ms

/-- Whether the items of a list have JSON forms. -/
def Value.itemsAreJson : List Value → Bool
  | [] => true
  | x :: xs => x.isJson && Value.itemsAreJson xs

/-- Whether the members of a map have JSON forms. -/
def Value.membersAreJson : List (Scalar × Value) → Bool
  | [] => true
  | (k, v) :: ms => k.isJson && v.isJson && Value.membersAreJson ms

end

theorem Value.isJson_list_iff {xs : List Value} :
    (Value.list xs).isJson = true ↔ ∀ x ∈ xs, x.isJson = true := by
  rw [Value.isJson]
  induction xs with
  | nil => simp [Value.itemsAreJson]
  | cons x xs ih => rw [Value.itemsAreJson, Bool.and_eq_true, ih, List.forall_mem_cons]

theorem Value.isJson_map_iff {ms : Members} :
    (Value.map ms).isJson = true ↔ ∀ m ∈ ms, m.1.isJson = true ∧ m.2.isJson = true := by
  rw [Value.isJson]
  induction ms with
  | nil => simp [Value.membersAreJson]
  | cons m ms ih =>
    rw [Value.membersAreJson, Bool.and_eq_true, Bool.and_eq_true, ih, List.forall_mem_cons]

/-! ### Writing -/

namespace Json

theorem isOk_scalarText (s : Scalar) : (scalarText s).isOk = s.isJson := by
  cases s with
  | bool b => cases b <;> rfl
  | _ => rfl

theorem isOk_memberName (s : Scalar) : (memberName s).isOk = s.isJson := by
  cases s with
  | bool b => cases b <;> rfl
  | _ => rfl

mutual

/-- **Writing a value succeeds exactly if it has a JSON form.** -/
theorem isOk_write (level : Nat) (v : Value) : (write level v).isOk = v.isJson := by
  cases v with
  | scalar s => rw [write, Value.isJson, isOk_scalarText]
  | set xs => rw [write, Value.isJson]; rfl
  | pair a b =>
    rw [write, Value.isJson, ← isOk_write (level + 1) a, ← isOk_write (level + 1) b]
    cases write (level + 1) a <;> cases write (level + 1) b <;> rfl
  | list xs =>
    rw [write, Value.isJson, ← isOk_writeItems (level + 1) xs]
    cases writeItems (level + 1) xs <;> rfl
  | map ms =>
    rw [write, Value.isJson, ← isOk_writeMembers (level + 1) ms]
    cases writeMembers (level + 1) ms <;> rfl

theorem isOk_writeItems (level : Nat) (xs : List Value) :
    (writeItems level xs).isOk = Value.itemsAreJson xs := by
  cases xs with
  | nil => rw [writeItems, Value.itemsAreJson]; rfl
  | cons x xs =>
    rw [writeItems, Value.itemsAreJson, ← isOk_write level x, ← isOk_writeItems level xs]
    cases write level x <;> cases writeItems level xs <;> rfl

theorem isOk_writeMembers (level : Nat) (ms : List (Scalar × Value)) :
    (writeMembers level ms).isOk = Value.membersAreJson ms := by
  cases ms with
  | nil => rw [writeMembers, Value.membersAreJson]; rfl
  | cons m ms =>
    obtain ⟨k, v⟩ := m
    rw [writeMembers, Value.membersAreJson, ← isOk_memberName, ← isOk_write level v,
      ← isOk_writeMembers level ms]
    cases memberName k <;> cases write level v <;> cases writeMembers level ms <;> rfl

end

/-- What can be written as JSON. -/
theorem exists_render_iff {v : Value} : (∃ text, render v = .ok text) ↔ v.isJson = true := by
  rw [← isOk_write 0 v, ← render]
  cases render v with
  | ok text => simp [Except.isOk, Except.toBool]
  | error f => simp [Except.isOk, Except.toBool]

end Json

/-- Parts of something with a JSON form have one too. -/
theorem isInherited_isJson : IsInherited fun v => v.isJson = true where
  null := rfl
  member h m hm := (Value.isJson_map_iff.mp h m hm).2
  put := by
    intro ms v h hv name
    rw [Value.isJson_map_iff] at h ⊢
    intro m hm
    rcases Members.mem_put hm with rfl | hm
    · exact ⟨rfl, hv⟩
    · exact h m hm

/-! ### Drafts -/

namespace Draft

theorem isJson_tagValue (tag : String × String) : (tagValue tag).isJson = true := rfl

/-- A written draft has a JSON form exactly if its parts have one. -/
theorem isJson_document_iff (d : Draft) :
    (Value.map d.document).isJson = true ↔
      d.info.isJson = true ∧ d.servers.isJson = true ∧
        ForallOperations (fun _ _ op => (Value.map op).isJson = true) d.paths ∧
        (Value.map d.schemas).isJson = true := by
  have hpaths : (Value.map (Members.ofTable id itemValue d.paths)).isJson = true ↔
      ForallOperations (fun _ _ op => (Value.map op).isJson = true) d.paths := by
    simp only [Value.isJson_map_iff, Members.ofTable, List.forall_mem_map, itemValue,
      Scalar.isJson, true_and, ForallOperations]
  have htags : (Value.list (d.tags.map tagValue)).isJson = true :=
    Value.isJson_list_iff.mpr (List.forall_mem_map.mpr fun t _ => isJson_tagValue t)
  simp only [document, Value.object, List.map_cons, List.map_nil, Value.text, Value.isJson,
    Value.membersAreJson, Scalar.isJson, Bool.and_eq_true, Bool.and_true, Bool.true_and]
    at hpaths htags ⊢
  rw [hpaths, htags]
  simp

/-- A finished draft has a JSON form exactly if the parts of the draft, its server and the schemas
that were lifted have one. -/
theorem isJson_conclude_iff (d : Draft) (server : Value) :
    (Value.map (d.conclude server).document).isJson = true ↔
      d.info.isJson = true ∧ server.isJson = true ∧
        ForallOperations (fun _ _ op => (Value.map op).isJson = true) d.paths ∧
        (Value.map (d.conclude server).schemas).isJson = true := by
  have hservers : (d.conclude server).servers.isJson = server.isJson := by
    simp [conclude, Document.serverList, Value.object, Value.text, Value.isJson,
      Value.itemsAreJson, Value.membersAreJson, Scalar.isJson]
  rw [isJson_document_iff, hservers]
  rfl

/-- Answers change neither what a draft says about the interface as a whole nor its schemas. -/
theorem info_schemas_hearAll (d : Draft) (heard : List (Route × Answer)) :
    (d.hearAll heard).info = d.info ∧ (d.hearAll heard).schemas = d.schemas := by
  induction heard generalizing d with
  | nil => exact ⟨rfl, rfl⟩
  | cons h heard ih =>
    have hstep : (d.hear h.1 h.2).info = d.info ∧ (d.hear h.1 h.2).schemas = d.schemas := by
      rw [hear]
      cases h.2.fragment? with
      | none => exact ⟨rfl, rfl⟩
      | some f => exact ⟨rfl, rfl⟩
    rw [hearAll, List.foldl_cons, ← hearAll, (ih _).1, (ih _).2]
    exact hstep

end Draft

/-! ### Runs -/

/-- Whether a heading has a JSON form. -/
def Heading.isJson (heading : Heading) : Bool :=
  heading.title.isJson && heading.version.isJson && heading.server.isJson

/-- **The document of a run has a JSON form** exactly if its heading and its operations have one. -/
theorem isJson_assistedDocument_iff {service : Service} {client : Client} {cancelled : Nat → Bool}
    {routes : List Route} {heading : Heading} {log : Log}
    (hroutes : ∀ r ∈ routes, r.HasKnownMethod) {d : Document}
    (hd : (assistedDocument service client cancelled routes heading log).1 = .ok d) :
    (Value.map d).isJson = true ↔
      heading.isJson = true ∧ ∀ op ∈ d.operations, op.isJson = true := by
  obtain rfl := eq_conclude_of_assistedDocument hroutes hd
  generalize hdraft : Draft.ofAnswers heading (routes.zip (answersTo service client routes log)) =
    draft
  obtain ⟨hinfo, hschemas⟩ : draft.info = Document.infoObject heading.title heading.version
      (.text assistedDescription) ∧ draft.schemas = [] := by
    rw [← hdraft]
    exact Draft.info_schemas_hearAll _ _
  have htitle : draft.info.isJson = (heading.title.isJson && heading.version.isJson) := by
    rw [hinfo]
    have hdescription : ((Value.text assistedDescription).orElse
        (.text Document.defaultDescription)).isJson = true := by
      rw [Value.orElse]
      split_ifs <;> rfl
    simp [Document.infoObject, Value.object, Value.isJson, Value.membersAreJson, Scalar.isJson,
      hdescription]
  -- The schemas are copies of parts of the operations.
  have hcopied : Draft.ForallOperations (fun _ _ op => (Value.map op).isJson = true) draft.paths →
      (Value.map (draft.conclude heading.server).schemas).isJson = true := by
    intro hoperations
    refine Draft.inherited_finish isInherited_isJson ?_ hoperations
    rw [hschemas]
    rfl
  rw [Draft.isJson_conclude_iff, Draft.forall_mem_operations_document_iff, htitle, Heading.isJson]
  simp only [Bool.and_eq_true]
  constructor
  · rintro ⟨hheading, hserver, hoperations, -⟩
    exact ⟨⟨hheading, hserver⟩, hoperations⟩
  · rintro ⟨⟨hheading, hserver⟩, hoperations⟩
    exact ⟨hheading, hserver, hoperations, hcopied hoperations⟩

end RouteAtlas
