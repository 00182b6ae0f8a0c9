import RouteAtlas.Proofs.Draft

/-!
# What a reader finds in a document

A document is data of any shape, and a reader who knows nothing of how it was built looks for three
things in it: the operation of a method under a path (`Document.operation?`), all operations
(`Document.operations`), and the tags with their names (`Document.tagList`, `Document.tagNames`).
What has another shape than expected counts as absent. The lemmas say what is found in a written
draft.
-/

namespace RouteAtlas

namespace Document

/-- The path items of a document. -/
def pathItems (d : Document) : Members := ((Members.find? d "paths").bind Value.members?).getD []

/-- The operation of a document under a path and the name of a method. -/
def operation? (d : Document) (path key : String) : Option Value :=
  ((Members.find? d.pathItems path).bind Value.members?).bind (Members.find? · key)

/-- All operations of a document, in order. -/
def operations (d : Document) : List Value :=
  d.pathItems.flatMap fun p => (p.2.members?.getD []).map (·.2)

/-- The tags of a document. -/
def tagList (d : Document) : List Value := ((Members.find? d "tags").bind Value.items?).getD []

/-- The names of the tags of a document, in order. A tag without a name shows as `none`. -/
def tagNames (d : Document) : List (Option String) :=
  d.tagList.map fun t => (t.item "name").toOption.bind Value.text?

end Document

namespace Draft

variable (d : Draft)

theorem pathItems_document : d.document.pathItems = Members.ofTable id itemValue d.paths := by
  rw [Document.pathItems, d.find?_paths]
  rfl

theorem operation?_document (path : String) (m : Method) :
    d.document.operation? path m.key =
      ((Table.get? path d.paths).bind (Table.get? m)).map Value.map := by
  rw [Document.operation?, pathItems_document, find?_ofTable_itemValue]
  cases Table.get? path d.paths with
  | none => rfl
  | some item => exact Members.find?_ofTable Method.key_injective m item

/-- A written draft has an operation exactly if the draft has it. -/
theorem exists_operation?_document_iff {path : String} {m : Method} :
    (∃ operation, d.document.operation? path m.key = some (.map operation)) ↔
      HasOperation d.paths path m := by
  rw [operation?_document]
  constructor
  · rintro ⟨operation, h⟩
    obtain ⟨op, hop, -⟩ := Option.map_eq_some_iff.mp h
    obtain ⟨item, hitem, hop⟩ := Option.bind_eq_some_iff.mp hop
    exact ⟨item, hitem, Option.isSome_iff_exists.mpr ⟨op, hop⟩⟩
  · rintro ⟨item, hitem, hop⟩
    obtain ⟨op, hop⟩ := Option.isSome_iff_exists.mp hop
    exact ⟨op, by rw [hitem, Option.bind_some, hop, Option.map_some]⟩

/-- The operations of a written draft are those of its path items. -/
theorem operations_document :
    d.document.operations = d.paths.flatMap fun p => p.2.map fun o => .map o.2 := by
  simp only [Document.operations, pathItems_document, Members.ofTable, List.flatMap_map, itemValue,
    Value.members?, Option.getD_some, List.map_map]
  rfl

/-- What holds of all operations of a draft holds of all that a reader finds. -/
theorem forall_mem_operations_document_iff {P : Value → Prop} :
    (∀ op ∈ d.document.operations, P op) ↔
      ForallOperations (fun _ _ op => P (.map op)) d.paths := by
  simp only [operations_document, List.forall_mem_flatMap, List.forall_mem_map, ForallOperations]

theorem tagList_document : d.document.tagList = d.tags.map tagValue := by
  rw [Document.tagList, d.find?_tags]
  rfl

theorem tagNames_document : d.document.tagNames = d.tags.map fun t => some t.1 := by
  rw [Document.tagNames, tagList_document, List.map_map]
  refine List.map_congr_left fun t _ => ?_
  simp [tagValue, Value.object, Value.item, Members.find?_cons, Except.toOption, Value.text?]

end Draft

end RouteAtlas
