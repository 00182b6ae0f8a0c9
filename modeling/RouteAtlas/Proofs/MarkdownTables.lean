import RouteAtlas.Proofs.FirstSightings
import RouteAtlas.Proofs.JsonReading
import RouteAtlas.Proofs.MarkdownForm
import RouteAtlas.Proofs.OperationForm
import RouteAtlas.Proofs.View

/-!
# Tables in Markdown

A table in Markdown is lines that begin with a bar, and nothing in a cell is escaped when a row is
written: a bar in a name would open another column, and a line end would break the row in two.
`IsRow cells line` says that neither happened, in terms of the text alone: it is on one line, has
one bar more than cells, and comes apart at the bars into the cells.

What can stand in a cell is decided when the source text is read. A word holds only characters of
words (`Script.Word.isWordChar_of_mem`), and a name in a path pattern even fewer, so the parameters
of a record are sightings (`isSighting_of_routeOf?`), with a name that fits into a cell and nothing
else that was taken from the source. From there the rows are followed through synthesis and writing.

`HasTables` is what a reader sees who knows the operation and its lines: a table for the parameters,
with the row of each in its place, one for the properties of the body, and **no other line that
begins with a bar**. `hasTables_quickDocument` states it for every operation of a document.
-/

namespace RouteAtlas

/-! ### Rows -/

/-- A part without the separator, and then the separator. -/
theorem Text.splitChars_append {sep : Char} {part : List Char} (h : sep ∉ part) (rest : List Char) :
    Text.splitChars sep (part ++ sep :: rest) = part :: Text.splitChars sep rest := by
  induction part with
  | nil => rw [List.nil_append, Text.splitChars, if_pos (beq_self_eq_true sep)]
  | cons c part ih =>
    have hc : ¬(c == sep) = true := fun hc => h (by simp [beq_iff_eq.mp hc])
    rw [List.cons_append, Text.splitChars, if_neg hc,
      ih fun hmem => h (List.mem_cons_of_mem c hmem)]

namespace Markdown

/-- A text that fits into a cell. -/
def IsCell (s : String) : Prop := '|' ∉ s.toList ∧ '\n' ∉ s.toList

instance (s : String) : Decidable (IsCell s) :=
  inferInstanceAs (Decidable ('|' ∉ s.toList ∧ '\n' ∉ s.toList))

/-- A row of a table: a text on one line, which bars divide into the given cells. -/
def IsRow (cells : List String) (line : Value) : Prop :=
  ∃ s, line = .text s ∧ '\n' ∉ s.toList ∧ s.toList.count '|' = cells.length + 1 ∧
    Text.split '|' s = "" :: cells.map (fun c => " " ++ c ++ " ") ++ [""]

/-- The characters of cells with a bar behind each. -/
def cellChars (cells : List String) : List Char :=
  cells.flatMap fun c => ' ' :: c.toList ++ [' ', '|']

theorem cellChars_cons (cell : String) (cells : List String) :
    cellChars (cell :: cells) = (' ' :: cell.toList ++ [' ']) ++ '|' :: cellChars cells := by
  simp [cellChars]

theorem toList_join_cells (cell : String) (cells : List String) :
    ' ' :: (Text.join " | " (cell :: cells)).toList ++ [' ', '|'] = cellChars (cell :: cells) := by
  induction cells generalizing cell with
  | nil => simp [Json.join_singleton, cellChars]
  | cons next cells ih =>
    rw [Json.join_cons_cons, cellChars_cons, ← ih]
    simp

theorem newline_not_mem_cellChars {cells : List String} (h : ∀ c ∈ cells, IsCell c) :
    '\n' ∉ cellChars cells := by
  intro hmem
  obtain ⟨cell, hcell, hmem⟩ := List.mem_flatMap.mp hmem
  simp [(h cell hcell).2] at hmem

theorem count_cellChars {cells : List String} (h : ∀ c ∈ cells, IsCell c) :
    (cellChars cells).count '|' = cells.length := by
  induction cells with
  | nil => rfl
  | cons cell cells ih =>
    obtain ⟨⟨hbar, -⟩, hcells⟩ := List.forall_mem_cons.mp h
    rw [cellChars_cons, List.count_append, List.count_cons_self, ih hcells, List.length_cons]
    simp [List.count_eq_zero.mpr hbar]

theorem splitChars_cellChars {cells : List String} (h : ∀ c ∈ cells, IsCell c) :
    Text.splitChars '|' (cellChars cells) =
      cells.map (fun c => ' ' :: c.toList ++ [' ']) ++ [[]] := by
  induction cells with
  | nil => rfl
  | cons cell cells ih =>
    obtain ⟨⟨hbar, -⟩, hcells⟩ := List.forall_mem_cons.mp h
    rw [cellChars_cons, Text.splitChars_append (by simp [hbar]), ih hcells]
    rfl

/-- Cells that fit make a row. -/
theorem isRow_row {cells : List String} (hne : cells ≠ []) (h : ∀ c ∈ cells, IsCell c) :
    IsRow cells (row cells) := by
  have hchars : ("| " ++ Text.join " | " cells ++ " |").toList = '|' :: cellChars cells := by
    obtain ⟨cell, cells, rfl⟩ := List.exists_cons_of_ne_nil hne
    rw [← toList_join_cells]
    simp
  refine ⟨_, rfl, ?_, ?_, ?_⟩
  · simp [hchars, newline_not_mem_cellChars h]
  · rw [hchars, List.count_cons_self, count_cellChars h]
  · have hnone : '|' ∉ ([] : List Char) := List.not_mem_nil
    have hsplit := Text.splitChars_append hnone (cellChars cells)
    rw [List.nil_append, splitChars_cellChars h] at hsplit
    rw [Text.split, hchars, hsplit]
    have hcell : ∀ c : String, String.ofList (' ' :: c.toList ++ [' ']) = " " ++ c ++ " " :=
      fun c => String.toList_inj.mp (by simp)
    simp only [List.map_cons, List.map_append, List.map_map, List.map_nil, Function.comp_def, hcell]
    rfl

end Markdown

/-! ### What is seen in a source text -/

/-- A parameter as it is seen in a source text: nothing is known of its type and its meaning, and
its name fits into a cell. -/
structure Parameter.IsSighting (p : Parameter) : Prop where
  /-- The type is assumed. -/
  dataType_eq : p.dataType = "string"
  /-- There is no description. -/
  description_eq : p.description = ""
  /-- The name has neither bars nor line ends. -/
  isCell_name : Markdown.IsCell p.name

theorem Script.Word.isCell (word : Script.Word) : Markdown.IsCell word.text := by
  constructor
  · intro hmem
    exact absurd (word.isWordChar_of_mem _ hmem) (by decide +kernel)
  · intro hmem
    exact absurd (word.isWordChar_of_mem _ hmem) (by decide +kernel)

theorem isCell_of_mem_parameterMarks {cs : List Char} {mark : String × Bool}
    (h : mark ∈ parameterMarks cs) : Markdown.IsCell mark.1 := by
  induction cs using parameterMarks.induct with
  | case1 => simp [parameterMarks] at h
  | case2 c cs hstart rest ih =>
    rw [parameterMarks, if_pos hstart] at h
    rcases List.mem_cons.mp h with rfl | h
    · have hpart : ∀ x ∈ c :: cs.takeWhile isNamePart, isNamePart x = true :=
        List.forall_mem_cons.mpr ⟨isNamePart_of_isNameStart hstart,
          fun x hx => List.mem_takeWhile_imp hx⟩
      constructor
      · rw [String.toList_ofList]
        exact fun hmem => absurd (hpart _ hmem) (by decide)
      · rw [String.toList_ofList]
        exact fun hmem => absurd (hpart _ hmem) (by decide)
    · exact ih h
  | case3 c cs hstart ih =>
    rw [parameterMarks, if_neg hstart] at h
    exact ih h
  | case4 c cs hcolon ih =>
    rw [parameterMarks] at h
    · exact ih h
    · exact hcolon

theorem isCell_of_requestMember? {part name : String} {t : Script.Tree}
    (h : Sighting.requestMember? part t = some name) : Markdown.IsCell name := by
  obtain ⟨-⟩ := requestMember?_eq_some_iff.mp h
  exact Script.Word.isCell _

theorem isCell_of_mem_bodyParameters {t : Script.Tree} {p : String × Bool}
    (h : p ∈ Sighting.bodyParameters t) : Markdown.IsCell p.1 := by
  rcases List.mem_append.mp h with h | h
  · obtain ⟨name, hname, rfl⟩ := List.mem_map.mp h
    cases hnames : Sighting.bodyNames? t with
    | none =>
      rw [hnames] at hname
      exact absurd hname List.not_mem_nil
    | some names =>
      rw [hnames, Option.getD_some] at hname
      obtain ⟨entries, -, -, -, -, rfl⟩ := bodyNames?_eq_some_iff.mp hnames
      obtain ⟨entry, -, hkey⟩ := List.mem_filterMap.mp hname
      rcases entryKey?_eq_some_iff.mp hkey with _ | _ | _
      all_goals exact Script.Word.isCell _
  · obtain ⟨name, hname, rfl⟩ := Option.map_eq_some_iff.mp (Option.mem_toList.mp h)
    exact isCell_of_requestMember? hname

/-- All parameters of a record are sightings, whatever the path and the handler look like. -/
theorem isSighting_of_routeOf? {filePath : String} {registration : Sighting.Registration}
    {r : Route} (h : routeOf? filePath registration = some r) :
    ∀ p ∈ r.parameters, p.IsSighting := by
  rw [routeOf?] at h
  split at h
  · rename_i path rest _
    obtain rfl := Option.some.inj h
    intro p hp
    rcases List.mem_append.mp hp with hp | hp
    · obtain ⟨mark, hmark, rfl⟩ := List.mem_map.mp hp
      exact ⟨rfl, rfl, isCell_of_mem_parameterMarks (mem_of_mem_firstByKey hmark)⟩
    · generalize rest.getLast?.getD (.text path) = handler at hp
      cases handler with
      | function parts =>
        rcases List.mem_append.mp hp with hp | hp
        · obtain ⟨name, hname, rfl⟩ := List.mem_map.mp hp
          obtain ⟨t, -, ht⟩ := List.mem_filterMap.mp (mem_of_mem_firstByKey hname)
          exact ⟨rfl, rfl, isCell_of_requestMember? ht⟩
        · obtain ⟨entry, hentry, rfl⟩ := List.mem_map.mp hp
          obtain ⟨t, -, ht⟩ := List.mem_flatMap.mp (mem_of_mem_firstByKey hentry)
          exact ⟨rfl, rfl, isCell_of_mem_bodyParameters ht⟩
      | _ => cases hp
  · cases h

/-! ### Tables -/

namespace Markdown

/-- Parts with one line each. -/
theorem linesOf_map {α β : Type} {render : α → Except Fault (List Value)} {part : β → α}
    {line : β → Value} {bs : List β} (h : ∀ b ∈ bs, render (part b) = .ok [line b]) :
    linesOf render (bs.map part) = .ok (bs.map line) := by
  induction bs with
  | nil => rfl
  | cons b bs ih =>
    obtain ⟨hb, hbs⟩ := List.forall_mem_cons.mp h
    rw [List.map_cons, linesOf, hb, ih hbs]
    rfl

/-- A table with its heading; nothing if it has no rows. -/
def table (heading columns rule : String) (rows : List Value) : List Value :=
  if rows = [] then []
  else [.text heading, .text "", .text columns, .text rule] ++ rows ++ [.text ""]

/-- The table of parameters with the given rows. -/
def parametersTable (rows : List Value) : List Value :=
  table "#### Parameters" "| Name | In | Type | Required | Description |"
    "|------|-----|------|----------|-------------|" rows

/-- The table of the properties of a body with the given rows. -/
def propertiesTable (rows : List Value) : List Value :=
  table "#### Request Body" "| Field | Type | Required | Description |"
    "|-------|------|----------|-------------|" rows

/-- The cells in the row of a parameter. -/
def parameterCells (p : Parameter) : List String :=
  [p.name, p.location, "string", yesNo p.required, p.name ++ " parameter"]

theorem parameterRow_parameterObject {p : Parameter} (h : p.IsSighting) :
    parameterRow (Operation.parameterObject p) = .ok [row (parameterCells p)] := by
  have hname : (Operation.parameterObject p).member "name" = .ok (.text p.name) := rfl
  have hplace : (Operation.parameterObject p).member "in" = .ok (.text p.location) := rfl
  have hrequired : (Operation.parameterObject p).member "required" = .ok (.bool p.required) := rfl
  have hschema : (Operation.parameterObject p).member "schema" =
      .ok (.object [("type", .text "string")]) := by
    show Except.ok (Value.object [("type", .text (Operation.orDefault p.dataType "string"))]) = _
    rw [h.dataType_eq]
    rfl
  have hdescription : (Operation.parameterObject p).member "description" =
      .ok (.text (p.name ++ " parameter")) := by
    show Except.ok (Value.text (Operation.orDefault p.description (p.name ++ " parameter"))) = _
    rw [h.description_eq]
    rfl
  have hshown : shown (.text (p.name ++ " parameter")) "-" = p.name ++ " parameter" := by
    simp [shown, Value.truthy, Scalar.truthy, Value.display, Scalar.display]
  rw [parameterRow, hschema, hrequired, hname, hplace, hdescription]
  show Except.ok [row [p.name, p.location, "string", yesNo (Value.bool p.required).truthy,
    shown (.text (p.name ++ " parameter")) "-"]] = _
  rw [hshown]
  rfl

theorem parameterTable_parameterObjects {ps : List Parameter} (h : ∀ p ∈ ps, p.IsSighting) :
    parameterTable (ps.map Operation.parameterObject) =
      .ok (parametersTable (ps.map (row ∘ parameterCells))) := by
  have hrows : linesOf parameterRow (ps.map Operation.parameterObject) =
      .ok (ps.map (row ∘ parameterCells)) :=
    linesOf_map fun p hp => parameterRow_parameterObject (h p hp)
  cases ps with
  | nil => rfl
  | cons p ps =>
    rw [parameterTable, hrows]
    rfl

/-- What comes of two steps comes of the second one. -/
theorem exists_of_bind_eq_ok {α β : Type} {x : Except Fault α} {f : α → Except Fault β} {b : β}
    (h : x.bind f = .ok b) : ∃ a, x = .ok a ∧ f a = .ok b := by
  cases x with
  | error fault => cases h
  | ok a => exact ⟨a, rfl, h⟩

theorem exists_map_of_item {v x : Value} {name : String} (h : v.item name = .ok x) :
    ∃ ms, v = .map ms ∧ Members.find? ms name = some x := by
  cases v with
  | map ms =>
    cases hfind : Members.find? ms name with
    | none => simp [Value.item, hfind] at h
    | some y => exact ⟨ms, rfl, by simpa [Value.item, hfind] using h⟩
  | scalar s => cases s <;> cases h
  | _ => cases h

/-- The schema of a holder is the one that stands under its content for JSON. -/
theorem jsonSchema_of_item {holder : Value} {schema : Members}
    (h : ((holder.item "content").bind (·.item "application/json")).bind (·.item "schema") =
      .ok (.map schema)) : jsonSchema holder = .ok (some schema) := by
  obtain ⟨media, hboth, hlast⟩ := exists_of_bind_eq_ok h
  obtain ⟨content, hfirst, hsecond⟩ := exists_of_bind_eq_ok hboth
  obtain ⟨ms, rfl, hcontent⟩ := exists_map_of_item hfirst
  obtain ⟨contentMembers, rfl, hmedia⟩ := exists_map_of_item hsecond
  obtain ⟨mediaMembers, rfl, hschema⟩ := exists_map_of_item hlast
  have hne : contentMembers ≠ [] := by
    rintro rfl
    cases hmedia
  have hread : (Value.map contentMembers).member "application/json" = .ok (.map mediaMembers) :=
    member_of_find? hmedia
  simp [jsonSchema, hcontent, Value.orElse, Value.truthy, hne, hread, hschema, bind, Except.bind,
    pure, Except.pure]

/-- The cells in the row of a property. -/
def propertyCells (p : Parameter) : List String := [p.name, "string", yesNo p.required, "-"]

theorem propertyRow_propertySchema {p : Parameter} (h : p.IsSighting) {required : List String}
    (hrequired : p.name ∈ required ↔ p.required = true) :
    propertyRow (Value.texts required) (.text p.name, Operation.propertySchema p) =
      .ok [row (propertyCells p)] := by
  have hholds : (Value.texts required).holds (.text p.name) = .ok p.required := by
    show Except.ok ((required.map Value.text).any _) = _
    rw [List.any_map]
    refine congrArg Except.ok (Bool.eq_iff_iff.mpr ?_)
    rw [← hrequired, List.any_eq_true]
    simp
  simp [propertyRow, hholds, Operation.propertySchema, h.dataType_eq, h.description_eq,
    Operation.orDefault, Value.object, Value.member, Value.memberD, Members.find?_cons,
    Value.truthy, Scalar.truthy, shown, Value.display, Scalar.display, propertyCells, bind,
    Except.bind, pure, Except.pure]

theorem bodyTable_requestBody {ps : List Parameter} (h : ∀ p ∈ ps, p.IsSighting)
    (hnodup : (ps.map Parameter.name).Nodup) :
    bodyTable (Operation.requestBody ps) =
      .ok (propertiesTable (ps.map (row ∘ propertyCells))) := by
  obtain ⟨schema, properties, required, hbody⟩ := Operation.isBodyOf_requestBody hnodup
  have hschema := jsonSchema_of_item hbody.schema_eq
  have hfound : propertiesOf (some schema) = .map properties := by
    rw [propertiesOf, Option.bind_some, hbody.find?_properties, Option.getD_some]
  have hrequired : (((some schema).bind fun ms => Members.find? ms "required").getD .null).orElse
      (.list []) = Value.texts required := by
    rw [Option.bind_some, hbody.find?_required]
    cases required <;> rfl
  have hrows : linesOf (propertyRow (Value.texts required)) properties =
      .ok (ps.map (row ∘ propertyCells)) := by
    rw [hbody.properties_eq]
    exact linesOf_map fun p hp => propertyRow_propertySchema (h p hp) (hbody.mem_required_iff p hp)
  have htable : bodyTable (Operation.requestBody ps) =
      if (!(Value.map properties).truthy) = true then .ok [] else
        (linesOf (propertyRow (Value.texts required)) properties).map fun rows =>
          [line "#### Request Body", blank, line "| Field | Type | Required | Description |",
            line "|-------|------|----------|-------------|"] ++ rows ++ [blank] := by
    rw [bodyTable, hschema]
    dsimp only [bind, Except.bind]
    rw [hfound, hrequired]
    rfl
  rw [htable, hrows, hbody.properties_eq]
  cases ps <;> rfl

/-! ### Other lines -/

/-- A line that a reader takes for a part of a table: it begins with a bar. -/
def IsTableLine (line : Value) : Prop := ∃ s, line = .text s ∧ s.toList.head? = some '|'

/-- No line is taken for a part of a table. -/
def HasNoTable (lines : List Value) : Prop := ∀ line ∈ lines, ¬IsTableLine line

@[simp]
theorem hasNoTable_nil : HasNoTable [] := fun _ h => absurd h List.not_mem_nil

@[simp]
theorem hasNoTable_cons (line : Value) (lines : List Value) :
    HasNoTable (line :: lines) ↔ ¬IsTableLine line ∧ HasNoTable lines := List.forall_mem_cons

@[simp]
theorem hasNoTable_append (first rest : List Value) :
    HasNoTable (first ++ rest) ↔ HasNoTable first ∧ HasNoTable rest := List.forall_mem_append

@[simp]
theorem isTableLine_text (s : String) : IsTableLine (.text s) ↔ s.toList.head? = some '|' := by
  simp [IsTableLine]

theorem hasNoTable_linesOf {α : Type} {render : α → Except Fault (List Value)} {as : List α}
    (h : ∀ a, ∀ lines, render a = .ok lines → HasNoTable lines) {lines : List Value}
    (hlines : linesOf render as = .ok lines) : HasNoTable lines := by
  induction as generalizing lines with
  | nil =>
    cases hlines
    exact hasNoTable_nil
  | cons a as ih =>
    obtain ⟨first, hfirst, hlines⟩ := exists_of_bind_eq_ok hlines
    obtain ⟨rest, hrest, hlines⟩ := exists_of_bind_eq_ok hlines
    cases hlines
    exact (hasNoTable_append ..).mpr ⟨h a first hfirst, ih hrest⟩

theorem hasNoTable_responseLines {r : Scalar × Value} {lines : List Value}
    (h : responseLines r = .ok lines) : HasNoTable lines := by
  have hproperty : ∀ p ls, propertyLine p = .ok ls → HasNoTable ls := by
    intro p ls hls
    obtain ⟨type, -, hls⟩ := exists_of_bind_eq_ok hls
    cases hls
    simp [line]
  obtain ⟨description, -, h⟩ := exists_of_bind_eq_ok h
  obtain ⟨schema, -, h⟩ := exists_of_bind_eq_ok h
  dsimp only at h
  split at h
  · cases h
    simp [line, blank]
  · obtain ⟨properties, -, h⟩ := exists_of_bind_eq_ok h
    obtain ⟨body, hbody, h⟩ := exists_of_bind_eq_ok h
    cases h
    simp [line, blank, hasNoTable_linesOf hproperty hbody]

theorem hasNoTable_responseSection {responses : Value} {lines : List Value}
    (h : responseSection responses = .ok lines) : HasNoTable lines := by
  rw [responseSection] at h
  split at h
  · cases h
    exact hasNoTable_nil
  · obtain ⟨entries, -, h⟩ := exists_of_bind_eq_ok h
    obtain ⟨body, hbody, h⟩ := exists_of_bind_eq_ok h
    cases h
    simp [line, blank, hasNoTable_linesOf (fun _ _ => hasNoTable_responseLines) hbody]

end Markdown

/-! ### Operations -/

namespace Operation

/-- The parameter objects that stand in an operation. -/
def parameterList (operation : Value) : List Value :=
  ((operation.item "parameters").toOption.bind Value.items?).getD []

/-- The schema of the JSON body that stands in an operation. -/
def bodySchema (operation : Value) : Members :=
  (((((operation.item "requestBody").bind (·.item "content")).bind (·.item "application/json")).bind
    (·.item "schema")).toOption.bind Value.members?).getD []

/-- The properties of the JSON body that stand in an operation. -/
def bodyProperties (operation : Value) : Members :=
  ((Members.find? (bodySchema operation) "properties").bind Value.members?).getD []

/-- The required names that stand in an operation. -/
def requiredNames (operation : Value) : List Value :=
  ((Members.find? (bodySchema operation) "required").bind Value.items?).getD []

end Operation

namespace Markdown

/-- The row of a parameter object. -/
def IsParameterRow (object line : Value) : Prop :=
  ∃ name place type description required, object.textUnder? "name" = some name ∧
    object.textUnder? "in" = some place ∧ object.item "required" = .ok (.bool required) ∧
    IsRow [name, place, type, yesNo required, description] line

/-- The row of a property of a body with the given required names. -/
def IsPropertyRow (required : List Value) (property : Scalar × Value) (line : Value) : Prop :=
  ∃ name type description isRequired, property.1 = .text name ∧
    (isRequired = true ↔ .text name ∈ required) ∧
    IsRow [name, type, yesNo isRequired, description] line

/-- Lines with one table for the parameters of an operation, one for the properties of its body, and
nothing else that looks like a table. -/
def HasTables (operation : Value) (lines : List Value) : Prop :=
  ∃ front parameterRows propertyRows back,
    lines = front ++ parametersTable parameterRows ++ propertiesTable propertyRows ++ back ∧
    HasNoTable front ∧ HasNoTable back ∧
    List.Forall₂ IsParameterRow (Operation.parameterList operation) parameterRows ∧
    List.Forall₂ (IsPropertyRow (Operation.requiredNames operation))
      (Operation.bodyProperties operation) propertyRows

theorem isCell_append {s t : String} (hs : IsCell s) (ht : IsCell t) : IsCell (s ++ t) := by
  simp [IsCell, hs.1, hs.2, ht.1, ht.2]

theorem isCell_yesNo (b : Bool) : IsCell (yesNo b) := by
  cases b <;> decide

theorem isParameterRow_row {p : Parameter} (h : p.IsSighting) (hplace : IsCell p.location) :
    IsParameterRow (Operation.parameterObject p) (row (parameterCells p)) := by
  obtain ⟨hname, hlocation, hrequired⟩ := Operation.isObjectOf_parameterObject p
  refine ⟨p.name, p.location, _, _, p.required, hname, hlocation, hrequired,
    isRow_row (List.cons_ne_nil _ _) ?_⟩
  have hdescription : IsCell (p.name ++ " parameter") := isCell_append h.isCell_name (by decide)
  have htype : IsCell "string" := by decide
  simp [h.isCell_name, hplace, htype, isCell_yesNo, hdescription]

theorem isPropertyRow_row {p : Parameter} (h : p.IsSighting) {required : List String}
    (hrequired : p.name ∈ required ↔ p.required = true) (v : Value) :
    IsPropertyRow (required.map .text) (.text p.name, v) (row (propertyCells p)) := by
  refine ⟨p.name, _, _, p.required, rfl, ?_, isRow_row (List.cons_ne_nil _ _) ?_⟩
  · rw [← hrequired]
    simp
  · have htype : IsCell "string" := by decide
    have hdash : IsCell "-" := by decide
    simp [h.isCell_name, htype, isCell_yesNo, hdash]

/-- The parameters of an operation and their rows. -/
theorem forall₂_isParameterRow {r : Route} (h : ∀ p ∈ r.parameters, p.IsSighting) (m : Method) :
    List.Forall₂ IsParameterRow (Operation.parameterList (.map (Operation.members m r)))
      ((r.parameters.filter Operation.isListed).map (row ∘ parameterCells)) := by
  have hlist : Operation.parameterList (.map (Operation.members m r)) =
      (r.parameters.filter Operation.isListed).map Operation.parameterObject := by
    rw [Operation.parameterList, Value.item, Operation.find?_parameters]
    rfl
  rw [hlist, List.forall₂_map_left_iff, List.forall₂_map_right_iff]
  refine List.forall₂_same.mpr fun p hp => ?_
  obtain ⟨hp, hlisted⟩ := List.mem_filter.mp hp
  have hlocation : p.location = "path" ∨ p.location = "query" := by
    simpa [Operation.isListed] using hlisted
  refine isParameterRow_row (h p hp) ?_
  rcases hlocation with hlocation | hlocation
  all_goals
    rw [hlocation]
    decide

/-- The properties of the body of an operation and their rows. -/
theorem exists_bodyTable {r : Route} (h : ∀ p ∈ r.parameters, p.IsSighting)
    (hnodup : (r.parameters.map Parameter.key).Nodup) (m : Method) :
    ∃ rows, bodyTable ((Members.find? (Operation.members m r) "requestBody").getD .null) =
        .ok (propertiesTable rows) ∧
      List.Forall₂ (IsPropertyRow (Operation.requiredNames (.map (Operation.members m r))))
        (Operation.bodyProperties (.map (Operation.members m r))) rows := by
  cases hfind : Members.find? (Operation.members m r) "requestBody" with
  | none =>
    -- Without a body there are no properties, and no table.
    have hschema : Operation.bodySchema (.map (Operation.members m r)) = [] := by
      rw [Operation.bodySchema, Value.item, hfind]
      rfl
    refine ⟨[], rfl, ?_⟩
    rw [Operation.bodyProperties, hschema]
    exact List.Forall₂.nil
  | some body =>
    have hsome := (Operation.find?_requestBody m r).resolve_left (by simp [hfind])
    obtain rfl : body = Operation.requestBody (r.parametersIn "body") :=
      Option.some.inj (hfind.symm.trans hsome)
    have hnames := Operation.nodup_names_parametersIn hnodup "body"
    have htaken : ∀ p ∈ r.parametersIn "body", p.IsSighting := fun p hp =>
      h p (List.mem_filter.mp hp).1
    obtain ⟨schema, properties, required, hbody⟩ := Operation.isBodyOf_requestBody hnames
    have hschema : Operation.bodySchema (.map (Operation.members m r)) = schema := by
      have hitem : (Value.map (Operation.members m r)).item "requestBody" =
          .ok (Operation.requestBody (r.parametersIn "body")) := by
        rw [Value.item, hfind]
      rw [Operation.bodySchema, hitem]
      change ((((Operation.requestBody (r.parametersIn "body")).item "content").bind _ |>.bind
        _).toOption.bind _).getD [] = _
      rw [hbody.schema_eq]
      rfl
    have hrequired : Operation.requiredNames (.map (Operation.members m r)) =
        required.map Value.text := by
      rw [Operation.requiredNames, hschema, hbody.find?_required]
      cases required <;> rfl
    refine ⟨_, bodyTable_requestBody htaken hnames, ?_⟩
    rw [Operation.bodyProperties, hschema, hbody.find?_properties, hbody.properties_eq, hrequired]
    change List.Forall₂ _ (List.map _ _) _
    rw [List.forall₂_map_left_iff, List.forall₂_map_right_iff]
    exact List.forall₂_same.mpr fun p hp =>
      isPropertyRow_row (htaken p hp) (hbody.mem_required_iff p hp) _

/-- The lines in front of the tables of an operation. -/
def frontLines (path : Scalar) (method : Method) (summary description : Value)
    (tags : List Value) : List Value :=
  [line ("### " ++ code method.name ++ " " ++ path.display), blank] ++
    (if summary.truthy then [line ("**" ++ summary.display ++ "**"), blank] else []) ++
    (if description.truthy then [description, blank] else []) ++ tags

/-- The lines of an operation are those of its parts. -/
theorem operationLines_eq {ms : Members} {summary description tags parameters responses : Value}
    (hsummary : Members.find? ms "summary" = some summary)
    (hdescription : Members.find? ms "description" = some description)
    (htags : Members.find? ms "tags" = some tags)
    (hparameters : Members.find? ms "parameters" = some parameters)
    (hresponses : Members.find? ms "responses" = some responses)
    {items tagPart parameterPart bodyPart responsePart : List Value}
    (htagPart : tagLines tags = .ok tagPart) (hitems : itemsOf parameters = .ok items)
    (hparameterPart : parameterTable items = .ok parameterPart)
    (hbodyPart : bodyTable ((Members.find? ms "requestBody").getD .null) = .ok bodyPart)
    (hresponsePart : responseSection responses = .ok responsePart) (path : Scalar)
    (method : Method) :
    operationLines path method (.map ms) =
      .ok (frontLines path method summary description tagPart ++ parameterPart ++ bodyPart ++
        responsePart ++ [line "---", blank]) := by
  have hbody : (Value.map ms).member "requestBody" =
      .ok ((Members.find? ms "requestBody").getD .null) := rfl
  rw [operationLines, member_of_find? hsummary, member_of_find? hdescription,
    member_of_find? htags, member_of_find? hparameters, hbody, member_of_find? hresponses]
  dsimp only [bind, Except.bind]
  rw [htagPart, hitems]
  dsimp only
  rw [hparameterPart, hbodyPart, hresponsePart]
  rfl

theorem hasNoTable_frontLines (path : Scalar) (method : Method) {summary description : Value}
    {tags : List Value} (hdescription : ¬IsTableLine description) (htags : HasNoTable tags) :
    HasNoTable (frontLines path method summary description tags) := by
  simp only [frontLines, hasNoTable_append, htags, and_true]
  split_ifs <;> simp [line, blank, hdescription]

/-- **The lines of an operation of an extracted route** hold the tables of its parameters and of the
properties of its body. -/
theorem exists_operationLines {r : Route} {filePath : String} (hrecord : r.IsRecordOf filePath)
    (hsightings : ∀ p ∈ r.parameters, p.IsSighting) (hdescription : r.description = none)
    (hschemas : HasListableSchemas r) {m : Method} (hm : r.method = m.name) (path : Scalar)
    (method : Method) :
    ∃ lines, operationLines path method (.map (Operation.members m r)) = .ok lines ∧
      HasTables (.map (Operation.members m r)) lines := by
  have hitems : itemsOf (.list (Operation.parameterObjects r)) =
      .ok (Operation.parameterObjects r) := by
    cases Operation.parameterObjects r <;> rfl
  have hlisted : ∀ p ∈ r.parameters.filter Operation.isListed, p.IsSighting := fun p hp =>
    hsightings p (List.mem_filter.mp hp).1
  obtain ⟨rows, hbody, hproperties⟩ := exists_bodyTable hsightings hrecord.nodup_parameters m
  obtain ⟨responses, hresponses, -⟩ := isWritten_responseSection hschemas
  have htags : tagLines (Value.texts [Operation.tagOf r.path]) =
      .ok [line ("**Tags:** " ++ Text.join ", " [code (Operation.tagOf r.path)]), blank] := rfl
  have hlines := operationLines_eq (Operation.find?_summary m r) (Operation.find?_description m r)
    (Operation.find?_tags m r) (Operation.find?_parameters m r) (Operation.find?_responses m r)
    htags hitems (parameterTable_parameterObjects hlisted) hbody hresponses path method
  refine ⟨_, hlines, _, _, rows, responses ++ [line "---", blank], by rw [List.append_assoc], ?_,
    ?_, forall₂_isParameterRow hsightings m, hproperties⟩
  · refine hasNoTable_frontLines path method ?_ (by simp [line, blank])
    -- There is no description in the source, so the text made up for it begins with the method.
    rw [hdescription, Option.getD_none, Operation.orDefault, if_pos (by decide), isTableLine_text,
      hm]
    cases m <;> simp [Method.name]
  · simp [line, blank, hasNoTable_responseSection hresponses]

end Markdown

/-! ### Documents -/

theorem description_eq_none_of_routeOf? {filePath : String} {registration : Sighting.Registration}
    {r : Route} (h : routeOf? filePath registration = some r) : r.description = none := by
  rw [routeOf?] at h
  split at h
  · rw [← Option.some.inj h]
  · cases h

/-- **Tables of generated documents are well formed.** -/
theorem hasTables_quickDocument {routes : List Route} (hroutes : ∀ r ∈ routes, r.IsExtracted)
    (heading : Heading) :
    ∃ d, quickDocument routes heading = .ok d ∧ ∀ path, ∀ m ∈ Markdown.listedMethods,
      ∀ operation, d.operation? path m.key = some operation →
        ∃ lines, Markdown.operationLines (.text path) m operation = .ok lines ∧
          Markdown.HasTables operation lines := by
  have hknown : ∀ r ∈ routes, r.HasKnownMethod := fun r hr => (hroutes r hr).hasKnownMethod
  let d := ((Draft.new heading.title heading.version .null).addRoutes routes).conclude
    heading.server
  have htables : Draft.ForallOperations (fun path _ op => ∀ method, ∃ lines,
      Markdown.operationLines (.text path) method (.map op) = .ok lines ∧
        Markdown.HasTables (.map op) lines) d.paths := by
    refine Draft.ForallOperations.foldl_writeRoute (fun p hp => absurd hp List.not_mem_nil) ?_
    intro r hr m hm method
    obtain ⟨filePath, registration, hroute⟩ := (hroutes r hr).exists_routeOf?
    exact Markdown.exists_operationLines (isRecordOf_of_routeOf? hroute)
      (isSighting_of_routeOf? hroute) (description_eq_none_of_routeOf? hroute)
      (hroutes r hr).hasListableSchemas hm _ method
  refine ⟨d.document, quickDocument_eq hknown heading, fun path m _ operation hoperation => ?_⟩
  rw [Draft.operation?_document] at hoperation
  obtain ⟨op, hop, rfl⟩ := Option.map_eq_some_iff.mp hoperation
  obtain ⟨item, hitem, hop⟩ := Option.bind_eq_some_iff.mp hop
  exact htables _ (Table.mem_of_get? hitem) _ (Table.mem_of_get? hop) m

theorem hasTables_quickDocument_eager :
    ∃ routes d operation lines, extractRoutes eagerSource "r.js" = .ok routes ∧
      quickDocument routes {} = .ok d ∧ d.operation? "/a/\x7bid\x7d" "put" = some operation ∧
      (Operation.parameterList operation).length = 2 ∧
      (Operation.bodyProperties operation).length = 3 ∧
      Markdown.operationLines (.text "/a/\x7bid\x7d") .put operation = .ok lines ∧
      Markdown.HasTables operation lines := by
  have hcounts : (extractRoutes eagerSource "r.js").toOption.map (fun routes =>
      (quickDocument routes {}).toOption.map fun d =>
        (d.operation? "/a/\x7bid\x7d" "put").map fun operation =>
          ((Operation.parameterList operation).length,
            (Operation.bodyProperties operation).length)) =
      some (some (some (2, 3))) := by
    decide +kernel
  obtain ⟨routes, hextract, hcounts⟩ := exists_ok_of_map_toOption hcounts
  obtain ⟨d, hd, htables⟩ :=
    hasTables_quickDocument (fun r hr => ⟨_, _, routes, hextract, hr⟩) {}
  rw [hd] at hcounts
  obtain ⟨operation, hoperation, hcounts⟩ := Option.map_eq_some_iff.mp (Option.some.inj hcounts)
  obtain ⟨lines, hlines, hshape⟩ := htables _ .put (by decide) operation hoperation
  exact ⟨routes, d, operation, lines, hextract, hd, hoperation, congrArg Prod.fst hcounts,
    congrArg Prod.snd hcounts, hlines, hshape⟩

end RouteAtlas
