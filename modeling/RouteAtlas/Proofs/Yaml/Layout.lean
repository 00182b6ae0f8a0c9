import RouteAtlas.Proofs.JsonReading
import RouteAtlas.Proofs.Yaml.Plain

/-!
# The layout of a YAML text

`layout` says what is written for a value without a page: which characters come behind the indicator
or the key that the value belongs to. On the page this depends on whether the pen stands behind a key
on the same line or behind an indicator, and on nothing else that was written before
(`Page.ends_write`).
-/

namespace RouteAtlas.Yaml

/-! ### What stands on a page -/

namespace Page

/-- The characters on a page. -/
def chars (p : Page) : List Char := p.pieces.reverse.flatMap String.toList

theorem toList_text (p : Page) : p.text.toList = p.chars := by
  rw [text, chars]
  induction p.pieces.reverse with
  | nil => rfl
  | cons s ss ih => simp [String.join_cons, ih]

@[simp]
theorem chars_put (p : Page) (s : String) : (p.put s).chars = p.chars ++ s.toList := by
  simp [chars, put]

@[simp]
theorem chars_newline (p : Page) (lineEnd : String) :
    (p.newline lineEnd).chars = p.chars ++ lineEnd.toList := by
  simp [chars, newline]

/-- The blank that is put in front of what needs one. -/
def gap (p : Page) : List Char := if p.blank then [] else [' ']

theorem chars_indicator (p : Page) (s : String) (needsBlank keepsBlank keepsIndent : Bool) :
    (p.indicator s needsBlank keepsBlank keepsIndent).chars =
      p.chars ++ (if needsBlank then p.gap else []) ++ s.toList := by
  have hput : (p.indicator s needsBlank keepsBlank keepsIndent).chars =
      (p.put (if p.blank || !needsBlank then s else " " ++ s)).chars := rfl
  rw [hput, chars_put, gap]
  cases p.blank <;> cases needsBlank <;> simp

/-- The pen stands behind something on its line, and this is what was written. -/
structure Ends (p : Page) (cs : List Char) : Prop where
  chars : p.chars = cs
  blank : p.blank = false
  indenting : p.indenting = false

/-- What moving to a column writes, which is the beginning of an entry there. -/
structure Leads (p : Page) (n : Nat) (lead : List Char) : Prop where
  chars : (p.indentTo n).chars = p.chars ++ lead
  blank : (p.indentTo n).blank = true
  indenting : (p.indentTo n).indenting = true
  column : (p.indentTo n).column = n

theorem leads_start : ({} : Page).Leads 0 [] := ⟨rfl, rfl, rfl, rfl⟩

/-- If only indentation stands on the line, the pen moves on along it. -/
theorem leads_of_indenting {p : Page} {n : Nat} (h : p.indenting = true) (hle : p.column ≤ n)
    (hblank : p.column = n → p.blank = true) :
    p.Leads n (List.replicate (n - p.column) ' ') := by
  have hstays : (!p.indenting || n < p.column || (p.column == n && !p.blank)) = false := by
    rw [h, decide_eq_false (Nat.not_lt.mpr hle)]
    by_cases heq : p.column = n
    · simp [hblank heq]
    · simp [heq]
  by_cases hlt : p.column < n
  · have hindent : p.indentTo n =
        { p.put (String.ofList (List.replicate (n - p.column) ' ')) with blank := true } := by
      rw [indentTo, hstays]
      exact if_pos hlt
    refine ⟨?_, ?_, ?_, ?_⟩
    · rw [hindent]
      exact (chars_put p _).trans (by rw [String.toList_ofList])
    · rw [hindent]
    · rw [hindent]
      exact h
    · rw [hindent]
      simp only [put, String.length_ofList, List.length_replicate]
      omega
  · have hindent : p.indentTo n = p := by
      rw [indentTo, hstays]
      exact if_neg hlt
    have heq : p.column = n := Nat.le_antisymm hle (Nat.le_of_not_lt hlt)
    rw [heq, Nat.sub_self]
    exact ⟨by rw [hindent]; simp, by rw [hindent]; exact hblank heq, by rw [hindent]; exact h,
      by rw [hindent]; exact heq⟩

/-- Behind something on the line, the pen moves to the next line. -/
theorem Ends.leads {p : Page} {cs : List Char} (h : p.Ends cs) (n : Nat) :
    p.Leads n (nextLine n) := by
  have hindent : p.indentTo n = p.newline.indentTo n := by
    rw [indentTo, indentTo, h.indenting]
    simp [newline]
  have hleads : p.newline.Leads n (List.replicate (n - 0) ' ') :=
    leads_of_indenting rfl (Nat.zero_le n) fun _ => rfl
  refine ⟨?_, ?_, ?_, ?_⟩
  · rw [hindent, hleads.chars, chars_newline, List.append_assoc]
    rfl
  · rw [hindent, hleads.blank]
  · rw [hindent, hleads.indenting]
  · rw [hindent, hleads.column]

/-- The pen stands behind an indicator at a column. -/
structure Marks (p : Page) (n : Nat) (cs : List Char) : Prop where
  chars : p.chars = cs
  blank : p.blank = false
  indenting : p.indenting = true
  column : p.column = n + 1

/-- Behind an indicator, the pen moves along the line. -/
theorem Marks.leads {p : Page} {n : Nat} {cs : List Char} (h : p.Marks n cs) :
    p.Leads (n + 2) [' '] := by
  have hleads := leads_of_indenting (n := n + 2) h.indenting (by rw [h.column]; omega)
    (fun hcolumn => by rw [h.column] at hcolumn; omega)
  rwa [h.column, show n + 2 - (n + 1) = 1 by omega] at hleads

/-- An indicator at the beginning of an entry. -/
theorem Leads.marks {p : Page} {n : Nat} {lead : List Char} (h : p.Leads n lead) {s : String} {c : Char}
    (hs : s.toList = [c]) :
    ((p.indentTo n).indicator s true false true).Marks n (p.chars ++ lead ++ [c]) := by
  refine ⟨?_, rfl, ?_, ?_⟩
  · rw [chars_indicator, gap, h.blank, h.chars, hs]
    simp
  · simp [indicator, h.indenting]
  · have hlength : s.length = 1 := by rw [← String.length_toList, hs]; rfl
    simp [indicator, put, h.blank, h.column, hlength]

/-- An indicator that ends an entry's beginning. -/
theorem ends_indicator (p : Page) (s : String) (needsBlank : Bool) :
    (p.indicator s needsBlank).Ends
      (p.chars ++ (if needsBlank then p.gap else []) ++ s.toList) :=
  ⟨chars_indicator p s needsBlank false false, rfl, Bool.and_false _⟩

end Page

/-! ### Scalars -/

/-- What is written for a scalar, without tags. Line ends inside quotes are followed by the given
indentation. -/
def Form.written (f : Form) (indent : Nat) : List Char :=
  match f.style false with
  | .plain => f.text.toList
  | .single => '\'' :: (singleBody indent false f.text.toList ++ ['\''])
  | .double => '"' :: (doubleBody f.text.toList ++ ['"'])
  | .literal => []

theorem Page.chars_breakLine (p : Page) (c : Char) : (p.breakLine c).chars = p.chars ++ [c] := by
  rw [breakLine]
  split_ifs with hc
  · rw [beq_iff_eq.mp hc]
    exact chars_newline p _
  · simp

/-- A page on which a line has just begun. -/
def Page.IsFresh (p : Page) : Prop := p.column = 0 ∧ p.blank = true ∧ p.indenting = true

theorem Page.isFresh_breakLine (p : Page) (c : Char) : (p.breakLine c).IsFresh := by
  rw [breakLine]
  split_ifs <;> exact ⟨rfl, rfl, rfl⟩

theorem Page.IsFresh.chars_indentTo {p : Page} (h : p.IsFresh) (n : Nat) :
    (p.indentTo n).chars = p.chars ++ List.replicate n ' ' := by
  obtain ⟨hcolumn, hblank, hindenting⟩ := h
  have hleads := leads_of_indenting (n := n) hindenting (by omega) fun _ => hblank
  rw [hleads.chars, hcolumn, Nat.sub_zero]

theorem Page.chars_indentTo_of_break {p : Page} {afterBreak : Bool}
    (h : afterBreak = true → p.IsFresh) (indent : Nat) :
    (if afterBreak then p.indentTo indent else p).chars =
      p.chars ++ if afterBreak then List.replicate indent ' ' else [] := by
  cases afterBreak with
  | false => simp
  | true => exact (h rfl).chars_indentTo indent

/-- **What stands between single quotes** on the page. -/
theorem chars_singleQuoted (indent : Nat) (cs : List Char) {afterBreak : Bool} {p : Page}
    (h : afterBreak = true → p.IsFresh) :
    (singleQuoted indent afterBreak p cs).chars = p.chars ++ singleBody indent afterBreak cs := by
  induction cs generalizing afterBreak p with
  | nil =>
    rw [singleQuoted, singleBody]
    exact Page.chars_indentTo_of_break h indent
  | cons c cs ih =>
    cases hbreak : isBreak c with
    | true =>
      let q := if !afterBreak && c == '\n' then p.newline else p
      have hq : q.chars = p.chars ++ if !afterBreak && c == '\n' then ['\n'] else [] := by
        by_cases hc : (!afterBreak && c == '\n') = true
        · simp only [q, hc, if_true]
          exact Page.chars_newline p _
        · simp only [q, hc]
          simp
      have hrest : (singleQuoted indent true (q.breakLine c) cs).chars = _ :=
        ih fun _ => q.isFresh_breakLine c
      rw [singleQuoted, singleBody, if_pos hbreak, if_pos hbreak]
      rw [q.chars_breakLine, hq] at hrest
      rw [List.append_assoc, List.append_assoc] at hrest
      exact hrest
    | false =>
      let q := if afterBreak then p.indentTo indent else p
      have hrest : (singleQuoted indent false
          (q.put (if c == '\'' then "''" else c.toString)) cs).chars = _ := ih fun h => by cases h
      have hpiece : (if c == '\'' then "''" else c.toString).toList =
          if c == '\'' then ['\'', '\''] else [c] := by
        split_ifs <;> simp
      rw [singleQuoted, singleBody, hbreak]
      rw [Page.chars_put, hpiece, Page.chars_indentTo_of_break h] at hrest
      simpa using hrest

/-- The forms that need no tag and are no blocks of lines. -/
structure Form.IsBare (f : Form) : Prop where
  block : f.block = false
  quoted : f.style false ≠ .plain → f.quotedTag = true
  plain : f.style false = .plain → f.text ≠ ""

theorem Form.plainTag_of_style {f : Form} (h : f.style false = .plain) : f.plainTag = true := by
  rw [style] at h
  split_ifs at h with hplain
  simp only [Bool.and_eq_true] at hplain
  exact hplain.1.1.2

theorem Form.allowsPlain_of_style {f : Form} (h : f.style false = .plain) :
    allowsPlain f.text.toList = true := by
  rw [style] at h
  split_ifs at h with hplain
  simp only [Bool.and_eq_true] at hplain
  exact hplain.2

theorem Form.allowsSingle_of_style {f : Form} (h : f.style false = .single) :
    allowsSingle f.text.toList = true := by
  rw [style] at h
  split_ifs at h with hplain hblock hlines hsingle
  simp only [Bool.and_eq_true] at hsingle
  exact hsingle.1

/-- A plain scalar is a plain text. -/
theorem Form.IsBare.isPlainText {f : Form} (h : f.IsBare) (hstyle : f.style false = .plain) :
    IsPlainText f.text.toList :=
  isPlainText_of_allowsPlain (allowsPlain_of_style hstyle)
    fun hnil => h.plain hstyle (String.toList_eq_nil_iff.mp hnil)

/-- All characters of a scalar may be written. -/
theorem Form.IsBare.isOrdinary_written {f : Form} (h : f.IsBare) (indent : Nat) :
    ∀ c ∈ f.written indent, isOrdinary c = true := by
  intro c hc
  rw [written] at hc
  split at hc
  · rename_i hstyle
    exact ((h.isPlainText hstyle).ordinary c hc).1
  · rename_i hstyle
    have hall := allowsSingle_of_style hstyle
    simp only [allowsSingle, Bool.and_eq_true, List.all_eq_true] at hall
    rcases List.mem_cons.mp hc with rfl | hc
    · rfl
    · rcases List.mem_append.mp hc with hc | hc
      · rcases mem_singleBody hc with hc | rfl | rfl
        · exact hall.1.1 c hc
        · rfl
        · rfl
      · rw [List.mem_singleton.mp hc]
        rfl
  · rcases List.mem_cons.mp hc with rfl | hc
    · rfl
    · rcases List.mem_append.mp hc with hc | hc
      · exact (mem_doubleBody hc).1
      · rw [List.mem_singleton.mp hc]
        rfl
  · cases hc

/-- **A scalar on the page.** -/
theorem Form.IsBare.ends_write {f : Form} (h : f.IsBare) (indent : Nat) {simpleKey : Bool}
    (hstyle : f.style simpleKey = f.style false) (p : Page) :
    (f.write indent simpleKey p).Ends (p.chars ++ p.gap ++ f.written indent) := by
  have htagged : (if f.style false == .plain then !f.plainTag else !f.quotedTag) = false := by
    split_ifs with hplain
    · rw [plainTag_of_style (beq_iff_eq.mp hplain)]
      rfl
    · rw [h.quoted (by simpa using hplain)]
      rfl
  rw [write, hstyle, htagged, written]
  cases hcase : f.style false with
  | plain =>
    have hne : (f.text == "") = false := beq_eq_false_iff_ne.mpr (h.plain hcase)
    refine ⟨?_, ?_, ?_⟩
    · cases hblank : p.blank <;> simp [Page.plain, hne, Page.gap, hblank, Page.chars, Page.put]
    · simp [Page.plain, hne]
    · simp [Page.plain, hne]
  | single =>
    have hends := (singleQuoted indent false (p.indicator "'" true) f.text.toList).ends_indicator
      "'" false
    rw [chars_singleQuoted indent _ (fun h => by cases h), Page.chars_indicator] at hends
    simpa using hends
  | double =>
    have hends := ((p.indicator "\"" true).put
      (String.join (f.text.toList.map doubleQuoted))).ends_indicator "\"" false
    have hbody : (String.join (f.text.toList.map doubleQuoted)).toList =
        doubleBody f.text.toList := by
      rw [String.toList_join, List.flatMap_map]
      rfl
    rw [Page.chars_put, Page.chars_indicator, hbody] at hends
    simpa using hends
  | literal =>
    -- Only blocks of lines are written like this.
    rw [style, h.block] at hcase
    simp only [Bool.false_eq_true, if_false] at hcase
    split_ifs at hcase

theorem isBare_ofScalar {s : Scalar} (h : s.isPlain = true) : (Form.ofScalar s).IsBare := by
  cases s with
  | null =>
    have hstyle : (Form.ofScalar .null).style false = .plain := by decide +kernel
    exact ⟨rfl, fun hne => absurd hstyle hne, fun _ => by decide⟩
  | bool b =>
    have hstyle : (Form.ofScalar (.bool b)).style false = .plain := by
      cases b <;> decide +kernel
    exact ⟨rfl, fun hne => absurd hstyle hne, fun _ => by cases b <;> decide⟩
  | text s =>
    refine ⟨rfl, fun _ => rfl, ?_⟩
    rintro hstyle rfl
    have hempty : (Form.ofScalar (.text "")).plainTag = false := by decide +kernel
    rw [Form.plainTag_of_style hstyle] at hempty
    cases hempty
  | int n => cases h
  | float x => cases h
  | date d => cases h
  | stamp t => cases h
  | bytes b => cases h

/-- A key on the line of its value is written like any other scalar. -/
theorem Form.IsBare.style_of_isSimpleKey {f : Form} (hbare : f.IsBare) (h : f.isSimpleKey = true) :
    f.style true = f.style false := by
  simp only [isSimpleKey, Bool.and_eq_true, Bool.not_eq_true'] at h
  obtain ⟨⟨-, hne⟩, hline⟩ := h
  simp [style, hne, hline, hbare.block]

/-! ### What is read back -/

/-- The text that is read for a scalar. -/
def Form.heard (f : Form) : String :=
  match f.style false with
  | .single => String.ofList (refold false f.text.toList)
  | _ => f.text

/-- The token of a scalar. -/
def Form.token (f : Form) : Token := .scalar f.heard (f.style false == .plain)

theorem Form.written_of_plain {f : Form} (h : f.style false = .plain) (indent : Nat) :
    f.written indent = f.text.toList := by
  rw [written, h]

theorem Form.token_of_plain {f : Form} (h : f.style false = .plain) :
    f.token = .scalar (String.ofList f.text.toList) true := by
  rw [token, heard, h, String.ofList_toList]
  rfl

/-- Which quotes a scalar is written in that is not plain. -/
theorem Form.IsBare.quotes_cases {f : Form} (h : f.IsBare) (hplain : f.style false ≠ .plain)
    (indent : Nat) :
    (f.style false = .single ∧ f.heard = String.ofList (refold false f.text.toList) ∧
      f.written indent = '\'' :: (singleBody indent false f.text.toList ++ ['\''])) ∨
    (f.style false = .double ∧ f.heard = f.text ∧
      f.written indent = '"' :: (doubleBody f.text.toList ++ ['"'])) := by
  rw [written, heard]
  cases hstyle : f.style false with
  | plain => exact absurd hstyle hplain
  | single => simp
  | double => simp
  | literal =>
    rw [style, h.block] at hstyle
    simp only [Bool.false_eq_true, if_false] at hstyle
    split_ifs at hstyle

theorem Form.IsBare.length_written_pos {f : Form} (h : f.IsBare) (indent : Nat) :
    0 < (f.written indent).length := by
  by_cases hplain : f.style false = .plain
  · rw [written_of_plain hplain]
    exact List.length_pos_iff.mpr (h.isPlainText hplain).ne_nil
  · rcases h.quotes_cases hplain indent with ⟨-, -, hwritten⟩ | ⟨-, -, hwritten⟩ <;>
    · rw [hwritten]
      exact Nat.succ_pos _

theorem Form.isBreak_of_isSimpleKey {f : Form} (h : f.isSimpleKey = true) :
    ∀ c ∈ f.text.toList, isBreak c = false := by
  simp only [isSimpleKey, Bool.and_eq_true, Bool.not_eq_true', isMultiline, List.any_eq_false] at h
  exact fun c hc => by simpa using h.2 c hc

/-- A key on the line of its value has no line ends. -/
theorem Form.IsBare.isInline_written {f : Form} (h : f.IsBare) (hsimple : f.isSimpleKey = true)
    (indent : Nat) : ∀ c ∈ f.written indent, isInline c = true := by
  have hline := isBreak_of_isSimpleKey hsimple
  intro c hc
  by_cases hplain : f.style false = .plain
  · rw [written_of_plain hplain] at hc
    exact isInline_of_isOrdinary ((h.isPlainText hplain).ordinary c hc).1 (hline c hc)
  · have hordinary := h.isOrdinary_written indent c hc
    rcases h.quotes_cases hplain indent with ⟨-, -, hwritten⟩ | ⟨-, -, hwritten⟩
    · rw [hwritten, List.mem_cons, List.mem_append, List.mem_singleton] at hc
      rcases hc with rfl | hc | rfl
      · decide
      · rcases mem_singleBody hc with hc | rfl | rfl
        · exact isInline_of_isOrdinary hordinary (hline c hc)
        · decide
        · decide
      · decide
    · rw [hwritten, List.mem_cons, List.mem_append, List.mem_singleton] at hc
      rcases hc with rfl | hc | rfl
      · decide
      · exact (mem_doubleBody hc).2
      · decide

/-! ### Values -/

/-- What comes in front of the first entry of a collection: a new line behind a key on the same line,
a blank behind an indicator. -/
def leadIn (behindKey : Bool) (column : Nat) : List Char :=
  if behindKey then nextLine column else [' ']

/-- The column of the items of a list: that of the key, if it is on the same line. -/
def listColumn (behindKey : Bool) (n : Nat) : Nat := if behindKey then n else n + 2

/-- What is written for a key and the colon behind it. -/
def layoutKey (column : Nat) (key : Scalar) : List Char :=
  let f := Form.ofScalar key
  if f.isSimpleKey then f.written (column + 2) ++ [':']
  else '?' :: ' ' :: (f.written (column + 2) ++ (nextLine column ++ [':']))

mutual

/-- What is written for a value inside a collection at a column; `behindKey` says that its key is on
the same line. -/
def layout (n : Nat) (behindKey : Bool) : Value → List Char
  | .scalar s => ' ' :: (Form.ofScalar s).written (n + 2)
  | .list [] => [' ', '[', ']']
  | .list (x :: xs) =>
    layoutItems (listColumn behindKey n) (leadIn behindKey (listColumn behindKey n)) (x :: xs)
  | .map [] => [' ', '\x7b', '\x7d']
  | .map (m :: ms) => layoutMembers (n + 2) (leadIn behindKey (n + 2)) (m :: ms)
  | .set _ => []
  | .pair _ _ => []

/-- What is written for the items of a list; the first one has the given characters in front. -/
def layoutItems (column : Nat) (lead : List Char) : List Value → List Char
  | [] => []
  | x :: xs => lead ++ ('-' :: (layout column false x ++ layoutItems column (nextLine column) xs))

/-- What is written for the members of a map. -/
def layoutMembers (column : Nat) (lead : List Char) : List (Scalar × Value) → List Char
  | [] => []
  | (k, v) :: ms =>
    lead ++ (layoutKey column k ++ (layout column (Form.ofScalar k).isSimpleKey v ++
      layoutMembers column (nextLine column) ms))

end

/-- The pen stands where a value is to be written. -/
def Page.Awaits (p : Page) (n : Nat) (behindKey asMember : Bool) (cs : List Char) : Prop :=
  if behindKey then p.Ends cs ∧ asMember = true else p.Marks n cs

theorem Page.Awaits.chars {p : Page} {n : Nat} {behindKey asMember : Bool} {cs : List Char}
    (h : p.Awaits n behindKey asMember cs) : p.chars = cs := by
  cases behindKey with
  | true => exact h.1.chars
  | false => exact Marks.chars h

theorem Page.Awaits.gap {p : Page} {n : Nat} {behindKey asMember : Bool} {cs : List Char}
    (h : p.Awaits n behindKey asMember cs) : p.gap = [' '] := by
  have hblank : p.blank = false := by
    cases behindKey with
    | true => exact h.1.blank
    | false => exact Marks.blank h
  rw [Page.gap, hblank]
  rfl

theorem Page.Awaits.leads {p : Page} {n : Nat} {behindKey asMember : Bool} {cs : List Char}
    (h : p.Awaits n behindKey asMember cs) : p.Leads (n + 2) (leadIn behindKey (n + 2)) := by
  cases behindKey with
  | true => exact h.1.leads (n + 2)
  | false => exact Marks.leads h

theorem Page.Awaits.leads_list {p : Page} {n : Nat} {behindKey asMember : Bool} {cs : List Char}
    (h : p.Awaits n behindKey asMember cs) :
    listIndent (some n) asMember p = listColumn behindKey n ∧
      p.Leads (listColumn behindKey n) (leadIn behindKey (listColumn behindKey n)) := by
  cases behindKey with
  | true =>
    obtain ⟨hends, rfl⟩ := h
    exact ⟨by simp [listIndent, listColumn, hends.indenting], hends.leads n⟩
  | false =>
    have hmarks : p.Marks n cs := h
    exact ⟨by simp [listIndent, listColumn, deeper, hmarks.indenting], hmarks.leads⟩

/-- **A key on the page.** -/
theorem Page.Leads.awaits_writeKey {p : Page} {column : Nat} {lead : List Char}
    (h : p.Leads column lead) {k : Scalar} (hk : k.isPlain = true) :
    (writeKey column k p).Awaits column (Form.ofScalar k).isSimpleKey true
      (p.chars ++ (lead ++ layoutKey column k)) := by
  have hbare := isBare_ofScalar hk
  rw [writeKey, layoutKey]
  cases hsimple : (Form.ofScalar k).isSimpleKey with
  | true =>
    have hkey := hbare.ends_write (column + 2) (hbare.style_of_isSimpleKey hsimple)
      (p.indentTo column)
    have hends := ((Form.ofScalar k).write (column + 2) true (p.indentTo column)).ends_indicator
      ":" false
    rw [hkey.chars, Page.gap, h.blank, h.chars] at hends
    refine ⟨?_, rfl⟩
    simpa using hends
  | false =>
    have hmarks := h.marks (s := "?") (c := '?') rfl
    have hkey := hbare.ends_write (column + 2) rfl ((p.indentTo column).indicator "?" true false true)
    have hcolon := (hkey.leads column).marks (s := ":") (c := ':') rfl
    rw [hkey.chars, hmarks.chars, Page.gap, hmarks.blank] at hcolon
    simpa [Page.Awaits] using hcolon

mutual

/-- **A value on the page**: what its layout says is added. -/
theorem ends_write (n : Nat) (v : Value) (hv : v.isPlain = true) {behindKey asMember : Bool}
    {p : Page} {cs : List Char} (hp : p.Awaits n behindKey asMember cs) :
    (write (some n) asMember p v).Ends (cs ++ layout n behindKey v) := by
  cases v with
  | scalar s =>
    rw [Value.isPlain] at hv
    have hends := (isBare_ofScalar hv).ends_write (scalarIndent (some n)) rfl p
    rw [hp.chars, hp.gap] at hends
    simpa [write, layout, scalarIndent] using hends
  | set xs => rw [Value.isPlain] at hv; cases hv
  | pair a b => rw [Value.isPlain] at hv; cases hv
  | list xs =>
    cases xs with
    | nil =>
      have hends := (p.indicator "[" true true).ends_indicator "]" false
      rw [Page.chars_indicator, hp.chars, hp.gap] at hends
      simpa [write, layout] using hends
    | cons x xs =>
      obtain ⟨hcolumn, hleads⟩ := hp.leads_list
      rw [Value.isPlain] at hv
      have hends := ends_writeItems _ (x :: xs) (List.cons_ne_nil _ _) hv hleads
      rw [write, hcolumn, layout]
      rwa [hp.chars] at hends
  | map ms =>
    cases ms with
    | nil =>
      have hends := (p.indicator "\x7b" true true).ends_indicator "\x7d" false
      rw [Page.chars_indicator, hp.chars, hp.gap] at hends
      simpa [write, layout] using hends
    | cons m ms =>
      rw [Value.isPlain] at hv
      have hends := ends_writeMembers _ (m :: ms) (List.cons_ne_nil _ _) hv hp.leads
      rw [write, deeper, layout]
      rwa [hp.chars] at hends

theorem ends_writeItems (column : Nat) (xs : List Value) (hne : xs ≠ [])
    (hxs : Value.itemsArePlain xs = true) {lead : List Char} {p : Page} (hp : p.Leads column lead) :
    (writeItems column p xs).Ends (p.chars ++ layoutItems column lead xs) := by
  cases xs with
  | nil => exact absurd rfl hne
  | cons x xs =>
    rw [Value.itemsArePlain, Bool.and_eq_true] at hxs
    have hmarks := hp.marks (s := "-") (c := '-') rfl
    have hawaits : Page.Awaits _ column false false _ := hmarks
    have hitem := ends_write column x hxs.1 hawaits
    rw [writeItems, openItem, layoutItems]
    cases xs with
    | nil => simpa [writeItems, layoutItems] using hitem
    | cons y ys =>
      have hrest := ends_writeItems column (y :: ys) (List.cons_ne_nil _ _) hxs.2 (hitem.leads column)
      rw [hitem.chars] at hrest
      simpa using hrest

theorem ends_writeMembers (column : Nat) (ms : List (Scalar × Value)) (hne : ms ≠ [])
    (hms : Value.membersArePlain ms = true) {lead : List Char} {p : Page}
    (hp : p.Leads column lead) :
    (writeMembers column p ms).Ends (p.chars ++ layoutMembers column lead ms) := by
  cases ms with
  | nil => exact absurd rfl hne
  | cons m ms =>
    obtain ⟨k, v⟩ := m
    rw [Value.membersArePlain, Bool.and_eq_true, Bool.and_eq_true, Scalar.isPlainKey_iff] at hms
    obtain ⟨⟨⟨⟨name, rfl⟩, -⟩, hv⟩, hms⟩ := hms
    have hkey := hp.awaits_writeKey (k := .text name) rfl
    have hvalue := ends_write column v hv hkey
    rw [writeMembers, layoutMembers]
    cases ms with
    | nil => simpa [writeMembers, layoutMembers] using hvalue
    | cons m ms =>
      have hrest := ends_writeMembers column (m :: ms) (List.cons_ne_nil _ _) hms (hvalue.leads column)
      rw [hvalue.chars] at hrest
      simpa using hrest

end

/-- **What is rendered** for a map with members. -/
theorem toList_render {ms : Members} (hne : ms ≠ []) (h : (Value.map ms).isPlain = true) :
    (render (.map ms)).toList = layoutMembers 0 [] ms ++ ['\n'] := by
  cases ms with
  | nil => exact absurd rfl hne
  | cons m ms =>
    rw [Value.isPlain] at h
    have hends := ends_writeMembers 0 (m :: ms) hne h Page.leads_start
    rw [render, Page.toList_text, write, deeper, (hends.leads 0).chars, hends.chars]
    rfl

/-! ### Characters -/

theorem isOrdinary_nextLine (n : Nat) : ∀ c ∈ nextLine n, isOrdinary c = true := by
  intro c hc
  rcases List.mem_cons.mp hc with rfl | hc
  · rfl
  · rw [List.eq_of_mem_replicate hc]
    rfl

theorem isOrdinary_leadIn (behindKey : Bool) (n : Nat) :
    ∀ c ∈ leadIn behindKey n, isOrdinary c = true := by
  cases behindKey with
  | true => exact isOrdinary_nextLine n
  | false => simp [leadIn, isOrdinary]

theorem isOrdinary_layoutKey (column : Nat) {k : Scalar} (hk : k.isPlain = true) :
    ∀ c ∈ layoutKey column k, isOrdinary c = true := by
  have hwritten := (isBare_ofScalar hk).isOrdinary_written (column + 2)
  have hline := isOrdinary_nextLine column
  have hmarks : isOrdinary '?' = true ∧ isOrdinary ' ' = true ∧ isOrdinary ':' = true := by decide
  rw [layoutKey]
  split_ifs
  · simp only [List.mem_append, List.mem_singleton]
    rintro c (hc | rfl)
    · exact hwritten c hc
    · exact hmarks.2.2
  · simp only [List.mem_append, List.mem_cons, List.not_mem_nil, or_false]
    rintro c (rfl | rfl | hc | hc | rfl)
    · exact hmarks.1
    · exact hmarks.2.1
    · exact hwritten c hc
    · exact hline c hc
    · exact hmarks.2.2

mutual

theorem isOrdinary_layout (n : Nat) (behindKey : Bool) (v : Value) (hv : v.isPlain = true) :
    ∀ c ∈ layout n behindKey v, isOrdinary c = true := by
  cases v with
  | scalar s =>
    rw [Value.isPlain] at hv
    rw [layout]
    exact List.forall_mem_cons.mpr ⟨by decide, (isBare_ofScalar hv).isOrdinary_written _⟩
  | set xs => rw [Value.isPlain] at hv; cases hv
  | pair a b => rw [Value.isPlain] at hv; cases hv
  | list xs =>
    rw [Value.isPlain] at hv
    cases xs with
    | nil =>
      rw [layout]
      exact List.all_eq_true.mp rfl
    | cons x xs =>
      rw [layout]
      exact isOrdinary_layoutItems _ (x :: xs) hv (isOrdinary_leadIn behindKey _)
  | map ms =>
    rw [Value.isPlain] at hv
    cases ms with
    | nil =>
      rw [layout]
      exact List.all_eq_true.mp rfl
    | cons m ms =>
      rw [layout]
      exact isOrdinary_layoutMembers _ (m :: ms) hv (isOrdinary_leadIn behindKey _)

theorem isOrdinary_layoutItems (column : Nat) (xs : List Value)
    (hxs : Value.itemsArePlain xs = true) {lead : List Char}
    (hlead : ∀ c ∈ lead, isOrdinary c = true) :
    ∀ c ∈ layoutItems column lead xs, isOrdinary c = true := by
  cases xs with
  | nil => simp [layoutItems]
  | cons x xs =>
    rw [Value.itemsArePlain, Bool.and_eq_true] at hxs
    have hitem := isOrdinary_layout column false x hxs.1
    have hrest := isOrdinary_layoutItems column xs hxs.2 (isOrdinary_nextLine column)
    rw [layoutItems]
    exact List.forall_mem_append.mpr ⟨hlead, List.forall_mem_cons.mpr
      ⟨by decide, List.forall_mem_append.mpr ⟨hitem, hrest⟩⟩⟩

theorem isOrdinary_layoutMembers (column : Nat) (ms : List (Scalar × Value))
    (hms : Value.membersArePlain ms = true) {lead : List Char}
    (hlead : ∀ c ∈ lead, isOrdinary c = true) :
    ∀ c ∈ layoutMembers column lead ms, isOrdinary c = true := by
  cases ms with
  | nil => simp [layoutMembers]
  | cons m ms =>
    obtain ⟨k, v⟩ := m
    rw [Value.membersArePlain, Bool.and_eq_true, Bool.and_eq_true, Scalar.isPlainKey_iff] at hms
    obtain ⟨⟨⟨⟨name, rfl⟩, -⟩, hv⟩, hms⟩ := hms
    have hkey := isOrdinary_layoutKey column (k := .text name) rfl
    have hvalue := isOrdinary_layout column (Form.ofScalar (.text name)).isSimpleKey v hv
    have hrest := isOrdinary_layoutMembers column ms hms (isOrdinary_nextLine column)
    rw [layoutMembers]
    exact List.forall_mem_append.mpr ⟨hlead, List.forall_mem_append.mpr
      ⟨hkey, List.forall_mem_append.mpr ⟨hvalue, hrest⟩⟩⟩

end

end RouteAtlas.Yaml
