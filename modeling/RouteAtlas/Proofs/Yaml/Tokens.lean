import RouteAtlas.Proofs.Yaml.Lexing

/-!
# The tokens of a written value

`tokensOf` says which tokens stand for a value, and `keysFit` that none of its keys is too long to be
found. The tokens of the text that is written for a map are those of the map if its keys fit, and
there are none otherwise (`tokens_render`).
-/

namespace RouteAtlas.Yaml

/-! ### Keys that fit -/

/-- Whether a key that shares a line with its value is short enough to be found. -/
def keyFits (k : Scalar) : Bool :=
  let f := Form.ofScalar k
  !f.isSimpleKey || decide ((f.written 0).length ≤ 1024)

mutual

/-- Whether all keys inside a value are found. -/
def keysFit : Value → Bool
  | .list xs => itemsFit xs
  | .map ms => membersFit ms
  | .scalar _ | .set _ | .pair _ _ => true

/-- Whether all keys inside the items of a list are found. -/
def itemsFit : List Value → Bool
  | [] => true
  | x :: xs => keysFit x && itemsFit xs

/-- Whether all keys of a map and inside its values are found. -/
def membersFit : List (Scalar × Value) → Bool
  | [] => true
  | (k, v) :: ms => keyFits k && keysFit v && membersFit ms

end

/-! ### Tokens -/

mutual

/-- The tokens of a value; `behindKey` says that its key is on the same line. -/
def tokensOf (behindKey : Bool) : Value → List Token
  | .scalar s => [(Form.ofScalar s).token]
  | .list [] => [.flowSequenceStart, .flowSequenceEnd]
  | .list (x :: xs) =>
    if behindKey then itemTokens (x :: xs)
    else .blockSequenceStart :: (itemTokens (x :: xs) ++ [.blockEnd])
  | .map [] => [.flowMappingStart, .flowMappingEnd]
  | .map (m :: ms) => .blockMappingStart :: (memberTokens (m :: ms) ++ [.blockEnd])
  | .set _ => []
  | .pair _ _ => []

/-- The tokens of the items of a list. -/
def itemTokens : List Value → List Token
  | [] => []
  | x :: xs => .blockEntry :: (tokensOf false x ++ itemTokens xs)

/-- The tokens of the members of a map. -/
def memberTokens : List (Scalar × Value) → List Token
  | [] => []
  | (k, v) :: ms =>
    .key :: (Form.ofScalar k).token :: .value ::
      (tokensOf (Form.ofScalar k).isSimpleKey v ++ memberTokens ms)

end

/-! ### Where entries begin -/

theorem stopsAt_written {f : Form} (hf : f.IsBare) (indent : Nat) (tail : List Char) :
    StopsAt isSkipped (f.written indent ++ tail) := by
  by_cases hplain : f.style false = .plain
  · rw [Form.written_of_plain hplain]
    exact Lexer.stopsAt_isSkipped (hf.isPlainText hplain) tail
  · rcases hf.quotes_cases hplain indent with ⟨-, -, hwritten⟩ | ⟨-, -, hwritten⟩ <;>
    · rw [hwritten]
      exact stopsAt_cons_iff.mpr rfl

theorem isEntry_key {f : Form} (hf : f.IsBare) (indent : Nat) (tail : List Char) :
    IsEntry (f.written indent ++ ':' :: tail) := by
  refine ⟨stopsAt_written hf indent _, fun i l k => ?_⟩
  by_cases hplain : f.style false = .plain
  · rw [Form.written_of_plain hplain]
    exact Lexer.atSeparator_of_allowsPlain (Form.allowsPlain_of_style hplain)
      (hf.isPlainText hplain).ne_nil (stopsAt_cons_iff.mpr rfl) i l k
  · rcases hf.quotes_cases hplain indent with ⟨-, -, hwritten⟩ | ⟨-, -, hwritten⟩ <;>
    · rw [hwritten]
      exact Spot.atSeparator_cons_of_ne rfl (by decide) (by decide)

theorem isEntry_cons {c : Char} {cs : List Char} (hskipped : isSkipped c = false) (hhyphen : c ≠ '-')
    (hpoint : c ≠ '.') : IsEntry (c :: cs) :=
  ⟨stopsAt_cons_iff.mpr hskipped, fun _ _ _ => Spot.atSeparator_cons_of_ne rfl hhyphen hpoint⟩

/-- What is written for a value begins with white space. -/
theorem exists_layout_eq_cons {v : Value} (hv : v.isPlain = true) (n : Nat) (behindKey : Bool) :
    ∃ w rest, layout n behindKey v = w :: rest ∧ isWhite w = true := by
  have hlead (column : Nat) (rest : List Char) :
      ∃ w rest', leadIn behindKey column ++ rest = w :: rest' ∧ isWhite w = true := by
    cases behindKey with
    | true => exact ⟨_, _, rfl, rfl⟩
    | false => exact ⟨_, _, rfl, rfl⟩
  cases v with
  | scalar s => exact ⟨' ', _, by rw [layout], rfl⟩
  | set xs => rw [Value.isPlain] at hv; cases hv
  | pair a b => rw [Value.isPlain] at hv; cases hv
  | list xs =>
    cases xs with
    | nil => exact ⟨' ', _, by rw [layout], rfl⟩
    | cons x xs =>
      rw [layout, layoutItems]
      exact hlead _ _
  | map ms =>
    cases ms with
    | nil => exact ⟨' ', _, by rw [layout], rfl⟩
    | cons m ms =>
      rw [layout, layoutMembers]
      exact hlead _ _

theorem isEntry_items {xs : List Value} (hne : xs ≠ []) (hxs : Value.itemsArePlain xs = true)
    (column : Nat) (tail : List Char) : IsEntry (layoutItems column [] xs ++ tail) := by
  cases xs with
  | nil => exact absurd rfl hne
  | cons x xs =>
    rw [Value.itemsArePlain, Bool.and_eq_true] at hxs
    obtain ⟨w, rest, hlayout, hw⟩ := exists_layout_eq_cons hxs.1 column false
    rw [layoutItems, hlayout]
    exact ⟨stopsAt_cons_iff.mpr rfl, fun i l k => Lexer.atSeparator_hyphen hw _ i l k⟩

theorem isEntry_members {ms : List (Scalar × Value)} (hne : ms ≠ [])
    (hms : Value.membersArePlain ms = true) (column : Nat) (tail : List Char) :
    IsEntry (layoutMembers column [] ms ++ tail) := by
  cases ms with
  | nil => exact absurd rfl hne
  | cons m ms =>
    obtain ⟨k, v⟩ := m
    rw [Value.membersArePlain, Bool.and_eq_true, Bool.and_eq_true, Scalar.isPlainKey_iff] at hms
    obtain ⟨⟨⟨⟨name, rfl⟩, -⟩, hv⟩, hms⟩ := hms
    rw [layoutMembers, layoutKey]
    split_ifs
    · have hentry := isEntry_key (isBare_ofScalar (s := .text name) rfl) (column + 2)
        (layout column (Form.ofScalar (.text name)).isSimpleKey v ++
          layoutMembers column (nextLine column) ms ++ tail)
      simpa using hentry
    · exact isEntry_cons rfl (by decide) (by decide)

/-! ### Keys -/

/-- Without line ends, what stands between single quotes does not depend on the indentation. -/
theorem singleBody_eq_of_inline {cs : List Char} (h : ∀ c ∈ cs, isBreak c = false) (n m : Nat) :
    singleBody n false cs = singleBody m false cs := by
  induction cs with
  | nil => rfl
  | cons c cs ih =>
    rw [List.forall_mem_cons] at h
    rw [singleBody, singleBody, h.1, ih h.2]
    rfl

theorem Form.IsBare.written_eq {f : Form} (h : f.IsBare) (hsimple : f.isSimpleKey = true)
    (n m : Nat) : f.written n = f.written m := by
  by_cases hplain : f.style false = .plain
  · rw [written_of_plain hplain, written_of_plain hplain]
  · have hm := h.quotes_cases hplain m
    rcases h.quotes_cases hplain n with ⟨hstyle, -, hwritten⟩ | ⟨hstyle, -, hwritten⟩ <;>
      simp only [hstyle, reduceCtorEq, false_and, or_false, false_or, true_and] at hm
    · rw [hwritten, hm.2, singleBody_eq_of_inline (isBreak_of_isSimpleKey hsimple) n m]
    · rw [hwritten, hm.2]

namespace Lexer

variable {ts : List Token} {n : Int} {outer : List Int} {allowed : Bool} {cs : List Char}
  {i ln k : Nat}

theorem Reaches.trans_leads {a b c : Lexer} {x : Bool} (h : a.Reaches b) (h' : b.Leads x c) :
    a.Leads x c :=
  h.leads.trans h'

theorem Leads.trans_reaches {a b c : Lexer} {x : Bool} (h : a.Leads x b) (h' : b.Reaches c) :
    a.Leads x c := by
  have htrans := h.trans h'.leads
  rwa [Bool.and_true] at htrans

/-- **A key and its colon.** Behind a key on lines of its own the value stands behind the colon at the
column of the key. -/
theorem exists_leads_layoutKey {key : Scalar} (hkey : key.isPlain = true) {column : Nat}
    (hn : n ≤ column) {w : Char} (hw : isWhite w = true) :
    ∃ allowed i' ln' k', column < k' ∧
      ((Form.ofScalar key).isSimpleKey = false → allowed = true ∧ k' = column + 1) ∧
      (between ts n outer true ⟨layoutKey column key ++ w :: cs, i, ln, column⟩).Leads (keyFits key)
        (between
          (.value :: (Form.ofScalar key).token :: .key :: (opening n column .blockMappingStart ++ ts))
          column (around n column outer) allowed ⟨w :: cs, i', ln', k'⟩) := by
  have hbare := isBare_ofScalar hkey
  rw [layoutKey, keyFits]
  cases hsimple : (Form.ofScalar key).isSimpleKey with
  | true =>
    rw [if_pos rfl, List.append_assoc, hbare.written_eq hsimple 0 (column + 2)]
    exact ⟨false, _, _, _, by omega, fun h => (by cases h),
      leads_key hbare hsimple (Nat.succ_pos (column + 1)) hw hn⟩
  | false =>
    have hcolon : IsEntry (':' :: w :: cs) := isEntry_cons rfl (by decide) (by decide)
    let text := (Form.ofScalar key).written (column + 2) ++ (nextLine column ++ ':' :: w :: cs)
    have hmark : (between ts n outer true ⟨'?' :: ' ' :: text, i, ln, column⟩).Reaches _ :=
      reaches_question hn
    have hblank := hmark.trans (reaches_blank (stopsAt_written hbare (column + 2) _))
    obtain ⟨i', ln', hscalar⟩ := exists_reaches_scalar hbare (Nat.succ_pos (column + 1)) hcolon
      (show (column : Int) < (column + 2 : Nat) by omega) (Int.le_refl column)
    simp only [Bool.false_eq_true, if_false, List.cons_append, List.append_assoc, List.nil_append]
    exact ⟨true, _, _, _, Nat.lt_succ_self column, fun _ => ⟨rfl, rfl⟩,
      ((hblank.trans hscalar).trans (reaches_colon hw)).leads⟩

/-! ### Values -/

/-- What stands in front of the first entry of a collection. -/
theorem exists_reaches_leadIn {behindKey : Bool} {column : Nat} (hcs : StopsAt isSkipped cs)
    (hstart : behindKey = false → allowed = true ∧ k + 1 = column) :
    ∃ i' ln', (between ts n outer allowed ⟨leadIn behindKey column ++ cs, i, ln, k⟩).Reaches
      (between ts n outer true ⟨cs, i', ln', column⟩) := by
  cases behindKey with
  | true => exact ⟨_, _, reaches_nextLine hcs column⟩
  | false =>
    obtain ⟨rfl, rfl⟩ := hstart rfl
    exact ⟨_, _, reaches_blank hcs⟩

/-- The end of a collection inside another one. -/
theorem reaches_close_opened {n column m : Nat} {t : Token} {inner : List Token}
    (h : StopsAt isSkipped cs) (hn : n < column) (hm : m ≤ n) :
    (between (inner ++ (opening n column t ++ ts)) column (around n column outer) allowed
        ⟨cs, i, ln, m⟩).Reaches
      (between (.blockEnd :: (inner ++ t :: ts)) n outer allowed ⟨cs, i, ln, m⟩) := by
  have hlt : (n : Int) < column := Int.ofNat_lt.mpr hn
  rw [opening, around, if_pos hlt, if_pos hlt]
  exact reaches_close h (Int.ofNat_lt.mpr (Nat.lt_of_le_of_lt hm hn))

theorem layoutItems_eq_append (column : Nat) (lead : List Char) {xs : List Value} (hne : xs ≠ []) :
    layoutItems column lead xs = lead ++ layoutItems column [] xs := by
  cases xs with
  | nil => exact absurd rfl hne
  | cons x xs => rw [layoutItems, layoutItems, List.nil_append]

theorem layoutMembers_eq_append (column : Nat) (lead : List Char) {ms : List (Scalar × Value)}
    (hne : ms ≠ []) : layoutMembers column lead ms = lead ++ layoutMembers column [] ms := by
  cases ms with
  | nil => exact absurd rfl hne
  | cons m ms => rw [layoutMembers, layoutMembers, List.nil_append]

/-- A scalar behind a key or a hyphen. -/
theorem exists_reaches_scalarValue {s : Scalar} (hs : s.isPlain = true) {n k m : Nat}
    (behindKey : Bool) (hk : n < k) (hm : m ≤ n) (hcs : IsEntry cs) :
    ∃ i' ln', (between ts n outer allowed
        ⟨layout n behindKey (.scalar s) ++ (nextLine m ++ cs), i, ln, k⟩).Reaches
      (between ((tokensOf behindKey (.scalar s)).reverse ++ ts) n outer true
        ⟨cs, i', ln', m⟩) := by
  have hbare := isBare_ofScalar hs
  obtain ⟨i', ln', hscalar⟩ := exists_reaches_scalar hbare (Nat.succ_pos (n + 1)) hcs
    (show (n : Int) < (k + 1 : Nat) by omega) (show (m : Int) ≤ n by omega)
  rw [layout, tokensOf]
  exact ⟨i', ln', (reaches_blank (stopsAt_written hbare (n + 2) _)).trans hscalar⟩

/-- An empty collection behind a key or a hyphen. -/
theorem exists_reaches_emptyValue {v : Value} (hv : v = .list [] ∨ v = .map []) {n k m : Nat}
    (behindKey : Bool) (hk : n < k) (hcs : IsEntry cs) :
    ∃ i' ln', (between ts n outer allowed
        ⟨layout n behindKey v ++ (nextLine m ++ cs), i, ln, k⟩).Reaches
      (between ((tokensOf behindKey v).reverse ++ ts) n outer true ⟨cs, i', ln', m⟩) := by
  have hk' : (n : Int) < (k + 1 : Nat) := by omega
  rcases hv with rfl | rfl <;> rw [layout, tokensOf]
  · exact ⟨_, _, (reaches_blank (stopsAt_cons_iff.mpr rfl)).trans
      (reaches_brackets (.inl ⟨rfl, rfl, rfl, rfl⟩) hcs hk')⟩
  · exact ⟨_, _, (reaches_blank (stopsAt_cons_iff.mpr rfl)).trans
      (reaches_brackets (.inr ⟨rfl, rfl, rfl, rfl⟩) hcs hk')⟩

-- The induction is on the value. A collection may be left with the entry behind it indented less than
-- its own, so every statement takes the column of that entry beside the column of the collection.
mutual

/-- **A value** inside a collection at a column, in front of an entry that is indented at most as
far. -/
theorem exists_leads_value (n : Nat) (behindKey : Bool) (v : Value) (hv : v.isPlain = true)
    {ts : List Token} {outer : List Int} {allowed : Bool} {cs : List Char} {i ln k m : Nat}
    (hk : n < k) (hstart : behindKey = false → allowed = true ∧ k = n + 1) (hm : m ≤ n)
    (hcs : IsEntry cs) :
    ∃ i' ln', (between ts n outer allowed
        ⟨layout n behindKey v ++ (nextLine m ++ cs), i, ln, k⟩).Leads (keysFit v)
      (between ((tokensOf behindKey v).reverse ++ ts) n outer true ⟨cs, i', ln', m⟩) := by
  cases v with
  | scalar s =>
    rw [Value.isPlain] at hv
    obtain ⟨i', ln', hscalar⟩ := exists_reaches_scalarValue hv behindKey hk hm hcs
    rw [keysFit]
    exact ⟨i', ln', hscalar.leads⟩
  | set xs => rw [Value.isPlain] at hv; cases hv
  | pair a b => rw [Value.isPlain] at hv; cases hv
  | list xs =>
    rw [Value.isPlain] at hv
    cases xs with
    | nil =>
      obtain ⟨i', ln', hempty⟩ := exists_reaches_emptyValue (.inl rfl) behindKey hk hcs
      rw [keysFit, itemsFit]
      exact ⟨i', ln', hempty.leads⟩
    | cons x xs =>
      have hne : x :: xs ≠ [] := List.cons_ne_nil x xs
      have hle : n ≤ listColumn behindKey n := by cases behindKey <;> simp [listColumn]
      have hlead : behindKey = false → allowed = true ∧ k + 1 = listColumn behindKey n := by
        rintro rfl
        obtain ⟨hallowed, rfl⟩ := hstart rfl
        exact ⟨hallowed, rfl⟩
      obtain ⟨i₁, ln₁, hfirst⟩ := exists_reaches_leadIn (isEntry_items hne hv _ _).stops hlead
      obtain ⟨i₂, ln₂, hitems⟩ := exists_leads_items (listColumn behindKey n) (x :: xs) hne hv
        (Int.ofNat_le.mpr hle) (hm.trans hle) hcs
      rw [layout, keysFit, layoutItems_eq_append _ _ hne, List.append_assoc]
      refine ⟨i₂, ln₂, hfirst.trans_leads (hitems.trans_reaches ?_)⟩
      -- Behind a key the items stand at the column of the map, and no end of a list is marked.
      cases behindKey with
      | true => simpa [listColumn, tokensOf, opening, around] using Reaches.refl _
      | false =>
        have htokens : (tokensOf false (.list (x :: xs))).reverse ++ ts =
            .blockEnd :: ((itemTokens (x :: xs)).reverse ++ .blockSequenceStart :: ts) := by
          simp [tokensOf]
        rw [htokens]
        exact reaches_close_opened hcs.stops (Nat.lt_add_of_pos_right Nat.two_pos) hm
  | map ms =>
    rw [Value.isPlain] at hv
    cases ms with
    | nil =>
      obtain ⟨i', ln', hempty⟩ := exists_reaches_emptyValue (.inr rfl) behindKey hk hcs
      rw [keysFit, membersFit]
      exact ⟨i', ln', hempty.leads⟩
    | cons e ms =>
      have hne : e :: ms ≠ [] := List.cons_ne_nil e ms
      have hle : n ≤ n + 2 := Nat.le_add_right n 2
      have hlead : behindKey = false → allowed = true ∧ k + 1 = n + 2 := by
        intro hbehind
        obtain ⟨hallowed, rfl⟩ := hstart hbehind
        exact ⟨hallowed, rfl⟩
      obtain ⟨i₁, ln₁, hfirst⟩ := exists_reaches_leadIn (isEntry_members hne hv _ _).stops hlead
      obtain ⟨i₂, ln₂, hmembers⟩ := exists_leads_members (n + 2) (e :: ms) hne hv
        (Int.ofNat_le.mpr hle) (hm.trans hle) hcs
      have htokens : (tokensOf behindKey (.map (e :: ms))).reverse ++ ts =
          .blockEnd :: ((memberTokens (e :: ms)).reverse ++ .blockMappingStart :: ts) := by
        simp [tokensOf]
      rw [layout, keysFit, layoutMembers_eq_append _ _ hne, List.append_assoc, htokens]
      exact ⟨i₂, ln₂, hfirst.trans_leads (hmembers.trans_reaches
        (reaches_close_opened hcs.stops (Nat.lt_add_of_pos_right Nat.two_pos) hm))⟩

/-- **The items of a list** at a column, the first of which may open the list. -/
theorem exists_leads_items (column : Nat) (xs : List Value) (hne : xs ≠ [])
    (hxs : Value.itemsArePlain xs = true) {ts : List Token} {n : Int} {outer : List Int}
    {cs : List Char} {i ln m : Nat} (hn : n ≤ column) (hm : m ≤ column) (hcs : IsEntry cs) :
    ∃ i' ln', (between ts n outer true
        ⟨layoutItems column [] xs ++ (nextLine m ++ cs), i, ln, column⟩).Leads (itemsFit xs)
      (between ((itemTokens xs).reverse ++ (opening n column .blockSequenceStart ++ ts)) column
        (around n column outer) true ⟨cs, i', ln', m⟩) := by
  cases xs with
  | nil => exact absurd rfl hne
  | cons x xs =>
    rw [Value.itemsArePlain, Bool.and_eq_true] at hxs
    -- The first item, whatever comes on the next line.
    have hitem {m' : Nat} {cs' : List Char} (hm' : m' ≤ column) (hcs' : IsEntry cs') :
        ∃ i' ln', (between ts n outer true
            ⟨'-' :: (layout column false x ++ (nextLine m' ++ cs')), i, ln, column⟩).Leads (keysFit x)
          (between ((tokensOf false x).reverse ++
            (.blockEntry :: (opening n column .blockSequenceStart ++ ts))) column
            (around n column outer) true ⟨cs', i', ln', m'⟩) := by
      obtain ⟨w, rest, hlayout, hw⟩ := exists_layout_eq_cons hxs.1 column false
      obtain ⟨i', ln', hvalue⟩ := exists_leads_value column false x hxs.1 (Nat.lt_succ_self column)
        (fun _ => ⟨rfl, rfl⟩) hm' hcs'
      rw [hlayout] at hvalue ⊢
      exact ⟨i', ln', (reaches_hyphen hw hn).trans_leads hvalue⟩
    rw [layoutItems, itemsFit, itemTokens]
    cases xs with
    | nil =>
      obtain ⟨i', ln', hleads⟩ := hitem hm hcs
      exact ⟨i', ln', by simpa [layoutItems, itemsFit, itemTokens] using hleads⟩
    | cons y ys =>
      have hne' : y :: ys ≠ [] := List.cons_ne_nil y ys
      obtain ⟨i', ln', hleads⟩ := hitem (Nat.le_refl column)
        (isEntry_items hne' hxs.2 column (nextLine m ++ cs))
      obtain ⟨i'', ln'', hrest⟩ := exists_leads_items column (y :: ys) hne' hxs.2
        (Int.le_refl column) hm hcs
      refine ⟨i'', ln'', ?_⟩
      rw [layoutItems_eq_append _ _ hne']
      simpa [opening, around] using hleads.trans hrest

/-- **The members of a map** at a column, the first of which may open the map. -/
theorem exists_leads_members (column : Nat) (ms : List (Scalar × Value)) (hne : ms ≠ [])
    (hms : Value.membersArePlain ms = true) {ts : List Token} {n : Int} {outer : List Int}
    {cs : List Char} {i ln m : Nat} (hn : n ≤ column) (hm : m ≤ column) (hcs : IsEntry cs) :
    ∃ i' ln', (between ts n outer true
        ⟨layoutMembers column [] ms ++ (nextLine m ++ cs), i, ln, column⟩).Leads (membersFit ms)
      (between ((memberTokens ms).reverse ++ (opening n column .blockMappingStart ++ ts)) column
        (around n column outer) true ⟨cs, i', ln', m⟩) := by
  cases ms with
  | nil => exact absurd rfl hne
  | cons e ms =>
    obtain ⟨key, v⟩ := e
    rw [Value.membersArePlain, Bool.and_eq_true, Bool.and_eq_true, Scalar.isPlainKey_iff] at hms
    obtain ⟨⟨⟨⟨name, rfl⟩, -⟩, hv⟩, hms⟩ := hms
    let f := Form.ofScalar (.text name)
    -- The first member, whatever comes on the next line.
    have hmember {m' : Nat} {cs' : List Char} (hm' : m' ≤ column) (hcs' : IsEntry cs') :
        ∃ i' ln', (between ts n outer true ⟨layoutKey column (.text name) ++
            (layout column f.isSimpleKey v ++ (nextLine m' ++ cs')), i, ln, column⟩).Leads
            (keyFits (.text name) && keysFit v)
          (between ((tokensOf f.isSimpleKey v).reverse ++ (.value :: f.token :: .key ::
            (opening n column .blockMappingStart ++ ts))) column
            (around n column outer) true ⟨cs', i', ln', m'⟩) := by
      obtain ⟨w, rest, hlayout, hw⟩ := exists_layout_eq_cons hv column f.isSimpleKey
      obtain ⟨allowed, i', ln', k', hk', hstart, hkey⟩ :=
        exists_leads_layoutKey (show (Scalar.text name).isPlain = true from rfl) hn hw
      obtain ⟨i'', ln'', hvalue⟩ := exists_leads_value column f.isSimpleKey v hv hk' hstart hm' hcs'
      rw [hlayout] at hvalue ⊢
      exact ⟨i'', ln'', hkey.trans hvalue⟩
    rw [layoutMembers, membersFit, memberTokens]
    cases ms with
    | nil =>
      obtain ⟨i', ln', hleads⟩ := hmember hm hcs
      exact ⟨i', ln', by simpa [layoutMembers, membersFit, memberTokens, f] using hleads⟩
    | cons e ms =>
      have hne' : e :: ms ≠ [] := List.cons_ne_nil e ms
      obtain ⟨i', ln', hleads⟩ := hmember (Nat.le_refl column)
        (isEntry_members hne' hms column (nextLine m ++ cs))
      obtain ⟨i'', ln'', hrest⟩ := exists_leads_members column (e :: ms) hne' hms
        (Int.le_refl column) hm hcs
      refine ⟨i'', ln'', ?_⟩
      rw [layoutMembers_eq_append _ _ hne']
      simpa [opening, around, f] using hleads.trans hrest

end

end Lexer

/-! ### Whole texts -/

theorem isAllowed_of_isOrdinary {c : Char} (h : isOrdinary c = true) :
    isAllowed c = true ∧ c ≠ '\uFEFF' := by
  constructor
  · by_cases hc : c = '\n'
    · rw [hc]
      rfl
    · simp only [isOrdinary, Bool.or_eq_true, Bool.and_eq_true, beq_iff_eq, decide_eq_true_eq, hc,
        false_or] at h
      simp only [isAllowed, Bool.or_eq_true, Bool.and_eq_true, beq_iff_eq, decide_eq_true_eq]
      omega
  · rintro rfl
    cases h

theorem isOrdinary_render {ms : Members} (hne : ms ≠ []) (h : (Value.map ms).isPlain = true) :
    ∀ c ∈ (render (.map ms)).toList, isOrdinary c = true := by
  have hms : Value.membersArePlain ms = true := by rwa [Value.isPlain] at h
  rw [toList_render hne h]
  exact List.forall_mem_append.mpr
    ⟨isOrdinary_layoutMembers 0 ms hms fun _ hc => absurd hc List.not_mem_nil,
      List.all_eq_true.mp rfl⟩

/-- The tokens of a text of ordinary characters are what the lexer yields from its start. -/
theorem tokens_eq_of_yields {source : String} {r : Except Flaw (List Token)}
    (hordinary : ∀ c ∈ source.toList, isOrdinary c = true)
    (hyields : (Lexer.between [] (-1) [] true ⟨source.toList, 0, 0, 0⟩).Yields r) :
    tokens source = r := by
  have hallowed : source.toList.all isAllowed = true :=
    List.all_eq_true.mpr fun c hc => (isAllowed_of_isOrdinary (hordinary c hc)).1
  have hmark : (source.toList.head? == some '\uFEFF') = false := by
    rw [beq_eq_false_iff_ne]
    exact fun hhead => (isAllowed_of_isOrdinary (hordinary _ (List.mem_of_mem_head? hhead))).2 rfl
  rw [tokens, hallowed, Spot.ofText, hmark]
  exact hyields _ (Nat.lt_add_of_pos_right Nat.two_pos)

/-- **The tokens of a written map**, which are not found if a key is too long. -/
theorem tokens_render {ms : Members} (hne : ms ≠ []) (h : (Value.map ms).isPlain = true) :
    tokens (render (.map ms)) =
      if membersFit ms then .ok (.blockMappingStart :: (memberTokens ms ++ [.blockEnd]))
      else .error .malformed := by
  have hms : Value.membersArePlain ms = true := by rwa [Value.isPlain] at h
  obtain ⟨i, ln, hfits, hfails⟩ := Lexer.exists_leads_members 0 ms hne hms (n := -1) (m := 0)
    (by decide) (Nat.le_refl 0) ⟨stopsAt_nil _, fun _ _ _ => rfl⟩
  refine tokens_eq_of_yields (isOrdinary_render hne h) ?_
  rw [toList_render hne h]
  cases hfit : membersFit ms with
  | false => exact hfails hfit
  | true =>
    have hend := hfits hfit _ Lexer.yields_end
    simpa [Lexer.opening, nextLine] using hend

end RouteAtlas.Yaml
