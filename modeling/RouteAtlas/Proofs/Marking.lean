import RouteAtlas.Files.Scan
import RouteAtlas.Proofs.Script.Expressions
import RouteAtlas.Proofs.Traversal
import RouteAtlas.Proofs.Utf8

/-!
# Registrations that no mark shows

Before a file is parsed it is searched for marks, and a file without any is passed over. The search
looks at characters, where a registration is a shape of the syntax tree: the tree does not show what
stands around the point of an access, and a mark allows nothing to stand there.

This module says **which registrations the search can miss** (`looksLikeRoutes_or_isCovert`). Every
registration of a text is written in it as an access (`Script.standsIn_of_parse`). If nothing stands
around the point and the name of the method has no ligature, there is a mark at this place: of all
characters whose upper-case form is part of the name of a method, only the two ligatures are no
letters for the search (`forall₂_isLetter`). So all registrations of a text without marks are covert
ones, and a scan loses no others.
-/

namespace RouteAtlas

open Script

/-! ### Letters of method names -/

/-- The characters whose upper-case form is `ST`. -/
def ligatures : List Char := ['\uFB05', '\uFB06']

/-- The name of a method is written in capitals. -/
theorem Method.isCapital_of_mem_name (m : Method) :
    ∀ x ∈ m.name.toList, 0x41 ≤ x.toNat ∧ x.toNat ≤ 0x5A := by
  have hall : m.name.toList.all (fun x => 0x41 ≤ x.toNat && x.toNat ≤ 0x5A) = true := by
    cases m <;> decide
  simpa using hall

theorem Method.map_toLower_name (m : Method) : m.name.toList.map Char.toLower = m.key.toList := by
  cases m <;> decide

/-- The first two characters of an expansion stand next to each other in the name of no method, those
of the ligatures apart. -/
theorem not_infix_of_mem_upperExpansions :
    ∀ e ∈ Text.upperExpansions, e.1 ∈ ligatures.map Char.toNat ∨
      ∀ m ∈ Method.all, ¬(e.2.map Char.ofNat).take 2 <:+: m.name.toList := by
  decide +kernel

/-- Beyond ASCII there are two characters that have a capital as their upper-case form. -/
theorem image_gt_of_mem_upperRuns :
    ∀ r ∈ Text.upperRuns, r.last < 128 ∨ 0x5A < r.image ∨
      r.first = 0x131 ∧ r.last = 0x131 ∧ r.image = 0x49 ∨
      r.first = 0x17F ∧ r.last = 0x17F ∧ r.image = 0x53 := by
  decide +kernel

theorem toLower_toUpper_of_lt {c : Char} (h : c.toNat < 128) : c.toUpper.toLower = c.toLower :=
  Text.of_toNat_lt (P := fun x => x.toUpper.toLower = x.toLower) (by decide +kernel) h

/-- A character that is expanded to characters of the name of a method is a ligature. -/
theorem mem_ligatures_of_expansion {m : Method} {c : Char} {code : Nat} {image : List Nat}
    {rest w : List Char}
    (hfind : Text.upperExpansions.find? (fun e => e.1 == c.toNat) = some (code, image))
    (h : image.map Char.ofNat ++ rest = w) (hw : w <:+ m.name.toList) : c ∈ ligatures := by
  have hcode : code = c.toNat := by simpa using List.find?_some hfind
  rcases not_infix_of_mem_upperExpansions _ (List.mem_of_find?_eq_some hfind) with hlig | hno
  · obtain ⟨l, hl, hlcode⟩ := List.mem_map.mp hlig
    have hlc : l = c := by rw [← Char.ofNat_toNat l, ← Char.ofNat_toNat c, hlcode, hcode]
    exact hlc ▸ hl
  · have hprefix : (image.map Char.ofNat).take 2 <+: w :=
      h ▸ (List.take_prefix 2 _).trans (List.prefix_append _ rest)
    obtain ⟨behind, hbehind⟩ := hprefix
    obtain ⟨front, hfront⟩ := hw
    refine absurd ⟨front, behind, ?_⟩ (hno m (by cases m <;> decide))
    rw [List.append_assoc, hbehind, hfront]

/-- A character beyond ASCII with a capital as its upper-case form is a letter for the search. -/
theorem isLetter_of_target {c : Char} {image : Nat}
    (htarget : Text.upperRuns.findSome? (·.target? c.toNat) = some image) (hascii : ¬c.toNat < 128)
    (hlow : 0x41 ≤ (Char.ofNat image).toNat) (hhigh : (Char.ofNat image).toNat ≤ 0x5A) :
    isLetter (Char.ofNat image).toLower c = true := by
  obtain ⟨r, hr, himage⟩ := List.exists_of_findSome?_eq_some htarget
  rw [Text.CaseRun.target?] at himage
  split_ifs at himage with hrange
  simp only [Bool.and_eq_true, decide_eq_true_eq] at hrange
  obtain ⟨⟨hfirst, hlast⟩, -⟩ := hrange
  obtain rfl := Option.some.inj himage
  -- A number that is no character would stand for the one with number 0, which is no capital.
  have hvalue : (Char.ofNat (r.image + (c.toNat - r.first))).toNat =
      r.image + (c.toNat - r.first) := by
    by_cases hvalid : (r.image + (c.toNat - r.first)).isValidChar
    · exact Text.toNat_val_ofNat hvalid
    · rw [Char.ofNat, dif_neg hvalid] at hlow
      exact absurd hlow (by decide)
  rw [hvalue] at hhigh
  rcases image_gt_of_mem_upperRuns r hr with hr | hr | ⟨hf, hl, hi⟩ | ⟨hf, hl, hi⟩
  · omega
  · omega
  · have hdotless : c.toNat = 0x131 := by omega
    rw [hdotless, hf, hi]
    simp [isLetter, hdotless]
  · have hlong : c.toNat = 0x17F := by omega
    rw [hlong, hf, hi]
    simp [isLetter, hlong]

/-- A character whose upper-case form stands in the name of a method is a letter for the search, or a
ligature. -/
theorem isLetter_of_upperChar {m : Method} {c : Char} {rest w : List Char}
    (h : Text.upperChar c ++ rest = w) (hw : w <:+ m.name.toList) (hc : c ∉ ligatures) :
    ∃ x, Text.upperChar c = [x] ∧ isLetter x.toLower c = true := by
  have hcapital : ∀ x ∈ w, 0x41 ≤ x.toNat ∧ x.toNat ≤ 0x5A :=
    fun x hx => m.isCapital_of_mem_name x (hw.subset hx)
  rw [Text.upperChar] at h ⊢
  split at h
  · rename_i hascii
    exact ⟨c.toUpper, if_pos hascii, by simp [isLetter, toLower_toUpper_of_lt hascii]⟩
  rename_i hascii
  rw [if_neg hascii]
  -- Beyond ASCII a character is expanded, shifted with its run, or its own upper-case form.
  split at h
  · rename_i code image hfind
    exact absurd (mem_ligatures_of_expansion hfind h hw) hc
  · split at h
    · rename_i image htarget
      obtain ⟨hlow, hhigh⟩ := hcapital (Char.ofNat image) (h ▸ List.mem_cons_self)
      exact ⟨_, rfl, isLetter_of_target htarget hascii hlow hhigh⟩
    · obtain ⟨-, hhigh⟩ := hcapital c (h ▸ List.mem_cons_self)
      omega

/-- A name without ligatures whose upper-case form is the name of a method is that method's name for
the search. -/
theorem forall₂_isLetter {m : Method} {cs w : List Char} (h : cs.flatMap Text.upperChar = w)
    (hw : w <:+ m.name.toList) (hcs : ∀ c ∈ cs, c ∉ ligatures) :
    List.Forall₂ (fun l c => isLetter l c = true) (w.map Char.toLower) cs := by
  induction cs generalizing w with
  | nil =>
    obtain rfl : w = [] := h.symm
    exact .nil
  | cons c cs ih =>
    obtain ⟨hc, hcs⟩ := List.forall_mem_cons.mp hcs
    rw [List.flatMap_cons] at h
    obtain ⟨x, hx, hletter⟩ := isLetter_of_upperChar h hw hc
    rw [hx] at h
    obtain rfl : x :: cs.flatMap Text.upperChar = w := h
    exact .cons hletter (ih rfl ((List.suffix_cons x _).trans hw) hcs)

/-! ### Marks -/

theorem afterLetters?_append {ls cs : List Char}
    (h : List.Forall₂ (fun l c => isLetter l c = true) ls cs) (rest : List Char) :
    afterLetters? ls (cs ++ rest) = some rest := by
  induction h with
  | nil => rfl
  | cons hletter _ ih => rw [List.cons_append, afterLetters?, if_pos hletter, ih]

theorem hasMark_append {cs : List Char} (h : beginsWithMark cs = true) (front : List Char) :
    hasMark (front ++ cs) = true := by
  induction front with
  | nil =>
    cases cs with
    | nil => exact absurd h (by decide)
    | cons c cs => rw [List.nil_append, hasMark, h, Bool.true_or]
  | cons c front ih => rw [List.cons_append, hasMark, ih, Bool.or_true]

/-- The blanks beyond ASCII. -/
def wideBlanks : List Nat :=
  [0x85, 0xA0, 0x1680, 0x2028, 0x2029, 0x202F, 0x205F, 0x3000, 0xFEFF, 0x2060, 0x200B] ++
    (List.range 11).map (0x2000 + ·)

theorem toNat_mem_wideBlanks {c : Char} (hspace : isSpace c = true) (hwide : 128 ≤ c.toNat) :
    c.toNat ∈ wideBlanks := by
  rw [wideBlanks, List.mem_append]
  simp only [isSpace, Text.isBlank, Bool.or_eq_true, Bool.and_eq_true, decide_eq_true_eq, beq_iff_eq,
    Bool.not_eq_true', List.mem_cons, List.not_mem_nil, or_false, List.mem_map,
    List.mem_range] at hspace ⊢
  rcases hspace with ((⟨hblank, -⟩ | rfl) | rfl) | rfl
  · by_cases hquad : 0x2000 ≤ c.toNat ∧ c.toNat ≤ 0x200A
    · exact .inr ⟨c.toNat - 0x2000, by omega⟩
    · omega
  all_goals decide

/-- What cannot be part of a name is no word character. -/
theorem isWord_of_isWordPart {c : Char} (h : isWordPart c = false) : Text.isWord c = false := by
  by_cases hascii : c.toNat < 128
  · exact Text.of_toNat_lt (P := fun x => isWordPart x = false → Text.isWord x = false)
      (by decide +kernel) hascii h
  · -- Beyond ASCII only blanks cannot be part of a name.
    have hstops : wordStops.all (fun x => x.toNat < 128) = true := by decide
    have hwide : ∀ n ∈ wideBlanks, Text.wordRanges.any (fun r => r.1 ≤ n && n ≤ r.2) = false := by
      decide +kernel
    have hspace : isSpace c = true := by
      simp only [isWordPart, Bool.not_eq_false', Bool.or_eq_true, decide_eq_true_eq,
        List.contains_iff_mem] at h
      rcases h with (h | h) | h
      · omega
      · exact h
      · exact absurd (by simpa using List.all_eq_true.mp hstops c h) hascii
    rw [Text.isWord, if_neg hascii]
    exact hwide _ (toNat_mem_wideBlanks hspace (Nat.not_lt.mp hascii))

/-! ### Covert registrations -/

namespace Script

/-- An access that no mark shows: something stands around the point, the point follows a question
mark, or a ligature stands for two letters of the member. -/
def Access.IsCovert (a : Access) : Prop :=
  a.before ≠ [] ∨ a.optional = true ∨ a.behind ≠ [] ∨ ∃ c ∈ a.name.toList, c ∈ ligatures

/-- A call of the member that an access names. -/
def Tree.Calls (node : Tree) (a : Access) : Prop :=
  ∃ row name types arguments, node =
    .call row (.member (.identifier a.owner) (some name)) types arguments ∧ a.name = name.text

end Script

/-- **An access of a method on a registrar that is not covert is a mark.** -/
theorem hasMark_of_standsIn {a : Access} {m : Method} {src : List Char}
    (howner : a.owner = "router" ∨ a.owner = "app") (hname : Text.upper a.name = m.name)
    (hstands : a.StandsIn src) (hplain : ¬a.IsCovert) : hasMark src = true := by
  simp only [Access.IsCovert, not_or, not_not, not_exists, not_and, Bool.not_eq_true] at hplain
  obtain ⟨hbefore, hoptional, hbehind, hletters⟩ := hplain
  obtain ⟨front, back, rfl, hback⟩ := hstands
  have htext : a.text ++ back = (a.owner.toList ++ ['.']) ++ (a.name.toList ++ back) := by
    simp [Access.text, Access.point, hbefore, hoptional, hbehind]
  have hupper : a.name.toList.flatMap Text.upperChar = m.name.toList := by
    rw [← hname, Text.upper, String.toList_ofList]
  have hmethod : afterLetters? m.key.toList (a.name.toList ++ back) = some back := by
    refine afterLetters?_append ?_ back
    rw [← m.map_toLower_name]
    exact forall₂_isLetter hupper List.suffix_rfl hletters
  have hend : atWordEnd back = true := by
    cases back with
    | nil => rfl
    | cons x back => rw [atWordEnd, isWord_of_isWordPart (hback x rfl)]; rfl
  have hcall : beginsWithMethodCall a.owner (a.text ++ back) = true := by
    have hself : List.Forall₂ (fun l c => isLetter l c = true) (a.owner.toList ++ ['.'])
        (a.owner.toList ++ ['.']) := by
      rcases howner with h | h <;> rw [h] <;> decide
    rw [beginsWithMethodCall, htext, afterLetters?_append hself]
    exact List.any_eq_true.mpr ⟨m, by cases m <;> decide, by rw [hmethod]; exact hend⟩
  refine hasMark_append ?_ front
  rw [beginsWithMark]
  rcases howner with h | h <;> rw [h] at hcall <;> simp [hcall]

theorem Script.Tree.mem_nodes_of_mem_parts {tree node part : Tree} (hnode : node ∈ tree.nodes)
    (hpart : part ∈ node.parts) : part ∈ tree.nodes := by
  induction tree using Script.Tree.induction_parts with
  | h t ih =>
    rw [Tree.nodes_eq, List.mem_cons, List.mem_flatMap] at hnode ⊢
    rcases hnode with rfl | ⟨below, hbelow, hnode⟩
    · refine .inr ⟨part, hpart, ?_⟩
      rw [Tree.nodes_eq]
      exact List.mem_cons_self
    · exact .inr ⟨below, hbelow, ih below hbelow hnode⟩

/-- Every registration of a text is written in it, and all the ways in which it is written are
covert. -/
def HasOnlyCovertRegistrations (source : String) : Prop :=
  ∃ tree, parse source = .ok tree ∧ ∀ node ∈ tree.nodes, ∀ r, node.Registers r →
    (∃ a : Access, node.Calls a ∧ a.StandsIn source.toList) ∧
      ∀ a : Access, node.Calls a → a.StandsIn source.toList → a.IsCovert

/-- **A text whose routes no mark shows has only covert registrations.** A scan loses routes of such
files, and of no others. -/
theorem looksLikeRoutes_or_isCovert (source : String) :
    (looksLikeRoutes source = true ∨ HasOnlyCovertRegistrations source ∨
      ∀ filePath console, (discoverRoutes source filePath console).1 = []) ∧
    ∀ (t : FileTree) (file : Path) (result : ScanResult) (console : Console),
      t.readText file = .ok source →
        ∃ result', (scanFile t file result console).1 = .ok result' ∧
          (result'.routes = result.routes ++ (discoverRoutes source file.text console).1 ∨
            result'.routes = result.routes ∧ HasOnlyCovertRegistrations source) := by
  have hmarks : looksLikeRoutes source = true ∨ HasOnlyCovertRegistrations source ∨
      ∀ filePath console, (discoverRoutes source filePath console).1 = [] := by
    cases hparse : parse source with
    | error e =>
      refine .inr (.inr fun filePath console => ?_)
      rw [discoverRoutes, extractRoutes, hparse]
      rfl
    | ok tree =>
      refine or_iff_not_imp_left.mpr fun hlooks => .inl ⟨tree, hparse, fun node hnode r hr => ?_⟩
      obtain ⟨types, rest, howner, hname⟩ := hr
      rename_i row owner path name m
      have hmember : .member (.identifier owner) (some name) ∈ tree.nodes :=
        Tree.mem_nodes_of_mem_parts hnode List.mem_cons_self
      refine ⟨?_, ?_⟩
      · obtain ⟨a, rfl, haname, hstands⟩ := standsIn_of_parse hparse owner name hmember
        exact ⟨a, ⟨row, name, types, _, rfl, haname⟩, hstands⟩
      · rintro a ⟨row', name', types', arguments', hcall, haname⟩ hstands
        obtain ⟨-, hcallee, -, -⟩ := Tree.call.inj hcall
        obtain ⟨hident, hsome⟩ := Tree.member.inj hcallee
        obtain rfl := Tree.identifier.inj hident
        obtain rfl := Option.some.inj hsome
        by_contra hplain
        exact hlooks (hasMark_of_standsIn howner (haname ▸ hname) hstands hplain)
  refine ⟨hmarks, fun t file result console hread => ?_⟩
  rw [scanFile, hread]
  dsimp only
  split
  · exact ⟨_, rfl, .inl rfl⟩
  · rename_i hlooks
    refine ⟨result, rfl, ?_⟩
    rcases hmarks with hmark | hcovert | hnone
    · exact absurd hmark hlooks
    · exact .inr ⟨rfl, hcovert⟩
    · exact .inl (by rw [hnone, List.append_nil])

/-- A line end in front of the point, a question mark, a ligature: each hides a route. -/
example : ["router\n.get('/x',h)", "app?.get('/x',h)", "app.po\uFB06('/x',h)"].map (fun source =>
    (looksLikeRoutes source, (discoverRoutes source "r.js" {}).1.map fun r => (r.method, r.path))) =
      [(false, [("GET", "/x")]), (false, [("GET", "/x")]), (false, [("POST", "/x")])] := by
  decide +kernel

end RouteAtlas
