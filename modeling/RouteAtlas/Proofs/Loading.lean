import RouteAtlas.Proofs.RoundTrip
import RouteAtlas.Validation.Document

/-!
# What defeats loading

Loading a document gives a map or a failure that is reported as one of loading, with three exceptions:
a path that no file system takes, a file whose bytes are those of no text, and a YAML text in which a
scalar is written like something that it cannot be, such as a date in the thirteenth month.
`FileTree.Defeats` says so without the loader, and `exists_validateFile_iff` that these are **all**
exceptions: everything else is loaded or reported, and validating a file comes to an end exactly then.
-/

namespace RouteAtlas

/-! ### Reading -/

/-- A file can be read exactly if it holds a text, which is read with its line ends made alike. -/
theorem Content.read_eq_ok_iff {content : Content} {text : String} :
    content.read = .ok text ↔ ∃ s, content.Spells s ∧ text = Text.normalizeNewlines s := by
  cases content with
  | text s =>
    constructor
    · intro h
      exact ⟨s, .inl rfl, (Except.ok.inj h).symm⟩
    · rintro ⟨s', hs | hs, rfl⟩
      · obtain rfl := Content.text.inj hs
        rfl
      · cases hs
  | bytes b =>
    constructor
    · intro h
      rw [Content.read] at h
      split at h
      · rename_i s hdecode
        refine ⟨s, .inr ?_, (Except.ok.inj h).symm⟩
        rw [Text.decodeUtf8_eq_ok_iff.mp hdecode]
      · cases h
    · rintro ⟨s', hs | hs, rfl⟩
      · cases hs
      · rw [Content.read, Text.decodeUtf8_eq_ok_iff.mpr (Content.bytes.inj hs)]

/-- The only failure of a file that is there. -/
theorem Content.exists_of_read_eq_error {content : Content} {e : FileError}
    (h : content.read = .error e) : ∃ reason, e = .undecodable reason := by
  cases content with
  | text s => cases h
  | bytes b =>
    rw [Content.read] at h
    split at h
    · cases h
    · exact ⟨_, (Except.error.inj h).symm⟩

namespace FileTree

variable {t : FileTree} {p : Path}

theorem readText_of_isUsable_eq_false (h : p.isUsable = false) : t.readText p = .error .unusable := by
  rw [readText, resolve, h]
  rfl

/-- A path that does not lead to a file cannot be read, and the reason is not in its bytes. -/
theorem exists_readText_eq_error (h : ∀ place content, t.resolve p ≠ .file place content) :
    ∃ e, t.readText p = .error e ∧ ∀ reason, e ≠ .undecodable reason := by
  rw [readText]
  split
  · rename_i place content hfile
    exact absurd hfile (h place content)
  all_goals exact ⟨_, rfl, fun _ h => by cases h⟩

/-- Reading fails because of a file or a folder exactly if it does not fail because of the path. -/
theorem isOfFile_of_readText {e : FileError} (h : t.readText p = .error e) :
    e.isOfFile = p.isUsable := by
  cases husable : p.isUsable with
  | false =>
    rw [readText_of_isUsable_eq_false husable] at h
    rw [← Except.error.inj h]
    rfl
  | true =>
    cases hplace : t.resolve p with
    | nowhere =>
      rw [resolve_eq_nowhere_iff, husable] at hplace
      cases hplace
    | file place content =>
      rw [readText, hplace] at h
      obtain ⟨reason, rfl⟩ := Content.exists_of_read_eq_error h
      rfl
    | _ =>
      rw [readText, hplace] at h
      rw [← Except.error.inj h]
      rfl

end FileTree

/-! ### Parsing -/

/-- Whether a name is one for YAML files. -/
def Path.isYaml (p : Path) : Bool := p.suffix == ".yaml" || p.suffix == ".yml"

/-- The only failure of parsing that is not reported is that of a scalar in a YAML text. -/
theorem exists_parseDocument_error_iff {p : Path} {text : String} :
    (∃ f, parseDocument p text = .error f ∧ f.isReported = false) ↔
      p.isYaml = true ∧ ∃ e, Yaml.load text = .error e ∧ e ≠ .malformed := by
  rw [parseDocument, Path.isYaml]
  split_ifs with hyaml hjson
  · cases hload : Yaml.load text with
    | ok v => simp
    | error e =>
      cases e with
      | malformed => simp [LoadFailure.isReported]
      | _ => simp [LoadFailure.isReported, hyaml]
  · cases Json.parse text with
    | ok v => simp [hyaml]
    | error r => simp [LoadFailure.isReported, hyaml]
  · simp [LoadFailure.isReported, hyaml]

/-! ### Loading -/

/-- Whether a path is neither loaded nor reported: no file system takes it; or it leads to a file whose
bytes are those of no text; or it has a name for YAML and leads to a text of which the reader says
something else than that it is malformed. -/
def FileTree.Defeats (t : FileTree) (p : Path) : Prop :=
  p.isUsable = false ∨ ∃ place content, t.resolve p = .file place content ∧
    ((∀ s, ¬ content.Spells s) ∨ p.isYaml = true ∧ ∃ s e, content.Spells s ∧
      Yaml.load (Text.normalizeNewlines s) = .error e ∧ e ≠ .malformed)

theorem loadDocument_of_readText {t : FileTree} {p : Path} {text : String}
    (h : t.readText p = .ok text) :
    loadDocument t p =
      match parseDocument p text with
      | .ok (.map ms) => .ok ms
      | .ok _ => .error (.notMapping p.text)
      | .error f => .error f := by
  rw [loadDocument, h]
  simp only [pure_bind]
  cases parseDocument p text with
  | error f => rfl
  | ok v => cases v <;> rfl

/-- Where a path leads to a file, only what the file holds can defeat loading. -/
theorem FileTree.defeats_iff {t : FileTree} {p : Path} {place : List String} {content : Content}
    (hfile : t.resolve p = .file place content) :
    t.Defeats p ↔ (∀ s, ¬ content.Spells s) ∨ p.isYaml = true ∧ ∃ s e, content.Spells s ∧
      Yaml.load (Text.normalizeNewlines s) = .error e ∧ e ≠ .malformed := by
  constructor
  · rintro (hunusable | ⟨place', content', hfile', h⟩)
    · rw [FileTree.resolve_eq_nowhere_iff.mpr hunusable] at hfile
      cases hfile
    · obtain ⟨-, rfl⟩ := FileTree.Place.file.inj (hfile.symm.trans hfile')
      exact h
  · exact fun h => .inr ⟨place, content, hfile, h⟩

/-- Once its text is read, loading a file fails unreported exactly if parsing does. -/
theorem exists_loadDocument_error_iff_of_readText {t : FileTree} {p : Path} {text : String}
    (h : t.readText p = .ok text) :
    (∃ f, loadDocument t p = .error f ∧ f.isReported = false) ↔
      p.isYaml = true ∧ ∃ e, Yaml.load text = .error e ∧ e ≠ .malformed := by
  rw [loadDocument_of_readText h, ← exists_parseDocument_error_iff]
  cases parseDocument p text with
  | error f => simp
  | ok v => cases v <;> simp [LoadFailure.isReported]

/-- A path that a file system takes and that does not lead to a file is reported. -/
theorem exists_loadDocument_eq_error {t : FileTree} {p : Path} (husable : p.isUsable = true)
    (h : ∀ place content, t.resolve p ≠ .file place content) :
    ∃ f, loadDocument t p = .error f ∧ f.isReported = true := by
  obtain ⟨e, hread, hne⟩ := FileTree.exists_readText_eq_error h
  have hfile := FileTree.isOfFile_of_readText hread
  refine ⟨.unreadable p.text e, ?_, rfl⟩
  rw [loadDocument, hread]
  cases e with
  | undecodable reason => exact absurd rfl (hne reason)
  | unusable =>
    rw [husable] at hfile
    cases hfile
  | _ => rfl

/-- A file is loaded or reported unless its bytes are those of no text or its text has no value. -/
theorem exists_loadDocument_error_iff_of_resolve {t : FileTree} {p : Path} {place : List String}
    {content : Content} (hfile : t.resolve p = .file place content) :
    (∃ f, loadDocument t p = .error f ∧ f.isReported = false) ↔ t.Defeats p := by
  have hread : t.readText p = content.read := by rw [FileTree.readText, hfile]
  rw [FileTree.defeats_iff hfile]
  cases htext : content.read with
  | error e =>
    obtain ⟨reason, rfl⟩ := Content.exists_of_read_eq_error htext
    have hload : loadDocument t p = .error (.undecodable reason) := by
      rw [loadDocument, hread, htext]
      rfl
    have hnone : ∀ s, ¬ content.Spells s := by
      intro s hs
      rw [Content.read_eq_ok_iff.mpr ⟨s, hs, rfl⟩] at htext
      cases htext
    exact ⟨fun _ => .inl hnone, fun _ => ⟨_, hload, rfl⟩⟩
  | ok text =>
    obtain ⟨s, hs, rfl⟩ := Content.read_eq_ok_iff.mp htext
    -- A file holds only one text, up to line ends.
    have honly {s'} (hs' : content.Spells s') :
        Text.normalizeNewlines s' = Text.normalizeNewlines s :=
      Except.ok.inj ((Content.read_eq_ok_iff.mpr ⟨s', hs', rfl⟩).symm.trans htext)
    rw [exists_loadDocument_error_iff_of_readText (hread.trans htext)]
    constructor
    · rintro ⟨hyaml, e, hload, hne⟩
      exact .inr ⟨hyaml, s, e, hs, hload, hne⟩
    · rintro (hnone | ⟨hyaml, s', e, hs', hload, hne⟩)
      · exact absurd hs (hnone s)
      · exact ⟨hyaml, e, honly hs' ▸ hload, hne⟩

/-- **What defeats loading**: exactly then a failure is not reported. -/
theorem exists_loadDocument_error_iff (t : FileTree) (p : Path) :
    (∃ f, loadDocument t p = .error f ∧ f.isReported = false) ↔ t.Defeats p := by
  cases husable : p.isUsable with
  | false =>
    have hload : loadDocument t p = .error .unusable := by
      rw [loadDocument, FileTree.readText_of_isUsable_eq_false husable]
      rfl
    exact ⟨fun _ => .inl husable, fun _ => ⟨_, hload, rfl⟩⟩
  | true =>
    by_cases hfile : ∃ place content, t.resolve p = .file place content
    · obtain ⟨place, content, hfile⟩ := hfile
      exact exists_loadDocument_error_iff_of_resolve hfile
    · -- Without a file there are no bytes and no text to blame.
      have hnofile : ∀ place content, t.resolve p ≠ .file place content :=
        fun place content h => hfile ⟨place, content, h⟩
      obtain ⟨f, hload, hreported⟩ := exists_loadDocument_eq_error husable hnofile
      refine iff_of_false ?_ ?_
      · rintro ⟨f', hf', hunreported⟩
        obtain rfl := Except.error.inj (hload.symm.trans hf')
        rw [hreported] at hunreported
        cases hunreported
      · rintro (hunusable | ⟨place, content, h, -⟩)
        · rw [husable] at hunusable
          cases hunusable
        · exact hnofile place content h

/-- **Loading and validating a file**, for every file tree and path. Unless the file is one that
defeats loading, it is loaded as a map or the failure is reported, and validation has an outcome:
that of the document, or one with the failure as its only error. If the file defeats loading, none
of this happens, and validation hands the failure on. -/
theorem exists_validateFile_iff (t : FileTree) (p : Path) (console : Console) :
    (((∃ d, loadDocument t p = .ok d) ∨ ∃ f, loadDocument t p = .error f ∧ f.isReported = true) ↔
      ¬ t.Defeats p) ∧
    ((∃ outcome, validateFile t p console = .ok outcome ∧
      ((∃ d, loadDocument t p = .ok d ∧ outcome = validateDocument (.map d) console) ∨
        ∃ f, loadDocument t p = .error f ∧
          outcome = (.failed ("Failed to validate file: " ++ f.message), console))) ↔
      ¬ t.Defeats p) ∧
    (t.Defeats p → ∃ f, loadDocument t p = .error f ∧ validateFile t p console = .error f) := by
  rw [← exists_loadDocument_error_iff, validateFile]
  cases loadDocument t p with
  | ok d => simp
  | error f => cases hreported : f.isReported <;> simp [hreported]

end RouteAtlas
