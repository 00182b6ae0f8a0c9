import Mathlib.Data.List.Forall2
import RouteAtlas.Files.Scan
import RouteAtlas.Proofs.Loading

/-!
# A scan goes file by file

A scan keeps one outcome and changes it from file to file, in two different ways. `Contributes` says
what a single file contributes, from what the file tree holds and without the scan: an error if the
path leads to no text, nothing if the text has no mark of routes, and the routes of the text
otherwise. Every path that a file system takes contributes exactly one of these. A path that none
takes contributes nothing at all: it ends the scan without an outcome.

`scanFiles_eq_of_contributes` is the law of a run: its outcome is made of the contributions, one behind
the other. The rest follows from it: scans of lists add up, and a file without routes of its own
changes no others (`isScan_scanFiles`).
-/

namespace RouteAtlas

/-- The text that a path leads to: a file is there, its bytes are those of a text, and this is the text
with its line ends made alike. -/
def FileTree.Reads (t : FileTree) (file : Path) (source : String) : Prop :=
  ∃ place content s, t.resolve file = .file place content ∧ content.Spells s ∧
    source = Text.normalizeNewlines s

theorem FileTree.readText_eq_ok_iff {t : FileTree} {file : Path} {source : String} :
    t.readText file = .ok source ↔ t.Reads file source := by
  by_cases hfile : ∃ place content, t.resolve file = .file place content
  · obtain ⟨place, content, hfile⟩ := hfile
    rw [FileTree.readText, hfile, Content.read_eq_ok_iff]
    constructor
    · rintro ⟨s, hs, rfl⟩
      exact ⟨place, content, s, hfile, hs, rfl⟩
    · rintro ⟨_, _, s, hfile', hs, rfl⟩
      obtain ⟨-, rfl⟩ := FileTree.Place.file.inj (hfile.symm.trans hfile')
      exact ⟨s, hs, rfl⟩
  · obtain ⟨e, he, -⟩ :=
      FileTree.exists_readText_eq_error fun place content h => hfile ⟨place, content, h⟩
    rw [he]
    refine iff_of_false (fun h => by cases h) ?_
    rintro ⟨place, content, s, h, -⟩
    exact hfile ⟨place, content, h⟩

/-! ### Contributions -/

/-- What a file adds to the outcome of a scan. -/
inductive Contribution
  /-- It could not be read. -/
  | failure (e : ScanError)
  /-- It does not look like a route file. -/
  | nothing
  /-- It was searched for routes. -/
  | routes (found : List Route)

namespace Contribution

/-- The routes of a contribution. -/
def foundRoutes : Contribution → List Route
  | .routes found => found
  | _ => []

/-- The errors of a contribution. -/
def errors : Contribution → List ScanError
  | .failure e => [e]
  | _ => []

end Contribution

/-- What a file of a tree contributes. -/
inductive Contributes (t : FileTree) (file : Path) : Contribution → Prop
  | failure {e : FileError} (hnone : ∀ source, ¬t.Reads file source)
      (he : t.readText file = .error e) (hfile : e.isOfFile = true) :
    Contributes t file (.failure ⟨file.text, "Failed to read file: " ++ e.message⟩)
  | nothing {source : String} (hreads : t.Reads file source)
      (hmark : looksLikeRoutes source = false) : Contributes t file .nothing
  | routes {source : String} (hreads : t.Reads file source)
      (hmark : looksLikeRoutes source = true) :
    Contributes t file (.routes (discoverRoutes source file.text .silent).1)

/-- Every path that a file system takes contributes something. -/
theorem exists_contributes {t : FileTree} {file : Path} (husable : file.isUsable = true) :
    ∃ c, Contributes t file c := by
  cases hread : t.readText file with
  | error e =>
    refine ⟨_, .failure (fun source hsource => ?_) hread ?_⟩
    · rw [FileTree.readText_eq_ok_iff.mpr hsource] at hread
      cases hread
    · rw [FileTree.isOfFile_of_readText hread, husable]
  | ok source =>
    have hsource := FileTree.readText_eq_ok_iff.mp hread
    cases hmark : looksLikeRoutes source with
    | false => exact ⟨_, .nothing hsource hmark⟩
    | true => exact ⟨_, .routes hsource hmark⟩

/-- A path that no file system takes contributes nothing. -/
theorem Contributes.isUsable {t : FileTree} {file : Path} {c : Contribution}
    (h : Contributes t file c) : file.isUsable = true := by
  by_contra hnot
  have hread : t.readText file = .error .unusable :=
    FileTree.readText_of_isUsable_eq_false (by simpa using hnot)
  cases h with
  | failure _ he hfile =>
    rw [← Except.error.inj (hread.symm.trans he)] at hfile
    cases hfile
  | nothing hreads | routes hreads =>
    rw [FileTree.readText_eq_ok_iff.mpr hreads] at hread
    cases hread

/-- A path leads to one text at most. -/
theorem FileTree.Reads.unique {t : FileTree} {file : Path} {source source' : String}
    (h : t.Reads file source) (h' : t.Reads file source') : source = source' :=
  Except.ok.inj ((readText_eq_ok_iff.mpr h).symm.trans (readText_eq_ok_iff.mpr h'))

theorem Contributes.unique {t : FileTree} {file : Path} {c c' : Contribution}
    (h : Contributes t file c) (h' : Contributes t file c') : c = c' := by
  cases h with
  | failure hnone he =>
    cases h' with
    | failure _ he' => rw [Except.error.inj (he.symm.trans he')]
    | nothing hreads => exact absurd hreads (hnone _)
    | routes hreads => exact absurd hreads (hnone _)
  | nothing hreads hmark =>
    cases h' with
    | failure hnone => exact absurd hreads (hnone _)
    | nothing => rfl
    | routes hreads' hmark' =>
      rw [hreads.unique hreads', hmark'] at hmark
      cases hmark
  | routes hreads hmark =>
    cases h' with
    | failure hnone => exact absurd hreads (hnone _)
    | nothing hreads' hmark' =>
      rw [hreads.unique hreads', hmark'] at hmark
      cases hmark
    | routes hreads' => rw [hreads.unique hreads']

/-! ### Runs -/

/-- An outcome with one more contribution. -/
def ScanResult.add (r : ScanResult) (c : Contribution) : ScanResult :=
  { r with routes := r.routes ++ c.foundRoutes, errors := r.errors ++ c.errors }

/-- What is found in a text does not depend on what was printed before. -/
theorem fst_discoverRoutes (source filePath : String) (console : Console) :
    (discoverRoutes source filePath console).1 = (discoverRoutes source filePath .silent).1 := by
  rw [discoverRoutes, discoverRoutes]
  cases extractRoutes source filePath <;> rfl

/-- One step of a scan adds what the file contributes. -/
theorem fst_scanFile {t : FileTree} {file : Path} {c : Contribution} (h : Contributes t file c)
    (result : ScanResult) (console : Console) :
    (scanFile t file result console).1 = .ok (result.add c) := by
  cases h with
  | failure hnone he hfile =>
    rw [scanFile, he]
    simp [hfile, ScanResult.add, Contribution.foundRoutes, Contribution.errors]
  | nothing hreads hmark =>
    rw [scanFile, FileTree.readText_eq_ok_iff.mpr hreads]
    simp [hmark, ScanResult.add, Contribution.foundRoutes, Contribution.errors]
  | routes hreads hmark =>
    rw [scanFile, FileTree.readText_eq_ok_iff.mpr hreads]
    simp [hmark, ScanResult.add, Contribution.foundRoutes, Contribution.errors, fst_discoverRoutes]

/-- A step that adds something is followed by the rest of the scan. -/
theorem fst_scanFrom_cons {t : FileTree} {file : Path} {c : Contribution} (h : Contributes t file c)
    (files : List Path) (result : ScanResult) (console : Console) :
    ∃ console', (scanFrom t (file :: files) result console).1 =
      (scanFrom t files (result.add c) console').1 := by
  have hstep := fst_scanFile h result console
  cases hscan : scanFile t file result console with
  | mk outcome console' =>
    rw [hscan] at hstep
    obtain rfl : outcome = .ok (result.add c) := hstep
    exact ⟨console', by rw [scanFrom, hscan]⟩

/-- **The outcome of a scan is made of the contributions of its files.** -/
theorem scanFiles_eq_of_contributes {t : FileTree} {files : List Path} {cs : List Contribution}
    (h : List.Forall₂ (Contributes t) files cs) (console : Console) :
    (scanFiles t files console).1 =
      .ok ⟨cs.flatMap Contribution.foundRoutes, files.length, cs.flatMap Contribution.errors⟩ := by
  -- The console runs along without an effect on the outcome, so the outcome is a fold of its own.
  have hrun : ∀ result console,
      (scanFrom t files result console).1 = .ok (cs.foldl ScanResult.add result) := by
    induction h with
    | nil => exact fun _ _ => rfl
    | cons hfile _ ih =>
      intro result console
      obtain ⟨console', hstep⟩ := fst_scanFrom_cons hfile _ result console
      rw [hstep, ih, List.foldl_cons]
  have hadd : ∀ r : ScanResult, cs.foldl ScanResult.add r =
      ⟨r.routes ++ cs.flatMap Contribution.foundRoutes, r.totalFiles,
        r.errors ++ cs.flatMap Contribution.errors⟩ := by
    clear h hrun
    induction cs with
    | nil => simp
    | cons c cs ih => simp [ih, ScanResult.add]
  rw [scanFiles, hrun, hadd]
  simp

/-- **A path that no file system takes ends the scan**, whatever was found before it. -/
theorem scanFiles_eq_error {t : FileTree} {files : List Path}
    (h : ∃ file ∈ files, file.isUsable = false) (console : Console) :
    (scanFiles t files console).1 = .error .unusable := by
  have hrun : ∀ result console, (scanFrom t files result console).1 = .error .unusable := by
    induction files with
    | nil => simp at h
    | cons file files ih =>
      intro result console
      cases husable : file.isUsable with
      | false =>
        rw [scanFrom, scanFile, FileTree.readText_of_isUsable_eq_false husable]
        rfl
      | true =>
        -- Then the path is one of those behind.
        have hbehind : ∃ file ∈ files, file.isUsable = false := by simpa [husable] using h
        obtain ⟨c, hc⟩ := exists_contributes (t := t) husable
        obtain ⟨console', hstep⟩ := fst_scanFrom_cons hc files result console
        rw [hstep, ih hbehind]
  exact hrun _ _

theorem exists_forall₂_contributes (t : FileTree) {files : List Path}
    (husable : ∀ file ∈ files, file.isUsable = true) :
    ∃ cs, List.Forall₂ (Contributes t) files cs := by
  induction files with
  | nil => exact ⟨[], .nil⟩
  | cons file files ih =>
    obtain ⟨hfile, hfiles⟩ := List.forall_mem_cons.mp husable
    obtain ⟨c, hc⟩ := exists_contributes (t := t) hfile
    obtain ⟨cs, hcs⟩ := ih hfiles
    exact ⟨c :: cs, .cons hc hcs⟩

/-- A scan that has an outcome met only paths that a file system takes. -/
theorem forall_isUsable_of_scanFiles {t : FileTree} {files : List Path} {console : Console}
    {result : ScanResult} (h : (scanFiles t files console).1 = .ok result) :
    ∀ file ∈ files, file.isUsable = true := by
  by_contra hnot
  rw [scanFiles_eq_error (by simpa using hnot)] at h
  cases h

/-- A file that cannot be read, or whose text is no source text, contributes no routes. -/
theorem Contributes.foundRoutes_eq_nil {t : FileTree} {file : Path} {c : Contribution}
    (h : Contributes t file c)
    (hbroken : ∀ source routes, t.Reads file source → extractRoutes source file.text ≠ .ok routes) :
    c.foundRoutes = [] := by
  cases h with
  | failure => rfl
  | nothing => rfl
  | routes hreads hmark =>
    rw [Contribution.foundRoutes, discoverRoutes]
    split
    · rename_i routes hroutes
      exact absurd hroutes (hbroken _ routes hreads)
    · rfl

/-- The outcome of a scan of files: the contributions of the files, in the order of the list, and how
many files and routes there are. -/
structure IsScan (t : FileTree) (files : List Path) (result : ScanResult) : Prop where
  contributions : ∃ cs, List.Forall₂ (Contributes t) files cs ∧
    result.routes = cs.flatMap Contribution.foundRoutes ∧
    result.errors = cs.flatMap Contribution.errors
  totalFiles : result.totalFiles = files.length
  totalRoutes : result.totalRoutes = result.routes.length

/-- **A scan goes file by file**, as long as a file system takes every path. Every such path contributes
exactly one thing, and the outcome of a scan is made of the contributions. So the outcome for two lists
of files is that for the first followed by that for the second, and a file that cannot be read, or
whose text cannot be parsed, changes no other file's routes. A single path that no file system takes
leaves a scan without an outcome. -/
theorem isScan_scanFiles (t : FileTree) :
    (∀ file, (∃! c, Contributes t file c) ↔ file.isUsable = true) ∧
    (∀ files console,
      (∀ file ∈ files, file.isUsable = true) ∧
          (∃ result, (scanFiles t files console).1 = .ok result ∧ IsScan t files result) ∨
        (∃ file ∈ files, file.isUsable = false) ∧
          (scanFiles t files console).1 = .error .unusable) ∧
    (∀ files files' console console' console'' first second,
      (scanFiles t files console).1 = .ok first → (scanFiles t files' console').1 = .ok second →
      ∃ both, (scanFiles t (files ++ files') console'').1 = .ok both ∧
        both.routes = first.routes ++ second.routes ∧ both.errors = first.errors ++ second.errors ∧
        both.totalFiles = first.totalFiles + second.totalFiles ∧
        both.totalRoutes = first.totalRoutes + second.totalRoutes) ∧
    ∀ files file files' console whole,
      (∀ source routes, t.Reads file source → extractRoutes source file.text ≠ .ok routes) →
      (scanFiles t (files ++ file :: files') console).1 = .ok whole →
      ∃ rest, (scanFiles t (files ++ files') console).1 = .ok rest ∧ whole.routes = rest.routes := by
  refine ⟨fun file => ⟨fun ⟨c, hc, _⟩ => hc.isUsable, fun husable => ?_⟩, fun files console => ?_,
    fun files files' console console' console'' first second hfirst hsecond => ?_,
    fun files file files' console whole hbroken hwhole => ?_⟩
  · obtain ⟨c, hc⟩ := exists_contributes husable
    exact ⟨c, hc, fun c' hc' => hc'.unique hc⟩
  · by_cases husable : ∀ file ∈ files, file.isUsable = true
    · obtain ⟨cs, hcs⟩ := exists_forall₂_contributes t husable
      exact .inl ⟨husable, _, scanFiles_eq_of_contributes hcs console, ⟨cs, hcs, rfl, rfl⟩, rfl, rfl⟩
    · have hunusable : ∃ file ∈ files, file.isUsable = false := by simpa using husable
      exact .inr ⟨hunusable, scanFiles_eq_error hunusable console⟩
  · obtain ⟨cs, hcs⟩ := exists_forall₂_contributes t (forall_isUsable_of_scanFiles hfirst)
    obtain ⟨cs', hcs'⟩ := exists_forall₂_contributes t (forall_isUsable_of_scanFiles hsecond)
    rw [scanFiles_eq_of_contributes hcs] at hfirst
    rw [scanFiles_eq_of_contributes hcs'] at hsecond
    refine ⟨_, scanFiles_eq_of_contributes (List.rel_append hcs hcs') console'', ?_⟩
    simp only [← Except.ok.inj hfirst, ← Except.ok.inj hsecond, ScanResult.totalRoutes,
      List.flatMap_append, List.length_append, and_self]
  · obtain ⟨hfront, hmiddle, hback⟩ : (∀ file ∈ files, file.isUsable = true) ∧
        file.isUsable = true ∧ ∀ file ∈ files', file.isUsable = true := by
      simpa only [List.forall_mem_append, List.forall_mem_cons] using
        forall_isUsable_of_scanFiles hwhole
    obtain ⟨cs, hcs⟩ := exists_forall₂_contributes t hfront
    obtain ⟨c, hc⟩ := exists_contributes (t := t) hmiddle
    obtain ⟨cs', hcs'⟩ := exists_forall₂_contributes t hback
    rw [scanFiles_eq_of_contributes (List.rel_append hcs (.cons hc hcs'))] at hwhole
    refine ⟨_, scanFiles_eq_of_contributes (List.rel_append hcs hcs') console, ?_⟩
    rw [← Except.ok.inj hwhole]
    simp [hc.foundRoutes_eq_nil hbroken]

/-- A tree with a route file, a file of bytes that are no text, and one that breaks off. -/
def troubledTree : FileTree :=
  .ofList [("a.js", .file (.text "router.get('/a', list);")), ("b.js", .file (.bytes [0xFF])),
    ("c.js", .file (.text "router.get("))]

theorem isScan_scanFiles_troubledTree :
    ∃ whole rest,
      (scanFiles troubledTree ([⟨false, ["a.js"]⟩, ⟨false, ["b.js"]⟩] ++
        ⟨false, ["c.js"]⟩ :: [⟨false, ["d.js"]⟩, ⟨false, ["a.js"]⟩]) .silent).1 = .ok whole ∧
      (whole.routes.map (·.path), whole.errors.length, whole.totalFiles) = (["/a", "/a"], 2, 5) ∧
      (scanFiles troubledTree ([⟨false, ["a.js"]⟩, ⟨false, ["b.js"]⟩] ++
        [⟨false, ["d.js"]⟩, ⟨false, ["a.js"]⟩]) .silent).1 = .ok rest ∧
      whole.routes = rest.routes := by
  have hscan : (scanFiles troubledTree ([⟨false, ["a.js"]⟩, ⟨false, ["b.js"]⟩] ++
      ⟨false, ["c.js"]⟩ :: [⟨false, ["d.js"]⟩, ⟨false, ["a.js"]⟩]) .silent).1.toOption.map
        (fun r => (r.routes.map (·.path), r.errors.length, r.totalFiles)) =
      some (["/a", "/a"], 2, 5) := by decide +kernel
  obtain ⟨whole, hwhole, hcounts⟩ := exists_ok_of_map_toOption hscan
  -- The only text that the third path leads to breaks off.
  have hnone : ∀ source routes, troubledTree.Reads ⟨false, ["c.js"]⟩ source →
      extractRoutes source (Path.text ⟨false, ["c.js"]⟩) ≠ .ok routes := by
    intro source routes h hextract
    have hread : troubledTree.readText ⟨false, ["c.js"]⟩ = .ok "router.get(" := rfl
    rw [FileTree.Reads.unique h (FileTree.readText_eq_ok_iff.mp hread)] at hextract
    have hbroken : (extractRoutes "router.get(" (Path.text ⟨false, ["c.js"]⟩)).toOption.isSome =
        false := by decide +kernel
    rw [hextract] at hbroken
    cases hbroken
  obtain ⟨rest, hrest, hroutes⟩ :=
    (isScan_scanFiles troubledTree).2.2.2 _ _ _ _ _ hnone hwhole
  exact ⟨whole, rest, hwhole, hcounts, hrest, hroutes⟩

/-- The route file is lost with a path that no file system takes, in front of it or behind. -/
example : [[⟨false, ["a\x00b.js"]⟩, ⟨false, ["a.js"]⟩], [⟨false, ["a.js"]⟩, ⟨false, ["a\x00b.js"]⟩]].map
    (fun files => (scanFiles troubledTree files .silent).1.toOption.isSome) = [false, false] := by
  decide +kernel

end RouteAtlas
