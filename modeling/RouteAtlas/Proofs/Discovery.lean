import Mathlib.Data.List.Induction
import RouteAtlas.Files.Scan
import RouteAtlas.Proofs.FileWriting
import RouteAtlas.Proofs.Globbing

/-!
# Which files are route files

The usual patterns overlap: there are folders for routes inside folders for routes, and folders whose
names end like those of files. What they find all the same is said by one condition on the place of a
file below the root of the project (`IsRoutePlace`), and `exists_findRouteFiles` says that exactly the
files at such places are found.

The search goes through the entries of the file tree, but a path is looked up by walking from folder to
folder. The two agree because the entries are those of a folder (`FileTree.IsTree`): what is at a place
is in a folder, so that a walk down from that folder gets there (`FileTree.IsTree.walk_eq_file_iff`).
-/

namespace RouteAtlas

/-- The path of a place below another path. -/
def Path.below (root : Path) (place : List String) : Path :=
  { root with parts := root.parts ++ place }

namespace FileTree

/-! ### Walks to files -/

/-- What is at no place but the root is an entry. -/
theorem mem_entries_of_at? {t : FileTree} {place : List String} {e : Entry} (hplace : place ≠ [])
    (h : t.at? place = some e) : (place, e) ∈ t.entries :=
  Table.mem_of_get? ((t.at?_of_ne_nil hplace).symm.trans h)

/-- A walk to a file that leads on from some names has come to a folder by them. -/
theorem exists_of_walk_append_eq_file {t : FileTree} {folder front rest place : List String}
    {content : Content} (hrest : rest ≠ [])
    (h : t.walk folder (front ++ rest) = .file place content) :
    ∃ g, t.walk folder front = .folder g ∧ t.walk g rest = .file place content := by
  induction front generalizing folder with
  | nil => exact ⟨folder, rfl, h⟩
  | cons name front ih =>
    -- There are names left, so that a file at the first name would block the walk.
    have hgoes : (front ++ rest).isEmpty = false := by simp [hrest]
    by_cases hname : name = ".."
    · subst hname
      rw [List.cons_append, walk] at h
      split_ifs at h with hroot
      obtain ⟨g, hfront, hg⟩ := ih h
      exact ⟨g, by rw [walk, if_neg hroot, hfront], hg⟩
    · rw [List.cons_append, walk_cons _ _ hname, hgoes] at h
      split at h
      · rename_i hat
        obtain ⟨g, hfront, hg⟩ := ih h
        exact ⟨g, by rw [walk_cons _ _ hname, hat]; exact hfront, hg⟩
      · cases h
      · cases h

/-- A walk down to a file ends at the place that the names tell. -/
theorem at?_of_walk_eq_file {t : FileTree} {folder names place : List String} {content : Content}
    (hup : ".." ∉ names) (h : t.walk folder names = .file place content) :
    place = folder ++ names ∧ t.at? (folder ++ names) = some (.file content) := by
  induction names generalizing folder with
  | nil => cases h
  | cons name rest ih =>
    obtain ⟨hname, hrest⟩ := not_or.mp (mt List.mem_cons.mpr hup)
    rw [walk_cons _ _ (Ne.symm hname)] at h
    split at h
    · have hplace := ih hrest h
      rwa [List.append_assoc] at hplace
    · rename_i hat
      split_ifs at h with hlast
      obtain rfl := List.isEmpty_iff.mp hlast
      obtain ⟨rfl, rfl⟩ := Place.file.inj h
      exact ⟨rfl, hat⟩
    · split_ifs at h

/-! ### The entries of a folder -/

/-- Whether the entries of a file tree are what is in a folder: no place has two of them, and each has
a name, which is not two points, in a folder that is there. -/
structure IsTree (t : FileTree) : Prop where
  nodup : (t.entries.map Prod.fst).Nodup
  inFolder : ∀ e ∈ t.entries,
    e.1 ≠ [] ∧ e.1.getLast? ≠ some ".." ∧ t.at? e.1.dropLast = some .folder

namespace IsTree

variable {t : FileTree}

/-- An entry is what is at its place. -/
theorem mem_entries_iff (ht : t.IsTree) {place : List String} {content : Content} :
    (place, .file content) ∈ t.entries ↔ t.at? place = some (.file content) := by
  constructor
  · intro h
    rw [at?_of_ne_nil _ (ht.inFolder _ h).1]
    exact Table.get?_of_mem ht.nodup h
  · intro h
    refine mem_entries_of_at? ?_ h
    rintro rfl
    cases h

/-- Above what is at a place there is a folder. -/
theorem at?_of_concat (ht : t.IsTree) {folder : List String} {name : String} {e : Entry}
    (h : t.at? (folder ++ [name]) = some e) : name ≠ ".." ∧ t.at? folder = some .folder := by
  obtain ⟨-, hname, hfolder⟩ := ht.inFolder _ (mem_entries_of_at? (by simp) h)
  rw [List.getLast?_concat] at hname
  rw [List.dropLast_concat] at hfolder
  exact ⟨fun hup => hname (congrArg some hup), hfolder⟩

theorem at?_of_append (ht : t.IsTree) {folder names : List String} {e : Entry} (hnames : names ≠ [])
    (h : t.at? (folder ++ names) = some e) : t.at? folder = some .folder := by
  induction names using List.reverseRecOn generalizing e with
  | nil => exact absurd rfl hnames
  | append_singleton names name ih =>
    have habove := (ht.at?_of_concat (by rwa [List.append_assoc])).2
    by_cases hlast : names = []
    · rwa [hlast, List.append_nil] at habove
    · exact ih hlast habove

/-- No place leads up. -/
theorem up_notMem (ht : t.IsTree) {place : List String} {e : Entry} (h : t.at? place = some e) :
    ".." ∉ place := by
  induction place using List.reverseRecOn generalizing e with
  | nil => exact List.not_mem_nil
  | append_singleton folder name ih =>
    obtain ⟨hname, hfolder⟩ := ht.at?_of_concat h
    simp [ih hfolder, Ne.symm hname]

/-- A walk down from a folder ends at a file just when a file is at the place that the names tell. -/
theorem walk_eq_file_iff (ht : t.IsTree) {folder names place : List String} {content : Content}
    (hnames : names ≠ []) (hup : ".." ∉ names) :
    t.walk folder names = .file place content ↔
      place = folder ++ names ∧ t.at? (folder ++ names) = some (.file content) := by
  refine ⟨at?_of_walk_eq_file hup, ?_⟩
  rintro ⟨rfl, h⟩
  induction names generalizing folder with
  | nil => exact absurd rfl hnames
  | cons name rest ih =>
    obtain ⟨hname, hrest⟩ := not_or.mp (mt List.mem_cons.mpr hup)
    rw [walk_cons _ _ (Ne.symm hname)]
    by_cases hlast : rest = []
    · subst hlast
      rw [h]
      rfl
    · have hsplit : folder ++ name :: rest = folder ++ [name] ++ rest := by simp
      rw [hsplit] at h ⊢
      rw [ht.at?_of_append hlast h]
      exact ih hlast hrest h

end IsTree

/-! ### Files below a path -/

theorem lookUp_below {t : FileTree} {root : Path} {g : List String}
    (hroot : t.lookUp root = .folder g) (place : List String) :
    t.lookUp (root.below place) = t.walk g place := by
  rw [lookUp] at hroot ⊢
  split_ifs at hroot with habsolute
  rw [Path.below, if_neg habsolute, walk_append_of_folder hroot]

theorem isFile_iff {t : FileTree} {p : Path} :
    t.isFile p = true ↔ ∃ place content, t.lookUp p = .file place content := by
  rw [isFile]
  cases t.lookUp p <;> simp

/-- There are files only below paths that lead to folders. -/
theorem exists_lookUp_of_isFile_below {t : FileTree} {root : Path} {place : List String}
    (hplace : place ≠ []) (h : t.isFile (root.below place) = true) :
    ∃ g, t.lookUp root = .folder g := by
  obtain ⟨full, content, hlook⟩ := isFile_iff.mp h
  have habsolute : ¬root.absolute = true := by
    intro habsolute
    rw [lookUp, Path.below, if_pos habsolute] at hlook
    cases hlook
  rw [lookUp, Path.below, if_neg habsolute] at hlook
  obtain ⟨g, hroot, -⟩ := exists_of_walk_append_eq_file hplace hlook
  exact ⟨g, by rw [lookUp, if_neg habsolute, hroot]⟩

/-- The files below a folder are those that can be looked up from there without going up. -/
theorem IsTree.mem_filesBelow_iff {t : FileTree} (ht : t.IsTree) {root : Path}
    {g place : List String} (hroot : t.lookUp root = .folder g) (hplace : place ≠ []) :
    place ∈ Glob.filesBelow t g ↔ ".." ∉ place ∧ t.isFile (root.below place) = true := by
  rw [Glob.mem_filesBelow_iff, isFile_iff, lookUp_below hroot]
  constructor
  · rintro ⟨content, hentry⟩
    have hat := ht.mem_entries_iff.mp hentry
    have hup : ".." ∉ place := fun h => ht.up_notMem hat (List.mem_append_right _ h)
    exact ⟨hup, _, content, (ht.walk_eq_file_iff hplace hup).mpr ⟨rfl, hat⟩⟩
  · rintro ⟨hup, full, content, hwalk⟩
    have hat := (at?_of_walk_eq_file hup hwalk).2
    exact ⟨content, ht.mem_entries_iff.mpr hat⟩

end FileTree

/-! ### Route files -/

/-- The folders of a project that are searched for route files. -/
def routeFolders : List (List String) :=
  [["routes"], ["src", "routes"], ["app", "routes"], ["server", "routes"]]

/-- How the names of route files end. -/
def routeFileEnds : List String := [".js", ".ts"]

/-- Whether a file at a place of a project is a route file: it is in one of the folders for routes or
in folders below, at any depth, its name ends as those of route files do, and no folder on the way
belongs to an installed package. -/
structure IsRoutePlace (place : List String) : Prop where
  inRouteFolder : ∃ front ∈ routeFolders, ∃ folders name, place = front ++ folders ++ [name] ∧
    ∃ ending ∈ routeFileEnds, ending.toList <:+ name.toList
  notInstalled : "node_modules" ∉ place

theorem IsRoutePlace.ne_nil {place : List String} (h : IsRoutePlace place) : place ≠ [] := by
  obtain ⟨front, -, folders, name, rfl, -⟩ := h.inRouteFolder
  simp

/-- The usual patterns: for each folder and each ending, any number of folders and then a name. -/
theorem mapM_partsOf_routeFilePatterns :
    routeFilePatterns.mapM Glob.partsOf = .ok (routeFolders.flatMap fun front =>
      routeFileEnds.map fun ending => front ++ [Glob.anyFolders, "*" ++ ending]) := by
  decide +kernel

theorem isLiteral_of_mem_routeFolders :
    ∀ front ∈ routeFolders, ∀ name ∈ front, Glob.IsLiteral name := by
  simp [routeFolders, Glob.IsLiteral]

theorem isLiteral_of_mem_routeFileEnds : ∀ ending ∈ routeFileEnds, Glob.IsLiteral ending := by
  simp [routeFileEnds, Glob.IsLiteral]

theorem star_append_ne_anyFolders : ∀ ending ∈ routeFileEnds, "*" ++ ending ≠ Glob.anyFolders := by
  decide

/-- One of the usual patterns matches just the places in folders for routes. -/
theorem exists_matchParts_iff {place : List String} :
    (∃ parts ∈ routeFolders.flatMap fun front =>
        routeFileEnds.map fun ending => front ++ [Glob.anyFolders, "*" ++ ending],
      Glob.matchParts parts place = true) ↔
    ∃ front ∈ routeFolders, ∃ folders name, place = front ++ folders ++ [name] ∧
      ∃ ending ∈ routeFileEnds, ending.toList <:+ name.toList := by
  constructor
  · rintro ⟨parts, hparts, hmatch⟩
    obtain ⟨front, hfront, hparts⟩ := List.mem_flatMap.mp hparts
    obtain ⟨ending, hending, rfl⟩ := List.mem_map.mp hparts
    obtain ⟨rest, rfl, hrest⟩ :=
      (Glob.matchParts_append_iff (isLiteral_of_mem_routeFolders front hfront)).mp hmatch
    obtain ⟨folders, name, rfl, hname⟩ :=
      (Glob.matchParts_anyFolders_iff (star_append_ne_anyFolders ending hending)).mp hrest
    refine ⟨front, hfront, folders, name, (List.append_assoc _ _ _).symm, ending, hending, ?_⟩
    exact (Glob.matchName_star_append_iff (isLiteral_of_mem_routeFileEnds ending hending)).mp hname
  · rintro ⟨front, hfront, folders, name, rfl, ending, hending, hname⟩
    refine ⟨_, List.mem_flatMap.mpr ⟨front, hfront, List.mem_map_of_mem hending⟩, ?_⟩
    have hliteral := isLiteral_of_mem_routeFileEnds ending hending
    rw [List.append_assoc,
      Glob.matchParts_append_iff (isLiteral_of_mem_routeFolders front hfront)]
    refine ⟨_, rfl, (Glob.matchParts_anyFolders_iff ?_).mpr ⟨folders, name, rfl, ?_⟩⟩
    · exact star_append_ne_anyFolders ending hending
    · exact (Glob.matchName_star_append_iff hliteral).mpr hname

/-- What the usual patterns find in the folder of a project. -/
theorem exists_find_routeFilePatterns {t : FileTree} (ht : t.IsTree) {root : Path}
    {g : List String} (hroot : t.lookUp root = .folder g) :
    ∃ places, Glob.find t g routeFilePatterns = .ok places ∧ places.Pairwise (· < ·) ∧
      ∀ place, place ∈ places ↔
        ".." ∉ place ∧ IsRoutePlace place ∧ t.isFile (root.below place) = true := by
  obtain ⟨places, hplaces, hordered, hmem⟩ :=
    Glob.exists_find ht.nodup g mapM_partsOf_routeFilePatterns
  refine ⟨places, hplaces, hordered, fun place => ?_⟩
  rw [hmem, exists_matchParts_iff]
  constructor
  · rintro ⟨hbelow, hskip, hfront⟩
    have hroute : IsRoutePlace place := ⟨hfront, hskip⟩
    obtain ⟨hup, hfile⟩ := (ht.mem_filesBelow_iff hroot hroute.ne_nil).mp hbelow
    exact ⟨hup, hroute, hfile⟩
  · rintro ⟨hup, hroute, hfile⟩
    have hbelow := (ht.mem_filesBelow_iff hroot hroute.ne_nil).mpr ⟨hup, hfile⟩
    exact ⟨hbelow, hroute.notInstalled, hroute.inRouteFolder⟩

/-- **The route files of a project are found**, each once and in the order of their paths: they are the
files below the root whose places are those of route files. A place below the root does not lead up. -/
theorem exists_findRouteFiles {t : FileTree} (ht : t.IsTree) (root : Path) :
    ∃ found, findRouteFiles t root [] = .ok found ∧
      found.Pairwise (fun p q => p.parts < q.parts) ∧
      ∀ p, p ∈ found ↔ ∃ place, p = root.below place ∧ ".." ∉ place ∧ IsRoutePlace place ∧
        t.isFile p = true := by
  by_cases hfolder : ∃ g, t.lookUp root = .folder g
  · obtain ⟨g, hroot⟩ := hfolder
    obtain ⟨places, hplaces, hordered, hmem⟩ := exists_find_routeFilePatterns ht hroot
    refine ⟨places.map root.below, ?_, ?_, fun p => ?_⟩
    · simp only [findRouteFiles, hroot, List.isEmpty_nil, if_true, hplaces]
      rfl
    · -- All these paths begin with the root, so that their places order them.
      exact List.pairwise_map.mpr (hordered.imp fun h => List.append_left_lt h)
    · rw [List.mem_map]
      constructor
      · rintro ⟨place, hplace, rfl⟩
        obtain ⟨hup, hroute, hfile⟩ := (hmem place).mp hplace
        exact ⟨place, rfl, hup, hroute, hfile⟩
      · rintro ⟨place, rfl, hup, hroute, hfile⟩
        exact ⟨place, (hmem place).mpr ⟨hup, hroute, hfile⟩, rfl⟩
  · -- Nothing is searched, and there is no file below a path that leads to no folder.
    have hnone : findRouteFiles t root [] = .ok [] := by
      rw [findRouteFiles]
      split
      · rename_i g hroot
        exact absurd ⟨g, hroot⟩ hfolder
      · rfl
    refine ⟨[], hnone, List.Pairwise.nil, fun p => iff_of_false List.not_mem_nil ?_⟩
    rintro ⟨place, rfl, -, hroute, hfile⟩
    exact hfolder (FileTree.exists_lookUp_of_isFile_below hroute.ne_nil hfile)

/-- A project whose folders for routes hold a folder that is named like a file, with more routes in it,
and an installed package. -/
def nestedProject : FileTree where
  entries := [
    (["shop"], .folder), (["shop", "index.js"], .file (.text "")), (["shop", "src"], .folder),
    (["shop", "src", "routes"], .folder), (["shop", "src", "routes", "x.js"], .folder),
    (["shop", "src", "routes", "x.js", "routes"], .folder),
    (["shop", "src", "routes", "x.js", "routes", ".js"], .file (.text "")),
    (["shop", "src", "routes", "b.ts"], .file (.text "")),
    (["shop", "src", "routes", "node_modules"], .folder),
    (["shop", "src", "routes", "node_modules", "m.js"], .file (.text "")),
    (["shop", "src", "routes", "readme.md"], .file (.text ""))]

theorem isTree_nestedProject : nestedProject.IsTree := ⟨by decide, by decide⟩

theorem exists_findRouteFiles_nestedProject :
    ∃ found, findRouteFiles nestedProject ⟨false, ["shop"]⟩ [] = .ok found ∧
      ⟨false, ["shop", "src", "routes", "b.ts"]⟩ ∈ found ∧
      ⟨false, ["shop", "src", "routes", "x.js", "routes", ".js"]⟩ ∈ found ∧
      ⟨false, ["shop", "src", "routes", "x.js"]⟩ ∉ found ∧
      ⟨false, ["shop", "src", "routes", "node_modules", "m.js"]⟩ ∉ found := by
  obtain ⟨found, hfound, -, hmem⟩ := exists_findRouteFiles isTree_nestedProject ⟨false, ["shop"]⟩
  refine ⟨found, hfound, (hmem _).mpr ?_, (hmem _).mpr ?_, ?_, ?_⟩
  · exact ⟨["src", "routes", "b.ts"], rfl, by decide,
      ⟨⟨["src", "routes"], by decide, [], "b.ts", rfl, ".ts", by decide, by decide⟩, by decide⟩, rfl⟩
  · exact ⟨["src", "routes", "x.js", "routes", ".js"], rfl, by decide,
      ⟨⟨["src", "routes"], by decide, ["x.js", "routes"], ".js", rfl, ".js", by decide, by decide⟩,
        by decide⟩, rfl⟩
  · -- There is a folder at this path.
    intro h
    obtain ⟨-, -, -, -, hfile⟩ := (hmem _).mp h
    exact absurd hfile (by decide)
  · intro h
    obtain ⟨place, hplace, -, hroute, -⟩ := (hmem _).mp h
    obtain rfl : place = ["src", "routes", "node_modules", "m.js"] := by
      simpa [Path.below] using hplace.symm
    exact hroute.notInstalled (by decide)

end RouteAtlas
