import RouteAtlas.Files.Tree
import RouteAtlas.Proofs.Table

/-!
# Writing into a folder

What becomes of a file tree when a folder is made and files are written into it. A folder that was
made is there (`exists_resolve_of_makeFolder`), and a text that is written into a folder under a
name is found there afterwards, while nothing changes under the other names of the folder
(`exists_writeText_child`). So a text can be written to every path that leads to a file, or to
nothing in a folder that is there (`exists_writeText`).

Looking up a path walks from folder to folder. So most of this rests on one fact: a walk that ends
in a folder ends in the same folder of every tree that has all folders of the first
(`KeepsFolders.walk`).
-/

namespace RouteAtlas.FileTree

/-! ### What is at a place -/

theorem at?_of_ne_nil (t : FileTree) {place : List String} (h : place ≠ []) :
    t.at? place = Table.get? place t.entries := by
  simp [at?, Table.get?, h, ← beq_eq_decide]

/-- Adding something where nothing is changes what is at that place and nothing else. -/
theorem at?_add {t : FileTree} {place : List String} (hfree : t.at? place = none) (e : Entry)
    (other : List String) :
    (t.add place e).at? other = if other = place then some e else t.at? other := by
  have hplace : place ≠ [] := by
    rintro rfl
    cases hfree
  rw [add, hfree]
  by_cases hother : other = []
  · rw [if_neg (hother ▸ hplace.symm), hother]
    rfl
  · rw [at?_of_ne_nil _ hplace] at hfree
    rw [at?_of_ne_nil _ hother, at?_of_ne_nil _ hother]
    exact Table.get?_concat hfree e other

/-- Writing a file changes what is at its place and nothing else. -/
theorem at?_write (t : FileTree) {place : List String} (hplace : place ≠ []) (content : Content)
    (other : List String) :
    (t.write place content).at? other =
      if other = place then some (.file content) else t.at? other := by
  rw [write]
  cases hat : t.at? place with
  | none =>
    have hadd := at?_add hat (.file content) other
    rwa [add, hat] at hadd
  | some e =>
    by_cases hother : other = []
    · rw [if_neg (hother ▸ hplace.symm), hother]
      rfl
    · rw [at?_of_ne_nil _ hplace] at hat
      rw [at?_of_ne_nil _ hother, at?_of_ne_nil _ hother]
      have hreplace := Table.get?_replaceAll place (Entry.file content) other t.entries
      rw [hat] at hreplace
      simpa using hreplace

/-! ### Walks -/

theorem walk_cons (t : FileTree) (folder : List String) {name : String} (hname : name ≠ "..")
    (rest : List String) :
    t.walk folder (name :: rest) =
      match t.at? (folder ++ [name]) with
      | some .folder => t.walk (folder ++ [name]) rest
      | some (.file content) => if rest.isEmpty then .file (folder ++ [name]) content else .blocked
      | none => if rest.isEmpty then .free (folder ++ [name]) else .missing := by
  rw [walk.eq_def]
  split
  · rename_i heq
    cases heq
  · rename_i heq
    exact absurd (List.cons.inj heq).1 hname
  · rename_i heq
    obtain ⟨rfl, rfl⟩ := List.cons.inj heq
    rfl

/-- A walk whose first name leads to a folder goes on from there. -/
theorem walk_cons_of_folder {t : FileTree} {folder next : List String} {name : String}
    (h : t.walk folder [name] = .folder next) (rest : List String) :
    t.walk folder (name :: rest) = t.walk next rest := by
  by_cases hname : name = ".."
  · subst hname
    rw [walk] at h ⊢
    split_ifs at h ⊢
    rw [← Place.folder.inj h]
  · rw [walk_cons _ _ hname] at h ⊢
    split at h
    · rw [← Place.folder.inj h]
    · cases h
    · cases h

/-- The first step of a walk that ends in a folder. -/
theorem exists_of_walk_cons_eq_folder {t : FileTree} {folder rest g : List String} {name : String}
    (h : t.walk folder (name :: rest) = .folder g) :
    ∃ next, t.walk folder [name] = .folder next ∧ t.walk next rest = .folder g := by
  by_cases hname : name = ".."
  · subst hname
    rw [walk] at h
    split_ifs at h with hroot
    exact ⟨folder.dropLast, by rw [walk, if_neg hroot]; rfl, h⟩
  · rw [walk_cons _ _ hname] at h
    split at h
    · rename_i hat
      exact ⟨folder ++ [name], by rw [walk_cons _ _ hname, hat]; rfl, h⟩
    · split_ifs at h
    · split_ifs at h

/-- Whether a file can be written at a place: there is a file, or nothing in a folder that is
there. -/
def Place.isWritable : Place → Bool
  | .file _ _ | .free _ => true
  | _ => false

/-- The last step of a walk to a place where a file can be written. -/
theorem exists_of_isWritable_walk {t : FileTree} {folder names : List String}
    (h : (t.walk folder names).isWritable = true) :
    ∃ front name g, names = front ++ [name] ∧ t.walk folder front = .folder g ∧ name ≠ ".." ∧
      t.walk g [name] = t.walk folder names := by
  -- Only at the last name may there be no folder: a walk that has to go on from there fails.
  induction names generalizing folder with
  | nil => cases h
  | cons name rest ih =>
    by_cases hname : name = ".."
    · subst hname
      rw [walk] at h
      split_ifs at h with hroot
      · cases h
      obtain ⟨front, last, g, rfl, hfront, hlast, hwalk⟩ := ih h
      exact ⟨".." :: front, last, g, rfl, by rw [walk, if_neg hroot, hfront], hlast,
        by rw [walk, if_neg hroot, hwalk]⟩
    by_cases hrest : rest = []
    · subst hrest
      exact ⟨[], name, folder, rfl, rfl, hname, rfl⟩
    rw [walk_cons _ _ hname] at h
    split at h
    · rename_i hat
      obtain ⟨front, last, g, rfl, hfront, hlast, hwalk⟩ := ih h
      refine ⟨name :: front, last, g, rfl, ?_, hlast, ?_⟩
      · rw [walk_cons _ _ hname, hat]
        exact hfront
      · rw [walk_cons _ _ hname, hat]
        exact hwalk
    · rw [if_neg (mt List.isEmpty_iff.mp hrest)] at h
      cases h
    · rw [if_neg (mt List.isEmpty_iff.mp hrest)] at h
      cases h

/-- A walk that ends in a folder can be carried on. -/
theorem walk_append_of_folder {t : FileTree} {folder names g : List String}
    (h : t.walk folder names = .folder g) (more : List String) :
    t.walk folder (names ++ more) = t.walk g more := by
  induction names generalizing folder with
  | nil => rw [← Place.folder.inj h]; rfl
  | cons name rest ih =>
    obtain ⟨next, hnext, hrest⟩ := exists_of_walk_cons_eq_folder h
    rw [List.cons_append, walk_cons_of_folder hnext, ih hrest]

/-- A walk leads somewhere, if only to where something is missing. -/
theorem walk_ne_nowhere (t : FileTree) (folder names : List String) :
    t.walk folder names ≠ .nowhere := by
  induction names generalizing folder with
  | nil => simp [walk]
  | cons name rest ih =>
    by_cases hname : name = ".."
    · subst hname
      rw [walk]
      split_ifs
      · simp
      · exact ih _
    · rw [walk_cons _ _ hname]
      split
      · exact ih _
      · split_ifs <;> simp
      · split_ifs <;> simp

/-- The paths that lead nowhere are those that no file system takes. -/
theorem resolve_eq_nowhere_iff {t : FileTree} {p : Path} :
    t.resolve p = .nowhere ↔ p.isUsable = false := by
  rw [resolve, lookUp]
  split_ifs with husable
  · simp [husable]
  · simp [husable, walk_ne_nowhere]
  · simp [husable]

/-! ### Trees with more folders -/

/-- Every folder of the first tree is a folder of the second. -/
def KeepsFolders (t t' : FileTree) : Prop :=
  ∀ place, t.at? place = some .folder → t'.at? place = some .folder

/-- A walk that ends in a folder ends there in a tree with more folders too. -/
theorem KeepsFolders.walk {t t' : FileTree} (ht : t.KeepsFolders t') {folder names g : List String}
    (h : t.walk folder names = .folder g) : t'.walk folder names = .folder g := by
  induction names generalizing folder with
  | nil => exact h
  | cons name rest ih =>
    obtain ⟨next, hnext, hrest⟩ := exists_of_walk_cons_eq_folder h
    -- The first name leads to a folder of the first tree, hence to one of the second.
    have hnext' : t'.walk folder [name] = .folder next := by
      by_cases hname : name = ".."
      · subst hname
        rw [FileTree.walk] at hnext ⊢
        split_ifs at hnext ⊢
        exact hnext
      · rw [walk_cons _ _ hname] at hnext ⊢
        split at hnext
        · rename_i hat
          rw [ht _ hat]
          exact hnext
        · cases hnext
        · cases hnext
    rw [walk_cons_of_folder hnext', ih hrest]

/-- A path leads to a place if a file system takes it and the place is what is there. -/
theorem resolve_eq_iff {t : FileTree} {p : Path} {place : Place} (hplace : place ≠ .nowhere) :
    t.resolve p = place ↔ p.isUsable = true ∧ t.lookUp p = place := by
  rw [resolve]
  split_ifs with husable
  · simp [husable]
  · exact iff_of_false hplace.symm fun h => husable h.1

/-- Where a path leads depends only on what is there. -/
theorem resolve_congr {t t' : FileTree} {p : Path} (h : t'.lookUp p = t.lookUp p) :
    t'.resolve p = t.resolve p := by
  rw [resolve, resolve, h]

theorem KeepsFolders.resolve {t t' : FileTree} (ht : t.KeepsFolders t') {p : Path} {g : List String}
    (h : t.resolve p = .folder g) : t'.resolve p = .folder g := by
  obtain ⟨husable, hlook⟩ := (resolve_eq_iff (by simp)).mp h
  refine (resolve_eq_iff (by simp)).mpr ⟨husable, ?_⟩
  rw [lookUp] at hlook ⊢
  split_ifs at hlook ⊢
  exact ht.walk hlook

theorem keepsFolders_add {t : FileTree} {place : List String} (hfree : t.at? place = none)
    (e : Entry) : t.KeepsFolders (t.add place e) := by
  intro other hother
  rw [at?_add hfree, if_neg, hother]
  rintro rfl
  rw [hfree] at hother
  cases hother

theorem keepsFolders_write {t : FileTree} {place : List String}
    (hplace : t.at? place ≠ some .folder) (content : Content) :
    t.KeepsFolders (t.write place content) := by
  intro other hother
  have hne : place ≠ [] := by
    rintro rfl
    exact hplace rfl
  rw [at?_write t hne, if_neg, hother]
  rintro rfl
  exact hplace hother

/-! ### Making folders -/

/-- A folder that is made where nothing is can be found. -/
theorem resolve_add_of_free {t : FileTree} {p : Path} {place : List String}
    (h : t.resolve p = .free place) : (t.add place .folder).resolve p = .folder place := by
  obtain ⟨husable, h⟩ := (resolve_eq_iff (by simp)).mp h
  refine (resolve_eq_iff (by simp)).mpr ⟨husable, ?_⟩
  rw [lookUp] at h ⊢
  split_ifs at h ⊢
  obtain ⟨front, name, g, hparts, hfront, hname, hlast⟩ :=
    exists_of_isWritable_walk (by rw [h]; rfl)
  rw [h, walk_cons _ _ hname] at hlast
  split at hlast
  · cases hlast
  · cases hlast
  · rename_i hat
    obtain rfl := Place.free.inj hlast
    rw [hparts, walk_append_of_folder ((keepsFolders_add hat _).walk hfront), walk_cons _ _ hname,
      at?_add hat, if_pos rfl]
    rfl

/-- **A folder that was made is there.** -/
theorem exists_resolve_of_makeFolder {t t' : FileTree} {p : Path} (h : t.makeFolder p = .ok t') :
    ∃ g, t'.resolve p = .folder g := by
  rw [makeFolder, makeFolderUpTo] at h
  split at h
  · rename_i g hg
    exact ⟨g, Except.ok.inj h ▸ hg⟩
  · cases h
  · cases h
  · cases h
  · rename_i place hplace
    exact ⟨place, Except.ok.inj h ▸ resolve_add_of_free hplace⟩
  · -- The folders above are made first; then the path is looked up once more.
    cases habove : t.makeFolderUpTo p.parent p.parts.length with
    | error e =>
      rw [habove] at h
      cases h
    | ok above =>
      rw [habove] at h
      simp only [bind, Except.bind] at h
      split at h
      · rename_i place hplace
        exact ⟨place, Except.ok.inj h ▸ resolve_add_of_free hplace⟩
      · rename_i g hg
        exact ⟨g, Except.ok.inj h ▸ hg⟩
      · cases h

/-! ### Writing files -/

/-- What is under a name of a folder. -/
theorem lookUp_child {t : FileTree} {folder : Path} {g : List String}
    (hfolder : t.lookUp folder = .folder g) {name : String} (hname : name ≠ "..") :
    t.lookUp (folder.child name) =
      match t.at? (g ++ [name]) with
      | some .folder => .folder (g ++ [name])
      | some (.file content) => .file (g ++ [name]) content
      | none => .free (g ++ [name]) := by
  rw [lookUp] at hfolder
  split_ifs at hfolder with habsolute
  rw [lookUp, Path.child, if_neg habsolute, walk_append_of_folder hfolder, walk_cons _ _ hname]
  rfl

/-- A name of a folder leads to what is there. -/
theorem resolve_child {t : FileTree} {folder : Path} {g : List String}
    (hfolder : t.resolve folder = .folder g) {name : String} (hname : Path.isName name = true) :
    t.resolve (folder.child name) = t.lookUp (folder.child name) := by
  obtain ⟨husable, -⟩ := (resolve_eq_iff (by simp)).mp hfolder
  rw [resolve, if_pos]
  simpa [Path.isUsable, Path.child, hname] using husable

/-- Whether a path leads to a file that holds a text. -/
def Holds (t : FileTree) (p : Path) (s : String) : Prop :=
  ∃ place, t.resolve p = .file place (.text s)

/-- **A text that is written into a folder** is held there under its name; the folder stays where it
is, and under its other names there is what was there before. -/
theorem exists_writeText_child {t : FileTree} {folder : Path} {g : List String}
    (hfolder : t.resolve folder = .folder g) {name : String} (hname : name ≠ "..")
    (husable : Path.isName name = true) (hfile : t.isFolder (folder.child name) = false)
    (s : String) :
    ∃ t', t.writeText (folder.child name) s = .ok t' ∧ t'.Holds (folder.child name) s ∧
      t'.resolve folder = .folder g ∧
      ∀ other, other ≠ ".." → other ≠ name →
        t'.lookUp (folder.child other) = t.lookUp (folder.child other) := by
  have hlook := ((resolve_eq_iff (by simp)).mp hfolder).2
  have hplace : t.at? (g ++ [name]) ≠ some .folder := by
    intro hat
    rw [isFolder, lookUp_child hlook hname, hat] at hfile
    cases hfile
  have hne : g ++ [name] ≠ [] := List.append_ne_nil_of_right_ne_nil g (List.cons_ne_nil _ _)
  have hwrite : t.writeText (folder.child name) s = .ok (t.write (g ++ [name]) (.text s)) := by
    rw [writeText, resolve_child hfolder husable, lookUp_child hlook hname]
    cases hat : t.at? (g ++ [name]) with
    | none => rfl
    | some e =>
      cases e with
      | folder => exact absurd hat hplace
      | file content => rfl
  have hstill := (keepsFolders_write hplace (.text s)).resolve hfolder
  have hstillLook := ((resolve_eq_iff (by simp)).mp hstill).2
  refine ⟨_, hwrite, ⟨g ++ [name], ?_⟩, hstill, fun other hother hdiff => ?_⟩
  · rw [resolve_child hstill husable, lookUp_child hstillLook hname, at?_write _ hne, if_pos rfl]
  · have hplaces : g ++ [other] ≠ g ++ [name] := fun h => hdiff (by simpa using h)
    rw [lookUp_child hstillLook hother, lookUp_child hlook hother, at?_write _ hne, if_neg hplaces]

/-- **A text that can be written is held** where it was written. -/
theorem exists_writeText {t : FileTree} {p : Path} (h : (t.resolve p).isWritable = true)
    (s : String) : ∃ t', t.writeText p s = .ok t' ∧ t'.Holds p s := by
  obtain ⟨husable, hlook⟩ : p.isUsable = true ∧ (t.lookUp p).isWritable = true := by
    rw [resolve] at h
    split_ifs at h with husable
    · exact ⟨husable, h⟩
    · cases h
  have hfile : t.isFolder p = false := by
    rw [isFolder]
    cases hplace : t.lookUp p with
    | folder g => rw [hplace] at hlook; cases hlook
    | _ => rfl
  rw [lookUp] at hlook
  split_ifs at hlook with habsolute
  · cases hlook
  obtain ⟨front, name, g, hparts, hfront, hname, -⟩ := exists_of_isWritable_walk hlook
  -- The path is that of a name in a folder that is there.
  obtain ⟨absolute, parts⟩ := p
  obtain rfl : parts = front ++ [name] := hparts
  obtain ⟨hfrontUsable, hnameUsable⟩ : Path.isUsable ⟨absolute, front⟩ = true ∧
      Path.isName name = true := by simpa [Path.isUsable] using husable
  have hfolder : t.resolve ⟨absolute, front⟩ = .folder g := by
    refine (resolve_eq_iff (by simp)).mpr ⟨hfrontUsable, ?_⟩
    rw [lookUp, if_neg habsolute, hfront]
  obtain ⟨t', hwrite, hholds, -⟩ := exists_writeText_child hfolder hname hnameUsable hfile s
  exact ⟨t', hwrite, hholds⟩

end RouteAtlas.FileTree
