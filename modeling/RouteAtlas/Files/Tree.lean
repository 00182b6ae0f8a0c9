import RouteAtlas.Files.Path
import RouteAtlas.Text.Quoted
import RouteAtlas.Text.Utf8

/-!
# File trees

A file tree is a list of folders and files, each with its place below the working folder. Looking up
a path walks from folder to folder, so that two points lead out of a folder only if the folder is
there. Texts are read with all line ends made alike and have to be well-formed UTF-8. Paths lead to
places below the working folder only.

`FileTree.lookUp` says what is at a path, `FileTree.resolve` where it leads when something is to be
read or written there. The second has an answer of its own for paths that no file system takes: such
a path is not looked up at all, and reading or writing there fails in another way than for a path at
which there is nothing.
-/

namespace RouteAtlas

/-- What a file holds. -/
inductive Content
  /-- A text. -/
  | text (s : String)
  /-- Any bytes. -/
  | bytes (b : List UInt8)
deriving DecidableEq

/-- A file or a folder. -/
inductive Entry
  | folder
  | file (content : Content)
deriving DecidableEq

/-- A file tree: places and what is there. -/
structure FileTree where
  /-- The entries, folders among them. -/
  entries : List (List String × Entry) := []

/-- Why a path cannot be read or written. -/
inductive FileError
  /-- There is nothing. -/
  | missing (path : String)
  /-- It is a folder. -/
  | isFolder (path : String)
  /-- It leads through a file. -/
  | notFolder (path : String)
  /-- There is something else already. -/
  | exists_ (path : String)
  /-- Its bytes are no text. -/
  | undecodable (e : Text.Utf8Error)
  /-- It is no path for a file system. -/
  | unusable

/-- The wording of a file error. -/
def FileError.message : FileError → String
  | .missing p => "[Errno 2] No such file or directory: " ++ Text.quoted p
  | .isFolder p => "[Errno 21] Is a directory: " ++ Text.quoted p
  | .notFolder p => "[Errno 20] Not a directory: " ++ Text.quoted p
  | .exists_ p => "[Errno 17] File exists: " ++ Text.quoted p
  | .undecodable e => e.message
  | .unusable => "embedded null byte"

/-- Whether a failure is one of a file or a folder, and not of the path alone. -/
def FileError.isOfFile : FileError → Bool
  | .unusable => false
  | _ => true

/-- The text that bytes or a text stand for when read. -/
def Content.read : Content → Except FileError String
  | .text s => .ok (Text.normalizeNewlines s)
  | .bytes b =>
    match Text.decodeUtf8 b with
    | .ok s => .ok (Text.normalizeNewlines s)
    | .error e => .error (.undecodable e)

namespace FileTree

/-- What is at a place. -/
def at? (t : FileTree) (place : List String) : Option Entry :=
  if place.isEmpty then some .folder
  else (t.entries.find? fun e => e.1 == place).map (·.2)

/-- Adds an entry, unless something is there. -/
def add (t : FileTree) (place : List String) (e : Entry) : FileTree :=
  match t.at? place with
  | some _ => t
  | none => ⟨t.entries ++ [(place, e)]⟩

/-- The folders above a place, outermost first. -/
def foldersAbove (place : List String) : List (List String) :=
  (List.range (place.length - 1)).map fun n => place.take (n + 1)

/-- Adds a file or a folder with the folders above it. -/
def insert (t : FileTree) (place : List String) (e : Entry) : FileTree :=
  ((foldersAbove place).foldl (fun t f => t.add f .folder) t).add place e

/-- Writes a file. -/
def write (t : FileTree) (place : List String) (content : Content) : FileTree :=
  match t.at? place with
  | some _ =>
    ⟨t.entries.map fun e => if e.1 == place then (place, .file content) else e⟩
  | none => ⟨t.entries ++ [(place, .file content)]⟩

/-- The file tree of paths and contents. -/
def ofList (files : List (String × Entry)) : FileTree :=
  files.foldl (fun t f => t.insert (Path.partsOf f.1) f.2) {}

/-! ### Looking up -/

/-- Where a path leads. -/
inductive Place
  /-- To a folder. -/
  | folder (place : List String)
  /-- To a file. -/
  | file (place : List String) (content : Content)
  /-- To nothing, in a folder that is there; the place is that of what is missing. -/
  | free (place : List String)
  /-- Through a folder that is not there. -/
  | missing
  /-- Through a file. -/
  | blocked
  /-- Nowhere: it is no path for a file system. -/
  | nowhere

/-- Walks from a folder along names. -/
def walk (t : FileTree) (folder : List String) : List String → Place
  | [] => .folder folder
  | ".." :: rest => if folder.isEmpty then .missing else walk t folder.dropLast rest
  | name :: rest =>
    let place := folder ++ [name]
    match t.at? place with
    | some .folder => walk t place rest
    | some (.file content) => if rest.isEmpty then .file place content else .blocked
    | none => if rest.isEmpty then .free place else .missing

/-- What is at a path. -/
def lookUp (t : FileTree) (p : Path) : Place :=
  if p.absolute then .missing else t.walk [] p.parts

/-- Where a path leads. -/
def resolve (t : FileTree) (p : Path) : Place :=
  if p.isUsable then t.lookUp p else .nowhere

/-- Whether there is a file at a path. Asking never fails. -/
def isFile (t : FileTree) (p : Path) : Bool :=
  match t.lookUp p with
  | .file _ _ => true
  | _ => false

/-- Whether there is a folder at a path. -/
def isFolder (t : FileTree) (p : Path) : Bool :=
  match t.lookUp p with
  | .folder _ => true
  | _ => false

/-- Reads a text file. -/
def readText (t : FileTree) (p : Path) : Except FileError String :=
  match t.resolve p with
  | .file _ content => content.read
  | .folder _ => .error (.isFolder p.text)
  | .blocked => .error (.notFolder p.text)
  | .free _ => .error (.missing p.text)
  | .missing => .error (.missing p.text)
  | .nowhere => .error .unusable

/-! ### Writing -/

/-- Makes a folder and those above it. -/
def makeFolderUpTo (t : FileTree) (p : Path) : Nat → Except FileError FileTree
  | 0 => .error (.missing p.text)
  | fuel + 1 =>
    match t.resolve p with
    | .folder _ => .ok t
    | .file _ _ => .error (.exists_ p.text)
    | .blocked => .error (.notFolder p.text)
    | .nowhere => .error .unusable
    | .free place => .ok (t.add place .folder)
    | .missing => do
      let t ← t.makeFolderUpTo p.parent fuel
      match t.resolve p with
      | .free place => return t.add place .folder
      | .folder _ => return t
      | _ => throw (.missing p.text)

/-- Makes a folder and those above it, unless they are there. -/
def makeFolder (t : FileTree) (p : Path) : Except FileError FileTree :=
  t.makeFolderUpTo p (p.parts.length + 1)

/-- Writes a text file into a folder that is there. Half of a surrogate pair, which UTF-8 cannot write, is
part of no text (`Yaml.isHeld`). -/
def writeText (t : FileTree) (p : Path) (s : String) : Except FileError FileTree :=
  match t.resolve p with
  | .file place _ => .ok (t.write place (.text s))
  | .free place => .ok (t.write place (.text s))
  | .folder _ => .error (.isFolder p.text)
  | .blocked => .error (.notFolder p.text)
  | .missing => .error (.missing p.text)
  | .nowhere => .error .unusable

end FileTree

end RouteAtlas
