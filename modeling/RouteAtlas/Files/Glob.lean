import RouteAtlas.Files.Tree

/-!
# Finding files by pattern

A pattern is a path some of whose names hold wildcards: a star for any characters, a question mark
for one, brackets for one of a set. Two stars as a whole name stand for any number of folders.
-/

namespace RouteAtlas.Glob

/-! ### Names -/

/-- A piece of the pattern of a name. -/
inductive Piece
  /-- A given character. -/
  | char (c : Char)
  /-- Any one character. -/
  | one
  /-- Any characters. -/
  | many
  /-- A character inside, or outside, a set of ranges. -/
  | set (outside : Bool) (ranges : List (Char × Char))

/-- The ranges of a set. -/
def rangesOf : List Char → List (Char × Char)
  | a :: '-' :: b :: rest => (a, b) :: rangesOf rest
  | a :: rest => (a, a) :: rangesOf rest
  | [] => []

/-- The inside of a set and what follows it, `none` if it is not closed. A closing bracket that comes
first belongs to the set. -/
def splitSet (cs : List Char) : Option (Bool × List Char × List Char) :=
  let (outside, cs) : Bool × List Char := match cs with
    | '!' :: rest => (true, rest)
    | cs => (false, cs)
  let (first, cs) : List Char × List Char := match cs with
    | ']' :: rest => ([']'], rest)
    | cs => ([], cs)
  let inside := cs.takeWhile (· != ']')
  match cs.drop inside.length with
  | _ :: rest => some (outside, first ++ inside, rest)
  | [] => none

/-- The pieces of the pattern of a name. -/
def piecesUpTo : Nat → List Char → List Piece
  | 0, _ => []
  | _, [] => []
  | fuel + 1, c :: cs =>
    if c == '*' then .many :: piecesUpTo fuel cs
    else if c == '?' then .one :: piecesUpTo fuel cs
    else if c == '[' then
      match splitSet cs with
      | some (outside, inside, rest) => .set outside (rangesOf inside) :: piecesUpTo fuel rest
      | none => .char c :: piecesUpTo fuel cs
    else .char c :: piecesUpTo fuel cs

/-- The pieces of the pattern of a name. -/
def piecesOf (s : String) : List Piece := piecesUpTo (s.length + 1) s.toList

/-- Whether a piece fits one character. -/
def Piece.fits (c : Char) : Piece → Bool
  | .char d => c == d
  | .one => true
  | .many => true
  | .set outside ranges => (ranges.any fun r => r.1 ≤ c && c ≤ r.2) != outside

/-- Whether characters match pieces. -/
def matchPieces : List Piece → List Char → Bool
  | [], cs => cs.isEmpty
  | .many :: ps, [] => matchPieces ps []
  | .many :: ps, c :: cs => matchPieces ps (c :: cs) || matchPieces (.many :: ps) cs
  | _ :: _, [] => false
  | p :: ps, c :: cs => p.fits c && matchPieces ps cs

/-- Whether a name matches the pattern of a name. -/
def matchName (pattern name : String) : Bool :=
  matchPieces (piecesOf pattern) name.toList

/-! ### Paths -/

/-- The pattern of any number of folders. -/
def anyFolders : String := "**"

/-- Whether the place of a file matches a pattern. Two stars stand for folders only. -/
def matchParts : List String → List String → Bool
  | [], names => names.isEmpty
  | _ :: _, [] => false
  | p :: ps, n :: ns =>
    if p == anyFolders then matchParts ps (n :: ns) || matchParts (p :: ps) ns
    else matchName p n && matchParts ps ns

/-- Why a pattern is refused. -/
inductive PatternError
  /-- It is empty. -/
  | empty (pattern : String)
  /-- It starts at the root of the file system. -/
  | absolute
  /-- Two stars are only a part of a name. -/
  | partialStars
deriving DecidableEq

/-- The wording of a pattern error. -/
def PatternError.message : PatternError → String
  | .empty p => "Unacceptable pattern: " ++ Text.quoted p
  | .absolute => "Non-relative patterns are unsupported"
  | .partialStars => "Invalid pattern: '**' can only be an entire path component"

/-- The names of a pattern; a slash at the end asks for folders and so for no file. -/
def partsOf (pattern : String) : Except PatternError (List String) :=
  if Text.beginsWith pattern "/" then .error .absolute
  else
    let parts := Path.partsOf pattern
    if pattern == "" then .error (.empty pattern)
    else if parts.any fun p => p != anyFolders && Text.contains p anyFolders then
      .error .partialStars
    else if pattern.toList.getLast? == some '/' then .ok (parts ++ [""])
    else .ok parts

/-- The place of an entry below a folder, `none` if it is not below it. -/
def below? : List String → List String → Option (List String)
  | [], place => some place
  | _ :: _, [] => none
  | f :: fs, p :: ps => if f == p then below? fs ps else none

/-- The places of the files of a tree below a folder, seen from the folder. -/
def filesBelow (t : FileTree) (folder : List String) : List (List String) :=
  t.entries.filterMap fun e =>
    match e.2 with
    | .file _ => below? folder e.1
    | .folder => none

/-- The folder whose contents are never looked at. -/
def skippedFolder : String := "node_modules"

/-- The places of the files below a folder that match one of several patterns, in order. -/
def find (t : FileTree) (folder : List String) (patterns : List String) :
    Except PatternError (List (List String)) := do
  let parts ← patterns.mapM partsOf
  let found := (filesBelow t folder).filter fun place =>
    !place.contains skippedFolder && parts.any fun p => matchParts p place
  return found.mergeSort Path.partsLe

end RouteAtlas.Glob
