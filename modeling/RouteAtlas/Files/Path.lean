import RouteAtlas.Text.Basic

/-!
# Paths

A path is a list of names. Empty names and names that are a single point mean nothing and are
dropped; two points are kept, because what they mean depends on the file tree. Paths are ordered
name by name. A path may be any text, but a file system takes only those without the character of
code zero (`Path.isUsable`).
-/

namespace RouteAtlas

/-- A path. -/
structure Path where
  /-- Whether the path starts at the root of the file system. -/
  absolute : Bool := false
  /-- The names. -/
  parts : List String := []
deriving DecidableEq

namespace Path

/-- The names of a path text. -/
def partsOf (s : String) : List String :=
  (Text.split '/' s).filter fun p => p != "" && p != "."

/-- The path of a text. -/
def ofText (s : String) : Path := ⟨Text.beginsWith s "/", partsOf s⟩

/-- Whether a name has no character of code zero. -/
def isName (s : String) : Bool := !s.toList.contains '\x00'

/-- Whether a path can be handed to a file system. -/
def isUsable (p : Path) : Bool := p.parts.all isName

/-- The text of a path. -/
def text (p : Path) : String :=
  if p.absolute then "/" ++ Text.join "/" p.parts
  else if p.parts.isEmpty then "."
  else Text.join "/" p.parts

/-- The path of a name inside a path. -/
def child (p : Path) (name : String) : Path := { p with parts := p.parts ++ [name] }

/-- The path without its last name. -/
def parent (p : Path) : Path := { p with parts := p.parts.dropLast }

/-- The last name. -/
def name (p : Path) : String := p.parts.getLast?.getD ""

/-- The end of the last name from its last point on, if there is something on both sides. -/
def suffix (p : Path) : String :=
  let cs := p.name.toList
  let tail := (cs.reverse.takeWhile (· != '.')).reverse
  let front := cs.length - tail.length
  if 1 < front && !tail.isEmpty then String.ofList ('.' :: tail) else ""

/-- Whether one list of names comes before another: name by name. -/
def partsLe : List String → List String → Bool
  | [], _ => true
  | _ :: _, [] => false
  | a :: as, b :: bs => if a == b then partsLe as bs else decide (a < b)

end Path

end RouteAtlas
