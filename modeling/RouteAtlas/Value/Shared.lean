import RouteAtlas.Value.Basic

/-!
# Values with shared maps

A text may refer to a part of it from several places. What is read from the text then has one map in
all these places, and a change of the map in one place shows in all of them. `Shared` is a value that
keeps track of this: a map that may stand in several places has a `Mark`, and places with the same mark
hold the same map. `Shared.change` changes a map wherever it stands, and `Shared.value` is the value
that is seen.
-/

namespace RouteAtlas

/-- What tells shared maps apart: the anchor of the part they belong to, and the way from there. -/
structure Mark where
  /-- The anchor. -/
  anchor : String
  /-- The numbers of the steps from the anchor down, the last one first. -/
  way : List Nat
deriving DecidableEq

/-- A value in which shared maps are marked. -/
inductive Shared
  /-- A datum without parts. -/
  | scalar (s : Scalar)
  /-- A set of scalars, in the order of insertion. -/
  | set (members : List Scalar)
  /-- A pair. -/
  | pair (fst snd : Shared)
  /-- A list. -/
  | list (items : List Shared)
  /-- A map, in the order of insertion. -/
  | map (mark : Option Mark) (members : List (Scalar × Shared))

namespace Shared

mutual

/-- The value that is seen. -/
def value : Shared → Value
  | .scalar s => .scalar s
  | .set ks => .set ks
  | .pair a b => .pair a.value b.value
  | .list xs => .list (values xs)
  | .map _ ms => .map (memberValues ms)

/-- The values that are seen in a list. -/
def values : List Shared → List Value
  | [] => []
  | x :: xs => x.value :: values xs

/-- The members that are seen in a map. -/
def memberValues : List (Scalar × Shared) → Members
  | [] => []
  | (k, x) :: ms => (k, x.value) :: memberValues ms

end

mutual

/-- Changes the members of the map with a mark, wherever it stands. -/
def change (m : Mark) (f : List (Scalar × Shared) → List (Scalar × Shared)) : Shared → Shared
  | .scalar s => .scalar s
  | .set ks => .set ks
  | .pair a b => .pair (a.change m f) (b.change m f)
  | .list xs => .list (changeItems m f xs)
  | .map mark ms =>
    .map mark (if mark = some m then f (changeMembers m f ms) else changeMembers m f ms)

/-- Changes a map in the items of a list. -/
def changeItems (m : Mark) (f : List (Scalar × Shared) → List (Scalar × Shared)) :
    List Shared → List Shared
  | [] => []
  | x :: xs => x.change m f :: changeItems m f xs

/-- Changes a map in the members of a map. -/
def changeMembers (m : Mark) (f : List (Scalar × Shared) → List (Scalar × Shared)) :
    List (Scalar × Shared) → List (Scalar × Shared)
  | [] => []
  | (k, x) :: ms => (k, x.change m f) :: changeMembers m f ms

end

end Shared

end RouteAtlas
