import RouteAtlas.Route.Basic

/-!
# Path patterns and path templates

A path pattern marks its parameters by a colon and a name, `/users/:id`; a question mark after the
name makes the parameter optional. A pattern is read in two ways. `parameterMarks` looks for the
marks and passes over everything else. `pieces` splits the whole pattern into parameters and single
other characters, from which the path template is written: it has the same parameters between
braces.
-/

namespace RouteAtlas

/-- A character that may begin the name of a path parameter. -/
def isNameStart (c : Char) : Bool := c.isAlpha || c == '_'

/-- A character that may continue the name of a path parameter. -/
def isNamePart (c : Char) : Bool := c.isAlphanum || c == '_'

/-! ### Parameters -/

/-- Splits off a question mark and says whether there was one. -/
def splitOptional : List Char → Bool × List Char
  | '?' :: cs => (true, cs)
  | cs => (false, cs)

theorem length_splitOptional_le (cs : List Char) : (splitOptional cs).2.length ≤ cs.length := by
  unfold splitOptional
  split <;> simp

/-- The marks of parameters in a pattern, from left to right: name, and whether it is optional. -/
def parameterMarks : List Char → List (String × Bool)
  | [] => []
  | ':' :: c :: cs =>
    if isNameStart c then
      let rest := splitOptional (cs.dropWhile isNamePart)
      (String.ofList (c :: cs.takeWhile isNamePart), rest.1) :: parameterMarks rest.2
    else parameterMarks (c :: cs)
  | _ :: cs => parameterMarks cs
termination_by cs => cs.length
decreasing_by
  · have h := length_splitOptional_le (cs.dropWhile isNamePart)
    have h' := (List.dropWhile_suffix (l := cs) isNamePart).length_le
    simp only [List.length_cons]
    omega
  · simp
  · simp

/-- The parameters of a path pattern. The first occurrence of a name decides. -/
def pathParameters (path : String) : List Parameter :=
  (firstByKey Prod.fst (parameterMarks path.toList)).map fun p => ⟨p.1, "path", !p.2, "string", ""⟩

/-! ### Templates -/

/-- A piece of a path pattern. -/
inductive Piece
  /-- A character outside any parameter. -/
  | char (c : Char)
  /-- A parameter. -/
  | param (name : List Char)

/-- Leaves out a question mark at the front. -/
def dropOptional : List Char → List Char
  | '?' :: cs => cs
  | cs => cs

theorem length_dropOptional_le (cs : List Char) : (dropOptional cs).length ≤ cs.length := by
  unfold dropOptional
  split <;> simp

/-- The pieces of a path pattern, from left to right. -/
def pieces : List Char → List Piece
  | [] => []
  | ':' :: c :: cs =>
    if isNameStart c then
      .param (c :: cs.takeWhile isNamePart) :: pieces (dropOptional (cs.dropWhile isNamePart))
    else .char ':' :: pieces (c :: cs)
  | c :: cs => .char c :: pieces cs
termination_by cs => cs.length
decreasing_by
  · have h := length_dropOptional_le (cs.dropWhile isNamePart)
    have h' := (List.dropWhile_suffix (l := cs) isNamePart).length_le
    simp only [List.length_cons]
    omega
  · simp
  · simp

/-- A piece in the spelling of a path template. -/
def Piece.template : Piece → List Char
  | .char c => [c]
  | .param name => '\x7b' :: name ++ ['\x7d']

/-- The path template of a path pattern. -/
def pathTemplate (path : String) : String :=
  String.ofList ((pieces path.toList).flatMap Piece.template)

end RouteAtlas
