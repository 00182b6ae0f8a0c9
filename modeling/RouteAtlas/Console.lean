/-!
# What a run prints

A `Console` holds everything printed so far, for the user and about problems. Functions of the
library do not print: they return what they have to say, and the outer layer prints it.
-/

namespace RouteAtlas

/-- Everything printed so far. -/
structure Console where
  /-- Text for the user. -/
  out : String := ""
  /-- Text about problems. -/
  err : String := ""

namespace Console

/-- Nothing printed yet. -/
def silent : Console := {}

/-- Prints a line for the user. -/
def say (c : Console) (line : String) : Console := { c with out := c.out ++ line ++ "\n" }

/-- Prints a line about a problem. -/
def warn (c : Console) (line : String) : Console := { c with err := c.err ++ line ++ "\n" }

/-- Prints several lines for the user. -/
def sayAll (c : Console) (lines : List String) : Console := lines.foldl say c

/-- Prints several lines about problems. -/
def warnAll (c : Console) (lines : List String) : Console := lines.foldl warn c

/-- What was printed by one part of a run and then by another. -/
def append (a b : Console) : Console := ⟨a.out ++ b.out, a.err ++ b.err⟩

instance : Append Console := ⟨append⟩

end Console

end RouteAtlas
