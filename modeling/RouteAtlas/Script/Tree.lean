import RouteAtlas.Script.Cursor

/-!
# Syntax trees of source files

A `Tree` keeps of a source text what route discovery looks at: names, literals, member accesses,
calls with the row they begin on, functions, declarators and the entries of objects and patterns.
Everything else is an `other` node that only holds its parts. `Tree.nodes` lists a tree and
everything below it in source order, a node before its parts.
-/

namespace RouteAtlas.Script

/-! ### Words -/

/-- Characters that end a word although they are no blanks. -/
def wordStops : List Char := ":;\x60\"'@#.,|^&<=>+-*/\\%?!~()[]\x7b\x7d".toList

/-- A character inside a word. -/
def isWordPart (c : Char) : Bool :=
  !(c.toNat < 32 || isSpace c || wordStops.contains c)

/-- A character of a word with the spelling of its escapes: `\u0041`, `\u{41}`. -/
def isWordChar (c : Char) : Bool :=
  isWordPart c || c == '\\' || c == '\x7b' || c == '\x7d'

/-- A word as written, which is never empty and holds only characters of words. -/
structure Word where
  /-- The characters. -/
  text : String
  /-- There are some. -/
  nonempty : text ≠ ""
  /-- They are characters of words. -/
  isWordChar_of_mem : ∀ c ∈ text.toList, isWordChar c = true

/-! ### Trees -/

/-- A syntax tree. -/
inductive Tree
  /-- A name used as an expression or a binding. -/
  | identifier (name : String)
  /-- A quoted text: the characters between the quotes, as written. -/
  | text (content : String)
  /-- A number, as written. -/
  | number (digits : String)
  /-- A truth value. -/
  | truth
  /-- A list literal. -/
  | array (items : List Tree)
  /-- An object literal. -/
  | object (entries : List Tree)
  /-- An entry that is only a name. -/
  | shorthand (name : Word)
  /-- An entry with a key and a value; the key has a name if it is written as a plain word. -/
  | pair (name : Option Word) (key value : Tree)
  /-- An entry or a binding with a default. -/
  | defaulted (target value : Tree)
  /-- The access of a member; private members have no name. -/
  | member (owner : Tree) (name : Option Word)
  /-- A call: its row, the called expression, the type arguments and the arguments. -/
  | call (row : Nat) (callee : Tree) (types arguments : List Tree)
  /-- A function that is not a generator, written as an expression. -/
  | function (parts : List Tree)
  /-- One variable of a declaration: what is bound, its type, and its initial value. -/
  | declarator (target : Tree) (types : List Tree) (value : Option Tree)
  /-- A pattern that takes an object apart. -/
  | pattern (entries : List Tree)
  /-- Anything else. -/
  | other (parts : List Tree)

namespace Tree

mutual

/-- A tree and everything below it, in source order. -/
def nodes : Tree → List Tree
  | .array xs => .array xs :: nodesAll xs
  | .object xs => .object xs :: nodesAll xs
  | .pair name key value => .pair name key value :: (key.nodes ++ value.nodes)
  | .defaulted target value => .defaulted target value :: (target.nodes ++ value.nodes)
  | .member owner name => .member owner name :: owner.nodes
  | .call row callee types arguments =>
    .call row callee types arguments :: (callee.nodes ++ (nodesAll types ++ nodesAll arguments))
  | .function parts => .function parts :: nodesAll parts
  | .declarator target types (some value) =>
    .declarator target types (some value) :: (target.nodes ++ (nodesAll types ++ value.nodes))
  | .declarator target types none =>
    .declarator target types none :: (target.nodes ++ nodesAll types)
  | .pattern entries => .pattern entries :: nodesAll entries
  | .other parts => .other parts :: nodesAll parts
  | leaf => [leaf]

/-- Several trees and everything below them. -/
def nodesAll : List Tree → List Tree
  | [] => []
  | t :: ts => t.nodes ++ nodesAll ts

end

/-- The trees directly below a tree, in source order. -/
def parts : Tree → List Tree
  | .array xs => xs
  | .object xs => xs
  | .pair _ key value => [key, value]
  | .defaulted target value => [target, value]
  | .member owner _ => [owner]
  | .call _ callee types arguments => callee :: (types ++ arguments)
  | .function parts => parts
  | .declarator target types value => target :: (types ++ value.toList)
  | .pattern entries => entries
  | .other parts => parts
  | _ => []

theorem nodesAll_eq_flatMap (ts : List Tree) : nodesAll ts = ts.flatMap nodes := by
  induction ts with
  | nil => simp [nodesAll]
  | cons t ts ih => simp [nodesAll, ih]

/-- A node stands before its parts, and these in their order. -/
theorem nodes_eq (t : Tree) : t.nodes = t :: t.parts.flatMap nodes := by
  cases t with
  | declarator target types value =>
    cases value <;> simp [nodes, parts, nodesAll_eq_flatMap]
  | _ => simp [nodes, parts, nodesAll_eq_flatMap]

end Tree

end RouteAtlas.Script
