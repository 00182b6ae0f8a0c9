import RouteAtlas.Route.Basic
import RouteAtlas.Text.Word

/-!
# Texts that look like route files

Before a file is parsed it is searched for a few marks that a file with routes shows: the creation
of a router, a call of a method on a router or an application, or the import of the framework. A
method name has to end at a word boundary. The method marks are searched without regard to case;
among letters beyond ASCII the long s and the dotless and dotted i count as the letters they are
variants of.
-/

namespace RouteAtlas

/-- Whether a character of a text is a given lower-case letter, in either case. -/
def isLetter (letter c : Char) : Bool :=
  c.toLower == letter ||
    (letter == 's' && c.toNat == 0x17F) ||
    (letter == 'i' && (c.toNat == 0x130 || c.toNat == 0x131))

/-- What follows a word at the beginning of a text, compared without regard to case. -/
def afterLetters? : List Char → List Char → Option (List Char)
  | [], cs => some cs
  | _ :: _, [] => none
  | l :: ls, c :: cs => if isLetter l c then afterLetters? ls cs else none

/-- Whether a text does not go on with a word character. -/
def atWordEnd : List Char → Bool
  | [] => true
  | c :: _ => !Text.isWord c

/-- Whether a text begins with a receiver, a point and a method name. -/
def beginsWithMethodCall (receiver : String) (cs : List Char) : Bool :=
  match afterLetters? (receiver.toList ++ ['.']) cs with
  | none => false
  | some rest =>
    Method.all.any fun m =>
      match afterLetters? m.key.toList rest with
      | some rest => atWordEnd rest
      | none => false

/-- The marks that are compared literally. -/
def literalMarks : List String := [
  "express.Router()",
  "require('express')", "require(\"express\")", "require('express\")", "require(\"express')",
  "from 'express'", "from \"express\"", "from 'express\"", "from \"express'"]

/-- Whether a text begins with a mark. -/
def beginsWithMark (cs : List Char) : Bool :=
  literalMarks.any (fun m => m.toList.isPrefixOf cs) ||
    beginsWithMethodCall "router" cs || beginsWithMethodCall "app" cs

/-- Whether a mark stands anywhere in a text. -/
def hasMark : List Char → Bool
  | [] => false
  | c :: cs => beginsWithMark (c :: cs) || hasMark cs

/-- Whether a text looks like a route file. -/
def looksLikeRoutes (source : String) : Bool :=
  hasMark source.toList

end RouteAtlas
