import RouteAtlas.Value.Access

/-!
# What a check against a schema finds

`Findings` are the broken rules found so far, in order, and possibly a breakdown: a part of such an
unexpected shape that the check could not go on. What was found before a breakdown still counts.
-/

namespace RouteAtlas

/-- Why a check could not go on. -/
inductive Breakdown
  /-- A key of this kind was searched for a pattern. -/
  | keyNotText (kind : Kind)
  /-- Something that has to be there is missing. -/
  | missingKey (key : Scalar)
  /-- Members were expected, and there were items without names. -/
  | noNames
  /-- A value of this kind cannot be part of a set. -/
  | notHashable (kind : Kind)
  /-- A path template is not well formed. -/
  | badTemplate (reason : String)
  /-- A value could not be used. -/
  | fault (f : Fault)

/-- The text of a breakdown. -/
def Breakdown.display : Breakdown → String
  | .keyNotText k =>
    "TypeError(" ++ Text.quoted ("expected string or bytes-like object, got '" ++ k.fullName ++ "'")
      ++ ")"
  | .missingKey key => "KeyError(" ++ key.quoted ++ ")"
  | .noNames => "AssertionError()"
  | .notHashable k => "TypeError(" ++ Text.quoted ("unhashable type: '" ++ k.name ++ "'") ++ ")"
  | .badTemplate reason => "ValueError(" ++ Text.quoted reason ++ ")"
  | .fault f => "AttributeError(" ++ Text.quoted f.message ++ ")"

/-- A broken rule. -/
structure Finding where
  /-- What is wrong. -/
  message : String
  /-- The keys that lead to the part it is about. -/
  place : List Scalar := []
  /-- The name of the rule. -/
  keyword : Option String := none

/-- The place of a finding as a text. -/
def Finding.path (f : Finding) : String :=
  "/" ++ Text.join "/" (f.place.map Scalar.display)

/-- What a check finds. -/
structure Findings where
  /-- The broken rules, in order. -/
  found : List Finding := []
  /-- Why the check could not go on, if it could not. -/
  breakdown : Option Breakdown := none

namespace Findings

/-- Nothing is found. -/
def none : Findings := {}

/-- One broken rule. -/
def one (f : Finding) : Findings := { found := [f] }

/-- A breakdown. -/
def stop (b : Breakdown) : Findings := { breakdown := b }

/-- One check after the other; after a breakdown nothing more is checked. -/
def append (a b : Findings) : Findings :=
  match a.breakdown with
  | some _ => a
  | Option.none => ⟨a.found ++ b.found, b.breakdown⟩

instance : Append Findings := ⟨append⟩

/-- A check of each of several things. -/
def all {α : Type} (check : α → Findings) : List α → Findings
  | [] => none
  | a :: as => check a ++ all check as

/-- A check that needs something that may break down. -/
def after {α : Type} (r : Except Breakdown α) (check : α → Findings) : Findings :=
  match r with
  | .ok a => check a
  | .error b => stop b

/-- Finds a broken rule if a condition holds. -/
def when (b : Bool) (keyword message : String) : Findings :=
  if b then one ⟨message, [], some keyword⟩ else none

/-- Puts a key in front of all places. -/
def within (key : Scalar) (f : Findings) : Findings :=
  { f with found := f.found.map fun x => { x with place := key :: x.place } }

/-- Whether nothing was found. A breakdown counts only where nothing was found before it. -/
def isValid (f : Findings) : Except Breakdown Bool :=
  if f.found.isEmpty then
    match f.breakdown with
    | some b => .error b
    | Option.none => .ok true
  else .ok false

/-- Whether a check that is carried through to its end found nothing. -/
def isClean (f : Findings) : Except Breakdown Bool :=
  match f.breakdown with
  | some b => .error b
  | Option.none => .ok f.found.isEmpty

/-- Going on from nothing changes nothing. -/
@[simp]
theorem none_append (f : Findings) : none ++ f = f := rfl

end Findings

end RouteAtlas
