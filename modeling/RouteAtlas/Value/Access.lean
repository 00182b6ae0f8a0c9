import RouteAtlas.Value.Display

/-!
# Reading loosely typed data

A document from outside may have any shape, and the library reads it without checking the shape
first: it asks a value for a member, for its members, for its items. `Fault` says why a value
could not answer. Each reading below is defined for every value, so the exact fault of a
misshapen document can be predicted from its shape.
-/

namespace RouteAtlas

/-- Why a value could not be used as the library tried to use it. -/
inductive Fault
  /-- A value of this kind has no such operation. -/
  | noAttribute (kind : Kind) (name : String)
  /-- A value of this kind has no items to go through. -/
  | notIterable (kind : Kind)
  /-- A value of this kind cannot be searched. -/
  | notSearchable (kind : Kind)
  /-- Something of this kind cannot be searched for in a text. -/
  | notPartOfText (kind : Kind)
  /-- A value of this kind has no length. -/
  | noLength (kind : Kind)
  /-- A value of this kind has no parts. -/
  | notSubscriptable (kind : Kind)
  /-- A list is indexed by a key of this kind. -/
  | listIndex (key : Kind)
  /-- A text is indexed by a key of this kind. -/
  | textIndex (key : Kind)
  /-- The parts of a value of this kind cannot be set. -/
  | noAssignment (kind : Kind)
  /-- The map has no such key. -/
  | missingKey (key : Scalar)
  /-- The line of this number is not a text. -/
  | notText (position : Nat) (kind : Kind)
  /-- A value of this kind cannot be written as JSON. -/
  | notSerializable (kind : Kind)
  /-- A value of this kind cannot be the name of a JSON member. -/
  | badMemberName (kind : Kind)

/-- The wording of a fault. -/
def Fault.message : Fault → String
  | .noAttribute k name => "'" ++ k.fullName ++ "' object has no attribute '" ++ name ++ "'"
  | .notIterable k => "'" ++ k.fullName ++ "' object is not iterable"
  | .notSearchable k => "argument of type '" ++ k.fullName ++ "' is not iterable"
  | .notPartOfText k =>
    "'in <string>' requires string as left operand, not " ++ k.fullName
  | .noLength k => "object of type '" ++ k.fullName ++ "' has no len()"
  | .notSubscriptable k => "'" ++ k.fullName ++ "' object is not subscriptable"
  | .listIndex k => "list indices must be integers or slices, not " ++ k.fullName
  | .textIndex k => "string indices must be integers, not '" ++ k.fullName ++ "'"
  | .noAssignment k => "'" ++ k.fullName ++ "' object does not support item assignment"
  | .missingKey key => key.quoted
  | .notText i k =>
    "sequence item " ++ Text.decimal i ++ ": expected str instance, " ++ k.fullName ++ " found"
  | .notSerializable k => "Object of type " ++ k.name ++ " is not JSON serializable"
  | .badMemberName k => "keys must be str, int, float, bool or None, not " ++ k.name

namespace Value

/-- The member of a name, `null` if the map has none. -/
def member (v : Value) (name : String) : Except Fault Value :=
  match v with
  | .map ms => .ok ((Members.find? ms name).getD null)
  | v => .error (.noAttribute v.kind "get")

/-- The member of a name, or a default if the map has none. -/
def memberD (v : Value) (name : String) (default : Value) : Except Fault Value :=
  match v with
  | .map ms => .ok ((Members.find? ms name).getD default)
  | v => .error (.noAttribute v.kind "get")

/-- The members of a map, asked for by an operation of the given name. -/
def membersFor (v : Value) (operation : String) : Except Fault Members :=
  match v with
  | .map ms => .ok ms
  | v => .error (.noAttribute v.kind operation)

/-- The items met when going through a value: the items of a list, the keys of a map, the
characters of a text. -/
def iterate : Value → Except Fault (List Value)
  | .list xs => .ok xs
  | .map ms => .ok (ms.map fun m => .scalar m.1)
  | .set xs => .ok (xs.map .scalar)
  | .pair a b => .ok [a, b]
  | .scalar (.text s) => .ok (s.toList.map fun c => text c.toString)
  | .scalar (.bytes b) => .ok (b.map fun x => int x.toNat)
  | v => .error (.notIterable v.kind)

/-- The number of items of a value. -/
def length : Value → Except Fault Nat
  | .list xs => .ok xs.length
  | .map ms => .ok ms.length
  | .set xs => .ok xs.length
  | .pair _ _ => .ok 2
  | .scalar (.text s) => .ok s.length
  | .scalar (.bytes b) => .ok b.length
  | v => .error (.noLength v.kind)

/-- Whether a value holds a scalar: as a key of a map, an item of a list or a set, or, if it is a
text, as a part of a text. -/
def holds (v : Value) (key : Scalar) : Except Fault Bool :=
  let isKey : Value → Bool
    | .scalar s => s.same key
    | _ => false
  match v with
  | .list xs => .ok (xs.any isKey)
  | .pair a b => .ok (isKey a || isKey b)
  | .map ms => .ok (Members.has ms key)
  | .set xs => .ok (xs.any fun x => x.same key)
  | .scalar (.text s) =>
    match key with
    | .text part => .ok (Text.contains s part)
    | key => .error (.notPartOfText key.kind)
  | v => .error (.notSearchable v.kind)

/-- The part of a value under a text key. -/
def item (v : Value) (name : String) : Except Fault Value :=
  match v with
  | .map ms =>
    match Members.find? ms name with
    | some x => .ok x
    | none => .error (.missingKey (.text name))
  | .list _ => .error (.listIndex .text)
  | .scalar (.text _) => .error (.textIndex .text)
  | v => .error (.notSubscriptable v.kind)

/-- Sets the part of a value under a text key. -/
def setItem (v : Value) (name : String) (x : Value) : Except Fault Value :=
  match v with
  | .map ms => .ok (.map (Members.put ms name x))
  | .list _ => .error (.listIndex .text)
  | v => .error (.noAssignment v.kind)

/-- A value, or a default where it does not count as true. -/
def orElse (v default : Value) : Value :=
  if v.truthy then v else default

end Value

end RouteAtlas
