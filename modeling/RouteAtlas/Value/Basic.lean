import RouteAtlas.Calendar
import RouteAtlas.Decimal.Shortest

/-!
# Ordered data

`Value` is the data that documents are made of: scalars, lists, and maps that keep the order in
which their members were added. Map keys are scalars; two keys are the same when they are equal as
data, so the numbers `1`, `1.0` and `true` are one key. `Members` are the members of a map, with
the laws of an insertion-ordered dictionary: replacing a member keeps its place, a new member goes
to the end.
-/

namespace RouteAtlas

/-- A datum without parts. -/
inductive Scalar
  /-- The absent value. -/
  | null
  /-- A truth value. -/
  | bool (b : Bool)
  /-- An integer of any size. -/
  | int (n : Int)
  /-- A floating-point number. -/
  | float (x : Float)
  /-- A text. -/
  | text (s : String)
  /-- A day. -/
  | date (d : Date)
  /-- A day and time. -/
  | stamp (t : Stamp)
  /-- A string of bytes. -/
  | bytes (b : List UInt8)

/-- Data. -/
inductive Value
  /-- A datum without parts. -/
  | scalar (s : Scalar)
  /-- A set of scalars, in the order of insertion. -/
  | set (members : List Scalar)
  /-- A pair, as found in an ordered map written as a sequence. -/
  | pair (fst snd : Value)
  /-- A list. -/
  | list (items : List Value)
  /-- A map, in the order of insertion. -/
  | map (members : List (Scalar × Value))

/-- The members of a map. -/
abbrev Members := List (Scalar × Value)

instance : Inhabited Value := ⟨.scalar .null⟩

namespace Value

/-- The absent value. -/
abbrev null : Value := .scalar .null

/-- A truth value. -/
abbrev bool (b : Bool) : Value := .scalar (.bool b)

/-- An integer. -/
abbrev int (n : Int) : Value := .scalar (.int n)

/-- A floating-point number. -/
abbrev float (x : Float) : Value := .scalar (.float x)

/-- A text. -/
abbrev text (s : String) : Value := .scalar (.text s)

/-- A map with text keys. -/
def object (members : List (String × Value)) : Value :=
  .map (members.map fun m => (.text m.1, m.2))

/-- A list of texts. -/
def texts (items : List String) : Value :=
  .list (items.map text)

/-- The text, if the value is one. -/
def text? : Value → Option String
  | .scalar (.text s) => some s
  | _ => none

/-- The members, if the value is a map. -/
def members? : Value → Option Members
  | .map ms => some ms
  | _ => none

/-- The items, if the value is a list. -/
def items? : Value → Option (List Value)
  | .list xs => some xs
  | _ => none

end Value

/-! ### Kinds -/

/-- The kinds of data. -/
inductive Kind
  | null | bool | int | float | text | date | stamp | bytes | set | pair | list | map
deriving DecidableEq

/-- The name of a kind in messages. -/
def Kind.name : Kind → String
  | .null => "NoneType"
  | .bool => "bool"
  | .int => "int"
  | .float => "float"
  | .text => "str"
  | .date => "date"
  | .stamp => "datetime"
  | .bytes => "bytes"
  | .set => "set"
  | .pair => "tuple"
  | .list => "list"
  | .map => "dict"

/-- The full name of a kind in messages about missing attributes, which name the module of a
kind too. -/
def Kind.fullName : Kind → String
  | .date => "datetime.date"
  | .stamp => "datetime.datetime"
  | k => k.name

/-- The kind of a scalar. -/
def Scalar.kind : Scalar → Kind
  | .null => .null
  | .bool _ => .bool
  | .int _ => .int
  | .float _ => .float
  | .text _ => .text
  | .date _ => .date
  | .stamp _ => .stamp
  | .bytes _ => .bytes

/-- The kind of a value. -/
def Value.kind : Value → Kind
  | .scalar s => s.kind
  | .set _ => .set
  | .pair _ _ => .pair
  | .list _ => .list
  | .map _ => .map

/-! ### Truth -/

/-- A scalar counts as true unless it is absent, false, zero or empty. -/
def Scalar.truthy : Scalar → Bool
  | .null => false
  | .bool b => b
  | .int n => n != 0
  | .float x => x != 0.0
  | .text s => s != ""
  | .date _ => true
  | .stamp _ => true
  | .bytes b => !b.isEmpty

/-- A value counts as true unless it is absent, false, zero or empty. -/
def Value.truthy : Value → Bool
  | .scalar s => s.truthy
  | .set xs => !xs.isEmpty
  | .pair _ _ => true
  | .list xs => !xs.isEmpty
  | .map ms => !ms.isEmpty

/-! ### Keys -/

/-- The integer that a number is equal to. -/
def Scalar.integer? : Scalar → Option Int
  | .bool b => some (if b then 1 else 0)
  | .int n => some n
  | .float x => Decimal.integerOfFloat? x
  | _ => none

/-- Whether two scalars are the same key. -/
def Scalar.same : Scalar → Scalar → Bool
  | .null, .null => true
  | .text a, .text b => a == b
  | .date a, .date b => a == b
  | .stamp a, .stamp b => a == b
  | .bytes a, .bytes b => a == b
  | .float a, .float b => a == b
  | a, b =>
    match a.integer?, b.integer? with
    | some m, some n => m == n
    | _, _ => false

/-- A text key is the same only as an equal text. -/
@[simp]
theorem Scalar.same_text_text (a b : String) : Scalar.same (.text a) (.text b) = (a == b) := rfl

namespace Members

/- Members are looked up and set in the same way whatever stands under the keys. -/
variable {α : Type}

/-- The value of a key. -/
def get? (ms : List (Scalar × α)) (key : Scalar) : Option α :=
  (ms.find? fun m => m.1.same key).map (·.2)

/-- The value of a text key. -/
def find? (ms : List (Scalar × α)) (name : String) : Option α :=
  get? ms (.text name)

/-- Whether a key is present. -/
def has (ms : List (Scalar × α)) (key : Scalar) : Bool :=
  ms.any fun m => m.1.same key

/-- Sets the value of a key: a present key keeps its place, a new one goes to the end. -/
def insert (key : Scalar) (value : α) : List (Scalar × α) → List (Scalar × α)
  | [] => [(key, value)]
  | m :: ms => if m.1.same key then (m.1, value) :: ms else m :: insert key value ms

/-- Sets the value of a text key. -/
def put (ms : List (Scalar × α)) (name : String) (value : α) : List (Scalar × α) :=
  insert (.text name) value ms

/-- Sets the values of several keys, one after the other. -/
def insertAll (ms new : List (Scalar × α)) : List (Scalar × α) :=
  new.foldl (fun acc m => insert m.1 m.2 acc) ms

/-- Members in the order of first appearance, each with its last value. -/
def ofList (entries : List (Scalar × α)) : List (Scalar × α) :=
  insertAll [] entries

/-- The keys, in order. -/
def keys (ms : Members) : List Scalar :=
  ms.map (·.1)

end Members

end RouteAtlas
