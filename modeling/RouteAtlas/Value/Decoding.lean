import RouteAtlas.Value.Basic
import RouteAtlas.Decimal.Reading

/-!
# Decoding records from data

`Decoded` is the outcome of decoding: a record, or complaints about every part that does not fit,
each with its place. Parts are decoded side by side, so all complaints are collected, in the order
of the parts. Scalars are decoded leniently: an integer may also be given as a truth value, as a
number without a fraction or as a text, a truth value also as zero, one or one of a few words.
-/

namespace RouteAtlas

/-- What is wrong with a part. -/
inductive Mismatch
  | missing
  | notText
  | notInteger
  | integerText
  | fraction
  | notFinite
  | notTruth
  | truthText
  | notList
  | notRecord
  | notMap
deriving DecidableEq

/-- The name of a mismatch. -/
def Mismatch.name : Mismatch → String
  | .missing => "missing"
  | .notText => "string_type"
  | .notInteger => "int_type"
  | .integerText => "int_parsing"
  | .fraction => "int_from_float"
  | .notFinite => "finite_number"
  | .notTruth => "bool_type"
  | .truthText => "bool_parsing"
  | .notList => "list_type"
  | .notRecord => "model_type"
  | .notMap => "dict_type"

/-- A complaint about a part: its place, from the outermost name inwards, and what is wrong. -/
structure Complaint where
  /-- The place of the part. -/
  place : List String
  /-- What is wrong with it. -/
  mismatch : Mismatch

/-- The text of a complaint. -/
def Complaint.message (c : Complaint) : String :=
  Text.join "." c.place ++ ": " ++ c.mismatch.name

/-- The outcome of decoding. -/
inductive Decoded (α : Type)
  /-- Everything fits. -/
  | fits (a : α)
  /-- Some parts do not fit. -/
  | refused (complaints : List Complaint)

namespace Decoded

/-- The complaints of an outcome. -/
def complaints {α : Type} : Decoded α → List Complaint
  | .fits _ => []
  | .refused cs => cs

/-- Combines two outcomes; the complaints of both are kept. -/
def apply {α β : Type} (f : Decoded (α → β)) (x : Decoded α) : Decoded β :=
  match f, x with
  | .fits f, .fits a => .fits (f a)
  | .fits _, .refused cs => .refused cs
  | .refused cs, x => .refused (cs ++ x.complaints)

instance : Applicative Decoded where
  pure := .fits
  seq f x := apply f (x ())

/-- An outcome with one complaint about the part at hand. -/
def complain {α : Type} (m : Mismatch) : Decoded α := .refused [⟨[], m⟩]

/-- Puts a name in front of the places of all complaints. -/
def within {α : Type} (name : String) : Decoded α → Decoded α
  | .fits a => .fits a
  | .refused cs => .refused (cs.map fun c => ⟨name :: c.place, c.mismatch⟩)

end Decoded

namespace Decode

/-! ### Scalars -/

/-- Decodes a text. -/
def text : Value → Decoded String
  | .scalar (.text s) => .fits s
  | _ => .complain .notText

/-- White space that may surround an integer given as a text. -/
def isPadding (c : Char) : Bool :=
  Text.isBlank c && !(28 ≤ c.toNat && c.toNat ≤ 31)

/-- The integer written by a text: digits with single underscores between them, a sign in front,
and a fraction of zeros behind. -/
def integerText? (s : String) : Option Int :=
  let cs := Text.dropEndWhile isPadding (s.toList.dropWhile isPadding)
  let (negative, cs) := Decimal.splitSign cs
  let whole := cs.takeWhile (· != '.')
  let fraction := (cs.dropWhile (· != '.')).drop 1
  if fraction.all (· == '0') then
    (Decimal.digits? 10 0 false whole).map fun n => if negative then -(n : Int) else n
  else none

/-- Decodes an integer. -/
def integer : Value → Decoded Int
  | .scalar (.int n) => .fits n
  | .scalar (.bool b) => .fits (if b then 1 else 0)
  | .scalar (.float x) =>
    if x.isNaN || x.isInf then .complain .notFinite
    else
      match Decimal.integerOfFloat? x with
      | some n => .fits n
      | none => .complain .fraction
  | .scalar (.text s) =>
    match integerText? s with
    | some n => .fits n
    | none => .complain .integerText
  | _ => .complain .notInteger

/-- The truth value of a word. -/
def truthWord? (s : String) : Option Bool :=
  let word := String.ofList (s.toList.map Char.toLower)
  if ["1", "true", "t", "yes", "y", "on"].contains word then some true
  else if ["0", "false", "f", "no", "n", "off"].contains word then some false
  else none

/-- Decodes a truth value. -/
def truth : Value → Decoded Bool
  | .scalar (.bool b) => .fits b
  | .scalar (.int n) =>
    if n == 0 then .fits false else if n == 1 then .fits true else .complain .truthText
  | .scalar (.float x) =>
    if x == 0.0 then .fits false else if x == 1.0 then .fits true else .complain .truthText
  | .scalar (.text s) =>
    match truthWord? s with
    | some b => .fits b
    | none => .complain .truthText
  | _ => .complain .notTruth

/-- Decodes a value that may be absent. -/
def optional {α : Type} (decode : Value → Decoded α) : Value → Decoded (Option α)
  | .scalar .null => .fits none
  | v => some <$> decode v

/-- Decodes the members of a map. -/
def members : Value → Decoded Members
  | .map ms => .fits ms
  | _ => .complain .notMap

/-! ### Lists and records -/

/-- Decodes the items of a list, which are numbered from the given number on. -/
def items {α : Type} (decode : Value → Decoded α) : Nat → List Value → Decoded (List α)
  | _, [] => .fits []
  | i, v :: vs => List.cons <$> (decode v).within (Text.decimal i) <*> items decode (i + 1) vs

/-- Decodes a list. -/
def list {α : Type} (decode : Value → Decoded α) : Value → Decoded (List α)
  | .list vs => items decode 0 vs
  | _ => .complain .notList

/-- Decodes a record from the members of a map. -/
def record {α : Type} (decode : Members → Decoded α) : Value → Decoded α
  | .map ms => decode ms
  | _ => .complain .notRecord

/-- Decodes a member that has to be there. -/
def field {α : Type} (ms : Members) (name : String) (decode : Value → Decoded α) : Decoded α :=
  match Members.find? ms name with
  | some v => (decode v).within name
  | none => Decoded.within name (.complain .missing)

/-- Decodes a member that has a default. -/
def fieldD {α : Type} (ms : Members) (name : String) (default : α) (decode : Value → Decoded α) :
    Decoded α :=
  match Members.find? ms name with
  | some v => (decode v).within name
  | none => .fits default

end Decode

end RouteAtlas
