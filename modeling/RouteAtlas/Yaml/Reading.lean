import RouteAtlas.Yaml.Node
import RouteAtlas.Yaml.Writer
import RouteAtlas.Decimal.Reading
import RouteAtlas.Text.Casing

/-!
# Reading YAML

`Yaml.load` reads the value of a YAML text. Nodes become values by their tags. A text can be refused
for many reasons; collections are filled level by level, so of several reasons the one at the lowest
depth counts, and among those of the same depth the first in the text. `Yaml.loadShared` also says
which maps are the same because aliases refer to them.

Data is finite and its texts are made of characters. A YAML text can ask for more, by an alias
inside the node that it refers to or by an escape for half of a surrogate pair; `Yaml.isHeld` tells
such texts from those whose value is all that they say.
-/

namespace RouteAtlas.Yaml

/-- Why a text has no value. -/
inductive LoadError
  /-- It is not YAML, or a node does not fit its tag. -/
  | malformed
  /-- An escape names a character that does not exist. -/
  | noCharacter
  /-- An escape names a number that no machine word for characters holds. -/
  | hugeCharacter
  /-- There is no such day or time. -/
  | calendar (e : CalendarError)
  /-- A text is not an integer in the given base. -/
  | notInteger (base : Nat) (text : String)
  /-- A text is not a number. -/
  | notFloat (text : String)
  /-- A text is no word for a truth value. -/
  | notBool (text : String)
  /-- A text is not written like a date. -/
  | notTimestamp
  /-- A number has no digits at all. -/
  | noDigits

/-- The wording of a load error. -/
def LoadError.message : LoadError → String
  | .malformed => "<yaml error>"
  | .noCharacter => "chr() arg not in range(0x110000)"
  | .hugeCharacter => "Python int too large to convert to C int"
  | .calendar e => e.message
  | .notInteger base text =>
    "invalid literal for int() with base " ++ Text.decimal base ++ ": " ++ Text.quoted text
  | .notFloat text => "could not convert string to float: " ++ Text.quoted text
  | .notBool text => Text.quoted text
  | .notTimestamp => "'NoneType' object has no attribute 'groupdict'"
  | .noDigits => "string index out of range"

/-! ### Scalars -/

/-- The value of a word for a truth value. -/
def boolOf (text : String) : Except LoadError Bool :=
  let word := Text.lowerAscii text
  if ["yes", "true", "on"].contains word then .ok true
  else if ["no", "false", "off"].contains word then .ok false
  else .error (.notBool word)

/-- An integer in a base. -/
def integerIn (base : Nat) (text : String) : Except LoadError Int :=
  match Decimal.integer? base text with
  | some n => .ok n
  | none => .error (.notInteger base text)

/-- The value of base-sixty digits, the most significant first. -/
def sixties (digits : List Int) : Int := digits.foldl (fun n d => n * 60 + d) 0

/-- Splits off a sign. -/
def signed (cs : List Char) : Except LoadError (Bool × List Char) :=
  match cs with
  | [] => .error .noDigits
  | '-' :: rest => .ok (true, rest)
  | '+' :: rest => .ok (false, rest)
  | _ => .ok (false, cs)

/-- The integer of a text: the beginning shows the base. -/
def intOf (text : String) : Except LoadError Int := do
  let (negative, cs) ← signed (text.toList.filter (· != '_'))
  let rest := String.ofList cs
  let n ← match cs with
    | [] => throw .noDigits
    | ['0'] => pure 0
    | '0' :: 'b' :: ds => integerIn 2 (String.ofList ds)
    | '0' :: 'x' :: ds => integerIn 16 (String.ofList ds)
    | '0' :: _ => integerIn 8 rest
    | _ =>
      if cs.contains ':' then do
        let digits ← (Text.split ':' rest).mapM (integerIn 10)
        pure (sixties digits)
      else integerIn 10 rest
  return if negative then -n else n

/-- A number with a point. -/
def floatIn (text : String) : Except LoadError Float :=
  match Decimal.float? text with
  | some x => .ok x
  | none => .error (.notFloat text)

/-- The sum of base-sixty groups, the last one counting once. -/
def floatSixties (groups : List Float) : Float :=
  (groups.foldr (fun d (acc : Float × Float) => (acc.1 + d * acc.2, acc.2 * 60.0)) (0.0, 1.0)).1

/-- The number of a text. -/
def floatOf (text : String) : Except LoadError Float := do
  let lower := (Text.lowerAscii text).toList.filter (· != '_')
  let (negative, cs) ← signed lower
  let rest := String.ofList cs
  let x ← do
    if rest == ".inf" then pure (1.0 / 0.0)
    else if rest == ".nan" then pure (0.0 / 0.0)
    else if cs.contains ':' then do
      let groups ← (Text.split ':' rest).mapM floatIn
      pure (floatSixties groups)
    else floatIn rest
  return if negative && rest != ".nan" then -x else x

/-! ### Dates -/

/-- Reads one or two digits. -/
def shortNumber? (cs : List Char) : Option (Nat × List Char) :=
  let ds := (cs.take 2).takeWhile Char.isDigit
  if ds.isEmpty then none else some (Decimal.natOfDigits ds, cs.drop ds.length)

/-- Reads a given number of digits. -/
def fixedNumber? (n : Nat) (cs : List Char) : Option (Nat × List Char) :=
  let ds := cs.take n
  if ds.length == n && ds.all Char.isDigit then some (Decimal.natOfDigits ds, cs.drop n) else none

/-- Reads a given character. -/
def fixedChar? (c : Char) : List Char → Option (List Char)
  | d :: cs => if c == d then some cs else none
  | [] => none

/-- Reads an offset from universal time, in minutes. -/
def offset? (cs : List Char) : Option (Option Int) :=
  match cs.dropWhile isStampBlank with
  | [] => if cs.isEmpty then some none else none
  | ['Z'] => some (some 0)
  | mark :: rest =>
    if mark == '+' || mark == '-' then do
      let (hours, rest) ← shortNumber? rest
      let (minutes, rest) ← match rest with
        | ':' :: ms => fixedNumber? 2 ms
        | rest => some (0, rest)
      let total : Int := hours * 60 + minutes
      if rest.isEmpty then some (some (if mark == '-' then -total else total)) else none
    else none

/-- Microseconds from the digits behind the point. -/
def microseconds (ds : List Char) : Nat :=
  Decimal.natOfDigits ((ds ++ List.replicate 6 '0').take 6)

/-- The parts of a time: hour, minute, second, microsecond and offset. -/
def timeParts? (cs : List Char) : Option (Nat × Nat × Nat × Nat × Option Int) := do
  let (hour, cs) ← shortNumber? cs
  let cs ← fixedChar? ':' cs
  let (minute, cs) ← fixedNumber? 2 cs
  let cs ← fixedChar? ':' cs
  let (second, cs) ← fixedNumber? 2 cs
  let (micro, cs) : Nat × List Char := match cs with
    | '.' :: rest =>
      let ds := rest.takeWhile Char.isDigit
      (microseconds ds, rest.drop ds.length)
    | cs => (0, cs)
  let offset ← offset? cs
  return (hour, minute, second, micro, offset)

/-- The day or the time that a text is written like. -/
def timestampParts? (cs : List Char) :
    Option (Date × Option (Nat × Nat × Nat × Nat × Option Int)) := do
  let (year, cs) ← fixedNumber? 4 cs
  let cs ← fixedChar? '-' cs
  let (month, cs) ← shortNumber? cs
  let cs ← fixedChar? '-' cs
  let (day, cs) ← shortNumber? cs
  let date : Date := ⟨year, month, day⟩
  match cs with
  | [] => return (date, none)
  | c :: rest =>
    let rest ← if c == 'T' || c == 't' then some rest
      else if isStampBlank c then some (cs.dropWhile isStampBlank) else none
    let time ← timeParts? rest
    return (date, some time)

/-- The day or the time of a text. -/
def timestampOf (text : String) : Except LoadError Scalar :=
  match timestampParts? text.toList with
  | none => .error .notTimestamp
  | some (date, none) =>
    match date.check with
    | .ok d => .ok (.date d)
    | .error e => .error (.calendar e)
  | some (date, some (hour, minute, second, micro, offset)) =>
    let stamp : Stamp := ⟨date, hour, minute, second, micro, offset.map (· * 60000000)⟩
    match stamp.check with
    | .ok t => .ok (.stamp t)
    | .error e => .error (.calendar e)

/-! ### Bytes -/

/-- Bytes from six-bit letters, of which incomplete groups keep only whole bytes. -/
def bytesOfSixes : List Nat → List UInt8
  | a :: b :: c :: d :: rest =>
    let n := ((a * 64 + b) * 64 + c) * 64 + d
    (n / 65536).toUInt8 :: (n / 256 % 256).toUInt8 :: (n % 256).toUInt8 :: bytesOfSixes rest
  | [a, b, c] =>
    let n := (a * 64 + b) * 64 + c
    [(n / 1024).toUInt8, (n / 4 % 256).toUInt8]
  | [a, b] => [((a * 64 + b) / 16).toUInt8]
  | _ => []

/-- The letters of a base-sixty-four text up to its end, as numbers: padding ends it once a group has
at least two letters and the padding is complete; other characters are skipped. -/
def base64Sixes : List Nat → Nat → List Char → Option (List Nat)
  | done, _, [] => if done.length % 4 == 0 then some done else none
  | done, pads, c :: cs =>
    if c == '=' then
      let filled := done.length % 4
      if 2 ≤ filled && 4 ≤ filled + pads + 1 then some done
      else base64Sixes done (if 2 ≤ filled then pads + 1 else pads) cs
    else
      match base64Letters.idxOf? c with
      | some n => base64Sixes (done ++ [n]) 0 cs
      | none => base64Sixes done pads cs

/-- The bytes of a text in base sixty-four. -/
def bytesOf (text : String) : Except LoadError (List UInt8) :=
  let cs := text.toList
  if cs.any fun c => 128 ≤ c.toNat then .error .malformed
  else
    match base64Sixes [] 0 cs with
    | some sixes => .ok (bytesOfSixes sixes)
    | none => .error .malformed

/-! ### Nodes -/

/-- A reason for refusal, and the depth at which it is met. -/
structure Reason where
  /-- The depth. -/
  depth : Nat
  /-- The reason. -/
  error : LoadError

/-- Of two reasons, the one that counts. -/
def Reason.first (a b : Reason) : Reason := if b.depth < a.depth then b else a

/-- Either a value or a reason for refusal. -/
abbrev Loaded (α : Type) := Except Reason α

/-- Combines two results of neighbours; of two reasons the lower one counts. -/
def both {α β : Type} (a : Loaded α) (b : Loaded β) : Loaded (α × β) :=
  match a, b with
  | .ok a, .ok b => .ok (a, b)
  | .error r, .ok _ => .error r
  | .ok _, .error r => .error r
  | .error r, .error s => .error (r.first s)

/-- The scalar of a scalar node. -/
def scalarOf (tag : Tag) (text : String) : Except LoadError Scalar :=
  match tag with
  | .null => .ok .null
  | .bool => (boolOf text).map .bool
  | .int => (intOf text).map .int
  | .float => (floatOf text).map .float
  | .timestamp => timestampOf text
  | .binary => (bytesOf text).map .bytes
  | .text => .ok (.text text)
  | _ => .error .malformed

/-- The tags that only collections can be given. -/
def isCollectionTag : Tag → Bool
  | .seq | .map | .set | .omap | .pairs => true
  | _ => false

/-- Whether a node is the key that merges other mappings. -/
def isMergeKey : Node → Bool
  | .scalar .merge _ => true
  | _ => false

/-- A key that stands for a value counts as a text. -/
def plainKey : Node → Node
  | .scalar .value text => .scalar .text text
  | n => n

/-- The entries of a mapping that are not merge keys. -/
def ownEntries (es : List (Node × Node)) : List (Node × Node) :=
  (es.filter fun e => !isMergeKey e.1).map fun e => (plainKey e.1, e.2)

mutual

/-- The entries that the merge keys of a mapping bring in, `none` if something that is not a mapping
is merged. -/
def mergedEntries : List (Node × Node) → Option (List (Node × Node))
  | [] => some []
  | (k, v) :: es => do
    let here ← if isMergeKey k then mergedNode v else some []
    let rest ← mergedEntries es
    return here ++ rest

/-- The entries of a merged mapping, or of several. -/
def mergedNode : Node → Option (List (Node × Node))
  | .map _ es _ => (mergedEntries es).map (· ++ ownEntries es)
  | .seq _ ns => mergedList ns
  | .scalar _ _ => none

/-- The entries of several merged mappings; earlier ones come later and so prevail. -/
def mergedList : List Node → Option (List (Node × Node))
  | [] => some []
  | .map _ es _ :: ns => do
    let merged ← mergedEntries es
    let rest ← mergedList ns
    return rest ++ (merged ++ ownEntries es)
  | _ :: _ => none

end

/-- The entries of a mapping with merged ones in front. -/
def flatten (es : List (Node × Node)) : Option (List (Node × Node)) :=
  (mergedEntries es).map (· ++ ownEntries es)

mutual

/-- The text of a node that is used as a scalar. -/
def textOf? : Node → Option String
  | .scalar _ text => some text
  | .map _ es _ => standIn? es
  | .seq _ _ => none

/-- The text that stands for a mapping used as a scalar: that of its first value key. -/
def standIn? : List (Node × Node) → Option String
  | [] => none
  | (.scalar .value _, v) :: _ => textOf? v
  | _ :: es => standIn? es

end

/-- The key of a node that is met at a depth; only scalars can be keys. -/
def keyOf (depth : Nat) : Node → Loaded Scalar
  | .scalar tag text => (scalarOf tag text).mapError (⟨depth, ·⟩)
  | _ => .error ⟨depth, .malformed⟩

/-- Loads neighbours in order. -/
def loadAll {α β : Type} (load : α → Loaded β) : List α → Loaded (List β)
  | [] => .ok []
  | a :: as => (both (load a) (loadAll load as)).map fun p => p.1 :: p.2

/-- The value of a node that is met at a depth. What is inside a collection is met one level
deeper. -/
def sharedOf : Nat → Nat → Node → Loaded Shared
  | 0, depth, _ => .error ⟨depth, .malformed⟩
  | fuel + 1, depth, n =>
    let inside := sharedOf fuel (depth + 1)
    let refuse : Loaded Shared := .error ⟨depth + 1, .malformed⟩
    let ofScalar (tag : Tag) (text : String) : Loaded Shared :=
      ((scalarOf tag text).map Shared.scalar).mapError (⟨depth, ·⟩)
    match n with
    | .scalar tag text => if isCollectionTag tag then refuse else ofScalar tag text
    | .seq tag items =>
      match tag with
      | .seq => (loadAll inside items).map Shared.list
      | .omap | .pairs =>
        let pairOf (item : Node) : Loaded Shared :=
          match item with
          | .map _ [(k, v)] _ => (both (inside k) (inside v)).map fun p => .pair p.1 p.2
          | _ => refuse
        (loadAll pairOf items).map Shared.list
      | tag => if isCollectionTag tag then refuse else .error ⟨depth, .malformed⟩
    | .map tag es mark =>
      match tag with
      | .map =>
        match flatten es with
        | none => refuse
        | some es =>
          (loadAll (fun e => both (keyOf (depth + 1) e.1) (inside e.2)) es).map fun ms =>
            .map mark (Members.ofList ms)
      | .set =>
        match flatten es with
        | none => refuse
        | some es =>
          (loadAll (fun e => both (keyOf (depth + 1) e.1) (inside e.2)) es).map fun ms =>
            .set ((Members.ofList ms).map (·.1))
      | tag =>
        if isCollectionTag tag then refuse
        else
          match standIn? es with
          | some text => ofScalar tag text
          | none => .error ⟨depth, .malformed⟩

/-! ### Texts -/

/-- The load error of a flaw. -/
def LoadError.ofFlaw : Flaw → LoadError
  | .malformed | .selfContaining => .malformed
  | .noCharacter => .noCharacter
  | .hugeCharacter => .hugeCharacter

/-- The value of a YAML text, with its shared maps; an empty text has the absent value. -/
def loadShared (source : String) : Except LoadError Shared := do
  let ts ← (tokens source).mapError .ofFlaw
  match ← (Node.ofTokens ts).mapError .ofFlaw with
  | none => return .scalar .null
  | some n => (sharedOf (ts.length + 2) 0 n).mapError (·.error)

/-- Whether the value of a text, if it has one, is made of texts and has an end. Half of a surrogate
pair is part of no text, and an alias inside the node that it refers to stands for a value without
end: for the one there is a replacement, and the other is refused, although neither makes a text
malformed. -/
def isHeld (source : String) : Bool :=
  !hasHalfPair source &&
    match (tokens source).bind Node.ofTokens with
    | .error .selfContaining => false
    | _ => true

/-- The value of a YAML text. -/
def load (source : String) : Except LoadError Value :=
  (loadShared source).map Shared.value

end RouteAtlas.Yaml
