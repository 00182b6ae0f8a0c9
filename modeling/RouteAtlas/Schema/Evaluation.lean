import RouteAtlas.Schema.Basic
import RouteAtlas.Schema.Findings

/-!
# Checking a value against a schema

`Schema.check` lists the rules of a schema that a value breaks, in the order of the rules, and for
each rule in the order of the value. Schemas may refer to each other in circles, but every circle
leads into a part of the value, so the depth of the value bounds the depth of the check.
-/

namespace RouteAtlas

/-! ### Values -/

mutual

/-- The depth to which a value is nested. -/
def Value.depth : Value → Nat
  | .scalar _ => 1
  | .set _ => 1
  | .pair a b => max a.depth b.depth + 1
  | .list xs => Value.depthOfItems xs + 1
  | .map ms => Value.depthOfMembers ms + 1

/-- The greatest depth among items. -/
def Value.depthOfItems : List Value → Nat
  | [] => 0
  | x :: xs => max x.depth (Value.depthOfItems xs)

/-- The greatest depth among members. -/
def Value.depthOfMembers : List (Scalar × Value) → Nat
  | [] => 0
  | (_, v) :: ms => max v.depth (Value.depthOfMembers ms)

end

/-- Whether two scalars are equal as data; truth values are no numbers. -/
def Scalar.equal (a b : Scalar) : Bool :=
  match a, b with
  | .bool x, .bool y => x == y
  | .bool _, _ => false
  | _, .bool _ => false
  | a, b => a.same b

mutual

/-- Whether two values are equal as data. -/
def Value.equal : Value → Value → Bool
  | .scalar a, .scalar b => a.equal b
  | .list xs, .list ys => Value.equalItems xs ys
  | .map ms, .map ns => ms.length == ns.length && Value.equalMembers ms ns
  | _, _ => false

/-- Whether two lists have equal items. -/
def Value.equalItems : List Value → List Value → Bool
  | [], [] => true
  | x :: xs, y :: ys => x.equal y && Value.equalItems xs ys
  | _, _ => false

/-- Whether members have equal values in another map. -/
def Value.equalMembers : List (Scalar × Value) → List (Scalar × Value) → Bool
  | [], _ => true
  | (k, v) :: ms, ns =>
    (match Members.get? ns k with
      | some w => v.equal w
      | none => false) && Value.equalMembers ms ns

end

/-- Whether the items of a list differ from each other. -/
def allDiffer : List Value → Bool
  | [] => true
  | x :: xs => !xs.any x.equal && allDiffer xs

/-- Whether a number is below a bound, or at most as large. -/
def isBelow (bound : Int) (exclusive : Bool) : Value → Bool
  | .scalar (.int n) => if exclusive then n ≤ bound else n < bound
  | .scalar (.float x) =>
    let b := Float.ofInt bound
    if exclusive then x ≤ b else x < b
  | _ => false

namespace Schema

/-! ### Members -/

/-- Whether a pattern is found in a key. -/
def keyFits (p : Pattern) : Scalar → Except Breakdown Bool
  | .text s => .ok (p.found s)
  | key => .error (.keyNotText key.kind)

/-- Whether some pattern is found in a key. -/
def keyFitsAny (ps : List Pattern) (key : Scalar) : Except Breakdown Bool :=
  match ps with
  | [] => .ok false
  | p :: ps => do
    if ← keyFits p key then return true else keyFitsAny ps key

/-- The names that the rules give schemas for. -/
def ruledNames : List Keyword → List String
  | [] => []
  | .properties ss :: ks => ss.map (·.1) ++ ruledNames ks
  | _ :: ks => ruledNames ks

/-- The patterns that the rules give schemas for. -/
def ruledPatterns : List Keyword → List Pattern
  | [] => []
  | .patternProperties ss :: ks => ss.map (·.1) ++ ruledPatterns ks
  | _ :: ks => ruledPatterns ks

/-- Whether a key is one of several names. -/
def isNamed (names : List String) : Scalar → Bool
  | .text s => names.contains s
  | _ => false

/-- The members that neither a name nor a pattern of the rules covers. -/
def additional (names : List String) (patterns : List Pattern) :
    Members → Except Breakdown Members
  | [] => .ok []
  | m :: ms => do
    if isNamed names m.1 then additional names patterns ms
    else if ← keyFitsAny patterns m.1 then additional names patterns ms
    else
      let rest ← additional names patterns ms
      return m :: rest

/-- Keys in the order of their texts. -/
def sortedKeys (keys : List Scalar) : List Scalar :=
  keys.mergeSort fun a b => decide (a.display ≤ b.display)

/-- Keys as a list in a message, with the verb that goes with it. -/
def unexpectedKeys (keys : List Scalar) : String :=
  Text.join ", " ((sortedKeys keys).map Scalar.quoted) ++ (if keys.length == 1 then " was" else " were")
    ++ " unexpected"

/-- The message about members that fit no pattern, or are not allowed at all. -/
def additionalMessage (keys : List Scalar) (patterns : List Pattern) : String :=
  if patterns.isEmpty then "Additional properties are not allowed (" ++ unexpectedKeys keys ++ ")"
  else
    Text.join ", " ((sortedKeys keys).map Scalar.quoted) ++
      (if keys.length == 1 then " does" else " do") ++ " not match any of the regexes: " ++
      Text.join ", " (((patterns.map (·.source)).mergeSort fun a b => decide (a ≤ b)).map Text.quoted)

/-! ### Rules -/

/-- The check of a part by a schema. -/
abbrev Descend := Schema → Value → Findings

/-- Which of several schemas allow a value. -/
def allowing (descend : Descend) (v : Value) : List Schema → Except Breakdown (List Schema)
  | [] => .ok []
  | s :: ss => do
    let ok ← (descend s v).isValid
    let rest ← allowing descend v ss
    return if ok then s :: rest else rest

/-- The first schema that allows a value, and those after it. Each one tried is checked to its
end. -/
def firstAllowing (descend : Descend) (v : Value) :
    List Schema → Except Breakdown (Option (Schema × List Schema))
  | [] => .ok none
  | s :: ss => do
    if ← (descend s v).isClean then return some (s, ss) else firstAllowing descend v ss

/-- The message that no schema allows a value. -/
def noneAllows (v : Value) : String := v.quoted ++ " is not valid under any of the given schemas"

/-- Checks that exactly one schema allows a value. -/
def checkOneOf (descend : Descend) (v : Value) (schemas : List Schema) : Findings :=
  .after (firstAllowing descend v schemas) fun
    | none => .when true "oneOf" (noneAllows v)
    | some (first, rest) =>
      .after (allowing descend v rest) fun more =>
        .when (!more.isEmpty) "oneOf"
          (v.quoted ++ " is valid under each of " ++
            Text.join ", " ((more ++ [first]).map fun s => s.toValue.quoted))

/-- Checks the items of a list, numbered from the given number on. -/
def checkItems (descend : Descend) (s : Schema) : Nat → List Value → Findings
  | _, [] => .none
  | i, x :: xs => (descend s x).within (.int i) ++ checkItems descend s (i + 1) xs

/-- Checks the members of given names. -/
def checkProperties (descend : Descend) (ms : Members) (schemas : List (String × Schema)) : Findings :=
  .all (fun (name, s) =>
    match Members.find? ms name with
    | some x => (descend s x).within (.text name)
    | none => .none) schemas

/-- Checks the members whose names fit patterns. -/
def checkPatterns (descend : Descend) (ms : Members) (schemas : List (Pattern × Schema)) : Findings :=
  .all (fun (p, s) =>
    .all (fun m => .after (keyFits p m.1) fun
      | true => (descend s m.2).within m.1
      | false => .none) ms) schemas

/-- Checks the members that no other rule covers. -/
def checkAdditional (descend : Descend) (rules : List Keyword) (ms : Members) (s : Schema) :
    Findings :=
  let patterns := ruledPatterns rules
  .after (additional (ruledNames rules) patterns ms) fun extras =>
    match s with
    | .nothing =>
      .when (!extras.isEmpty) "additionalProperties"
        (additionalMessage (extras.map (·.1)) patterns)
    | s => .all (fun m => (descend s m.2).within m.1) extras

/-- Checks the members that no rule has said anything about. Which these are is asked only here. -/
def checkUnevaluated (descend : Descend) (evaluated : Unit → Except Breakdown (List Scalar))
    (ms : Members) (s : Schema) : Findings :=
  .after (evaluated ()) fun keys =>
    .after ((ms.filter fun m => !keys.any fun k => k.same m.1).filterM fun m => do
      let ok ← (descend s m.2).isClean
      return !ok) fun refused =>
      .when (!refused.isEmpty) "unevaluatedProperties"
        ("Unevaluated properties are not allowed (" ++ unexpectedKeys (refused.map (·.1)) ++ ")")

/-- Checks the rules about maps. -/
def checkMap (descend : Descend) (evaluated : Unit → Except Breakdown (List Scalar))
    (rules : List Keyword) (ms : Members) : Keyword → Findings
  | .minProperties n =>
    .when (ms.length < n) "minProperties"
      ((Value.map ms).quoted ++
        (if n == 1 then " should be non-empty" else " does not have enough properties"))
  | .maxProperties n =>
    .when (n < ms.length) "maxProperties"
      ((Value.map ms).quoted ++
        (if n == 0 then " is expected to be empty" else " has too many properties"))
  | .required names =>
    .all (fun name => .when (!Members.has ms (.text name)) "required"
      (Text.quoted name ++ " is a required property")) names
  | .properties ss => checkProperties descend ms ss
  | .patternProperties ss => checkPatterns descend ms ss
  | .additionalProperties s => checkAdditional descend rules ms s
  | .propertyNames s => .all (fun m => descend s (.scalar m.1)) ms
  | .dependentSchemas ss =>
    .all (fun (name, s) =>
      if Members.has ms (.text name) then descend s (.map ms) else .none) ss
  | .unevaluatedProperties s => checkUnevaluated descend evaluated ms s
  | _ => .none

/-- Checks a rule about a value. -/
def checkRule (defs : Definitions) (descend : Descend)
    (evaluated : Unit → Except Breakdown (List Scalar)) (rules : List Keyword) (v : Value)
    (k : Keyword) : Findings :=
  match k with
  | .type ts =>
    .when (!ts.any fun t => t.holds v) "type"
      (v.quoted ++ " is not of type " ++ Text.join ", " (ts.map fun t => Text.quoted t.name))
  | .const x => .when (!v.equal (.scalar x)) "const" (x.quoted ++ " was expected")
  | .enumeration xs =>
    .when (!xs.any fun x => v.equal (.scalar x)) "enum"
      (v.quoted ++ " is not one of " ++ (Value.list (xs.map .scalar)).quoted)
  | .pattern p =>
    match v.text? with
    | some s =>
      .when (!p.found s) "pattern" (v.quoted ++ " does not match " ++ Text.quoted p.source)
    | none => .none
  | .minimum n exclusive =>
    .when (isBelow n exclusive v) k.name
      (v.quoted ++ " is less than " ++ (if exclusive then "or equal to " else "") ++ "the minimum of " ++
        Text.integer n)
  | .minItems n =>
    match v with
    | .list xs =>
      .when (xs.length < n) "minItems"
        (v.quoted ++ (if n == 1 then " should be non-empty" else " is too short"))
    | _ => .none
  | .uniqueItems =>
    match v with
    | .list xs => .when (!allDiffer xs) "uniqueItems" (v.quoted ++ " has non-unique elements")
    | _ => .none
  | .items s =>
    match v with
    | .list xs => checkItems descend s 0 xs
    | _ => .none
  | .allOf ss => .all (fun s => descend s v) ss
  | .anyOf ss =>
    .after (firstAllowing descend v ss) fun
      | none => .when true "anyOf" (noneAllows v)
      | some _ => .none
  | .oneOf ss => checkOneOf descend v ss
  | .not s =>
    .after (descend s v).isValid fun ok =>
      .when ok "not" (v.quoted ++ " should not be valid under " ++ s.toValue.quoted)
  | .cond test yes no =>
    .after (descend test v).isValid fun ok => if ok then descend yes v else descend no v
  | .ref name => descend (defs.find name) v
  | k =>
    match v with
    | .map ms => checkMap descend evaluated rules ms k
    | _ => .none

/-! ### Members that rules say something about -/

/-- The keys of several lists. -/
def joinKeys {α : Type} (keys : α → Except Breakdown (List Scalar)) :
    List α → Except Breakdown (List Scalar)
  | [] => .ok []
  | a :: as => do
    let first ← keys a
    let rest ← joinKeys keys as
    return first ++ rest

/-- The keys of the members that one rule says something about. -/
def ruleKeys (defs : Definitions) (descend : Descend)
    (schemaKeys : Schema → Except Breakdown (List Scalar)) (ms : Members) (k : Keyword) :
    Except Breakdown (List Scalar) :=
  let accepted (s : Schema) : Except Breakdown (List Scalar) := do
    let kept ← ms.filterM fun m => (descend s m.2).isValid
    return kept.map (·.1)
  let whereAllowed (s : Schema) : Except Breakdown (List Scalar) := do
    if ← (descend s (.map ms)).isValid then schemaKeys s else return []
  match k with
  | .ref name => schemaKeys (defs.find name)
  | .properties ss => .ok ((ms.map (·.1)).filter (isNamed (ss.map (·.1))))
  | .additionalProperties s => accepted s
  | .unevaluatedProperties s => accepted s
  | .patternProperties ss => do
    let kept ← ms.filterM fun m => keyFitsAny (ss.map (·.1)) m.1
    return kept.map (·.1)
  | .dependentSchemas ss =>
    joinKeys (fun (name, s) =>
      if Members.has ms (.text name) then schemaKeys s else .ok []) ss
  | .allOf ss => joinKeys whereAllowed ss
  | .oneOf ss => joinKeys whereAllowed ss
  | .anyOf ss => joinKeys whereAllowed ss
  | .cond test yes no => do
    if ← (descend test (.map ms)).isValid then
      let first ← schemaKeys test
      let rest ← schemaKeys yes
      return first ++ rest
    else schemaKeys no
  | _ => .ok []

/-! ### Schemas -/

mutual

/-- The check of a value by a schema, to a limited depth. -/
def checkTo (defs : Definitions) : Nat → Schema → Value → Findings
  | 0, _, _ => .none
  | _ + 1, .anything, _ => .none
  | _ + 1, .nothing, v => .one ⟨"False schema does not allow " ++ v.quoted, [], none⟩
  | depth + 1, .rules ks, v =>
    let evaluated := fun () => match v with
      | .map ms => keysTo defs depth (.rules ks) ms
      | _ => .ok []
    .all (checkRule defs (checkTo defs depth) evaluated ks v) ks

/-- The keys of the members that a schema says something about, to a limited depth. -/
def keysTo (defs : Definitions) : Nat → Schema → Members → Except Breakdown (List Scalar)
  | 0, _, _ => .ok []
  | depth + 1, .rules ks, ms =>
    joinKeys (ruleKeys defs (checkTo defs depth) (fun s => keysTo defs depth s ms) ms) ks
  | _ + 1, _, _ => .ok []

end

/-- The rules of a schema that a value breaks. Within one part of a value no more than a dozen schemas
refer to each other. -/
def check (defs : Definitions) (s : Schema) (v : Value) : Findings :=
  checkTo defs (v.depth * 16 + 32) s v

end Schema

end RouteAtlas
