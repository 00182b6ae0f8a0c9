import RouteAtlas.Value.Shared
import RouteAtlas.Yaml.Lexer
import RouteAtlas.Yaml.Tag

/-!
# YAML nodes

A `Node` is a scalar, a sequence or a mapping together with its tag; tags that are left out have been
filled in and aliases have been replaced by what they refer to. The mappings in a node with an anchor
have marks, so that they can be told from others wherever an alias has put them. `Node.ofTokens?`
builds the node of the single document of a text. An alias inside the node it refers to is refused.
-/

namespace RouteAtlas.Yaml

/-- A node. -/
inductive Node
  /-- A scalar. -/
  | scalar (tag : Tag) (text : String)
  /-- A sequence. -/
  | seq (tag : Tag) (items : List Node)
  /-- A mapping, and its mark if it may stand in several places. -/
  | map (tag : Tag) (entries : List (Node × Node)) (mark : Option Mark)

namespace Node

/-- The node of something left out. -/
def empty : Node := .scalar .null ""

mutual

/-- Marks the mappings in a node that belong to an anchor; those with marks belong to others. -/
def markAll (anchor : String) (way : List Nat) : Node → Node
  | .scalar tag text => .scalar tag text
  | .seq tag items => .seq tag (markItems anchor way 0 items)
  | .map tag entries mark =>
    .map tag (markEntries anchor way 0 entries) (some (mark.getD ⟨anchor, way⟩))

/-- Marks the mappings in the items of a sequence, counting the items. -/
def markItems (anchor : String) (way : List Nat) (i : Nat) : List Node → List Node
  | [] => []
  | n :: ns => n.markAll anchor (i :: way) :: markItems anchor way (i + 1) ns

/-- Marks the mappings in the entries of a mapping, counting keys and values. -/
def markEntries (anchor : String) (way : List Nat) (i : Nat) : List (Node × Node) → List (Node × Node)
  | [] => []
  | (k, v) :: es =>
    (k.markAll anchor (i :: way), v.markAll anchor ((i + 1) :: way)) ::
      markEntries anchor way (i + 2) es

end

end Node

/-- What is known while nodes are read: the tokens left, what tag handles stand for, and the anchors,
those of unfinished nodes without a node. -/
structure Feed where
  /-- The tokens left. -/
  tokens : List Token
  /-- Tag handles. -/
  handles : List (String × String) := [("!", "!"), ("!!", Tag.family)]
  /-- Anchors. -/
  anchors : List (String × Option Node) := []

/-- A reader of nodes. -/
abbrev Parse (α : Type) := StateT Feed (Except Flaw) α

namespace Parse

/-- The next token. -/
def peek : Parse (Option Token) := do
  return (← get).tokens.head?

/-- Moves over a token. -/
def drop : Parse Unit := modify fun f => { f with tokens := f.tokens.drop 1 }

/-- Moves over a given token. -/
def expect (t : Token) : Parse Unit := do
  if (← peek) == some t then drop else throw .malformed

/-- Moves over a given token if it is there, and says whether it was. -/
def optional (t : Token) : Parse Bool := do
  if (← peek) == some t then
    drop
    return true
  else return false

/-- Whether the next token is one of several. -/
def atAny (ts : List Token) : Parse Bool := do
  match ← peek with
  | some t => return ts.contains t
  | none => return false

/-- Tag and anchor in front of a node. -/
structure Properties where
  /-- The anchor. -/
  anchor : Option String := none
  /-- The tag as written. -/
  tag : Option (Option String × String) := none

/-- Reads tag and anchor, in any order. -/
def properties : Parse Properties := do
  match ← peek with
  | some (.anchor a) =>
    drop
    match ← peek with
    | some (.tag h r) =>
      drop
      return ⟨some a, some (h, r)⟩
    | _ => return ⟨some a, none⟩
  | some (.tag h r) =>
    drop
    match ← peek with
    | some (.anchor a) =>
      drop
      return ⟨some a, some (h, r)⟩
    | _ => return ⟨none, some (h, r)⟩
  | _ => return {}

/-- The full name of a tag, `none` if the tag is to be found out. -/
def resolveTag (p : Properties) : Parse (Option String) := do
  match p.tag with
  | none => return none
  | some (none, rest) => return if rest == "!" then none else some rest
  | some (some h, rest) =>
    match (← get).handles.lookup h with
    | some start => return if start ++ rest == "!" then none else some (start ++ rest)
    | none => throw .malformed

/-- Announces an anchor, which has to be new. -/
def announce (name : Option String) : Parse Unit := do
  match name with
  | none => return
  | some a =>
    if ((← get).anchors.lookup a).isSome then throw .malformed
    else modify fun f => { f with anchors := (a, none) :: f.anchors }

/-- Records the node of an anchor, with marks. -/
def record (name : Option String) (n : Node) : Parse Node := do
  match name with
  | none => return n
  | some a =>
    let n := n.markAll a []
    modify fun f => { f with anchors := (a, some n) :: f.anchors }
    return n

/-- The node of an alias. -/
def aliasNode (name : String) : Parse Node := do
  match (← get).anchors.lookup name with
  | some (some n) => return n
  | some none => throw .selfContaining
  | none => throw .malformed

/-- The tag of a collection. -/
def collectionTag (tag : Option String) (default : Tag) : Tag :=
  match tag with
  | some name => .ofName name
  | none => default

/-- The tag of a scalar: the given one or the one found out, for which quotes matter unless an
exclamation mark alone stands in front. -/
def scalarTag (tag : Option String) (nonSpecific plain : Bool) (text : String) : Tag :=
  match tag with
  | some name => .ofName name
  | none => if plain || nonSpecific then .ofPlain text else .text

mutual

/-- Reads a node. `block` allows block collections, `indentless` a sequence at the indentation of
the key it belongs to. -/
def node : Nat → Bool → Bool → Parse Node
  | 0, _, _ => throw .malformed
  | fuel + 1, block, indentless => do
    match ← peek with
    | some (.aliasOf name) =>
      drop
      aliasNode name
    | _ =>
      let p ← properties
      let tag ← resolveTag p
      let hasProperties := p.anchor.isSome || p.tag.isSome
      let n ← match ← peek with
        | some .blockEntry =>
          if indentless then do
            announce p.anchor
            let xs ← indentlessItems fuel
            pure (Node.seq (collectionTag tag .seq) xs)
          else if hasProperties then do
            announce p.anchor
            pure (Node.scalar (scalarTag tag (p.tag.isSome) true "") "")
          else throw .malformed
        | some (.scalar text plain) => do
          drop
          announce p.anchor
          pure (Node.scalar (scalarTag tag p.tag.isSome plain text) text)
        | some .flowSequenceStart => do
          drop
          announce p.anchor
          let xs ← flowItems fuel true
          pure (Node.seq (collectionTag tag .seq) xs)
        | some .flowMappingStart => do
          drop
          announce p.anchor
          let es ← flowEntries fuel true
          pure (Node.map (collectionTag tag .map) es none)
        | other =>
          if block && other == some .blockSequenceStart then do
            drop
            announce p.anchor
            let xs ← blockItems fuel
            pure (Node.seq (collectionTag tag .seq) xs)
          else if block && other == some .blockMappingStart then do
            drop
            announce p.anchor
            let es ← blockEntries fuel
            pure (Node.map (collectionTag tag .map) es none)
          else if hasProperties then do
            announce p.anchor
            pure (Node.scalar (scalarTag tag p.tag.isSome true "") "")
          else throw .malformed
      record p.anchor n

/-- Reads the items of a block sequence. -/
def blockItems : Nat → Parse (List Node)
  | 0 => throw .malformed
  | fuel + 1 => do
    if ← optional .blockEntry then
      let n ← if ← atAny [.blockEntry, .blockEnd] then pure Node.empty else node fuel true false
      return n :: (← blockItems fuel)
    else
      expect .blockEnd
      return []

/-- Reads the items of a sequence at the indentation of its key. -/
def indentlessItems : Nat → Parse (List Node)
  | 0 => throw .malformed
  | fuel + 1 => do
    if ← optional .blockEntry then
      let n ← if ← atAny [.blockEntry, .key, .value, .blockEnd] then pure Node.empty
        else node fuel true false
      return n :: (← indentlessItems fuel)
    else return []

/-- Reads the entries of a block mapping. -/
def blockEntries : Nat → Parse (List (Node × Node))
  | 0 => throw .malformed
  | fuel + 1 => do
    if ← optional .key then
      let k ← if ← atAny [.key, .value, .blockEnd] then pure Node.empty else node fuel true true
      let v ← if ← optional .value then
          if ← atAny [.key, .value, .blockEnd] then pure Node.empty else node fuel true true
        else pure Node.empty
      return (k, v) :: (← blockEntries fuel)
    else
      expect .blockEnd
      return []

/-- Reads the value of an entry in a flow collection that the given token closes. -/
def flowValue : Nat → Token → Parse Node
  | 0, _ => throw .malformed
  | fuel + 1, closing => do
    if ← optional .value then
      if ← atAny [.flowEntry, closing] then return Node.empty else node fuel false false
    else return Node.empty

/-- Reads the items of a flow sequence; an item may be a single entry of a mapping. -/
def flowItems : Nat → Bool → Parse (List Node)
  | 0, _ => throw .malformed
  | fuel + 1, first => do
    if ← optional .flowSequenceEnd then return []
    else
      unless first do expect .flowEntry
      if ← optional .key then
        let k ← if ← atAny [.value, .flowEntry, .flowSequenceEnd] then pure Node.empty
          else node fuel false false
        let v ← flowValue fuel .flowSequenceEnd
        return .map .map [(k, v)] none :: (← flowItems fuel false)
      else if ← optional .flowSequenceEnd then return []
      else
        let n ← node fuel false false
        return n :: (← flowItems fuel false)

/-- Reads the entries of a flow mapping. -/
def flowEntries : Nat → Bool → Parse (List (Node × Node))
  | 0, _ => throw .malformed
  | fuel + 1, first => do
    if ← optional .flowMappingEnd then return []
    else
      unless first do expect .flowEntry
      if ← optional .key then
        let k ← if ← atAny [.value, .flowEntry, .flowMappingEnd] then pure Node.empty
          else node fuel false false
        let v ← flowValue fuel .flowMappingEnd
        return (k, v) :: (← flowEntries fuel false)
      else if ← optional .flowMappingEnd then return []
      else
        let k ← node fuel false false
        return (k, Node.empty) :: (← flowEntries fuel false)

end

/-! ### Documents -/

/-- Takes a directive into account. Each handle, and the version, may be given once; the version has
to be of the first series. -/
def applyDirective (name : String) (ps : List String) (version : Bool) (own : List String) :
    Parse (Bool × List String) := do
  match name, ps with
  | "YAML", major :: _ =>
    if version || (major.toList.dropWhile (· == '0')) != ['1'] then throw .malformed
    else return (true, own)
  | "TAG", [h, start] =>
    if own.contains h then throw .malformed
    else
      modify fun f => { f with handles := (h, start) :: f.handles }
      return (version, h :: own)
  | _, _ => return (version, own)

/-- Reads directives. -/
def directives : Nat → Bool → List String → Parse Unit
  | 0, _, _ => return
  | fuel + 1, version, own => do
    match ← peek with
    | some (.directive name ps) =>
      drop
      let (version, own) ← applyDirective name ps version own
      directives fuel version own
    | _ => return

/-- Skips marks of the end of a document. -/
def skipEnds : Nat → Parse Unit
  | 0 => return
  | fuel + 1 => do
    if ← optional .documentEnd then skipEnds fuel

/-- Reads the only document of a text, `none` if there is none. -/
def document : Parse (Option Node) := do
  let size := (← get).tokens.length
  match ← peek with
  | none => return none
  | some t =>
    let isDirective := match t with | .directive _ _ => true | _ => false
    let n ← if isDirective || t == .documentStart then do
        directives size false []
        expect .documentStart
        match ← peek with
        | none => pure Node.empty
        | some (.directive _ _) => pure Node.empty
        | some .documentStart => pure Node.empty
        | some .documentEnd => pure Node.empty
        | some _ => node (3 * size + 3) true false
      else node (3 * size + 3) true false
    skipEnds size
    if (← peek).isSome then throw .malformed
    return some n

end Parse

/-- The node of the only document among tokens, `none` if there is none. -/
def Node.ofTokens (ts : List Token) : Except Flaw (Option Node) :=
  (Parse.document.run { tokens := ts }).map (·.1)

end RouteAtlas.Yaml
