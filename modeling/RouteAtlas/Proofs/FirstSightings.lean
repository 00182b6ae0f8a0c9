import RouteAtlas.Proofs.Sequences
import RouteAtlas.Proofs.Traversal

/-!
# The first sighting decides

What a handler shows of its parameters and responses is a sequence: its nodes in the order of their
addresses, and for a node that shows several things, these in the order in which they are written. A
**place** is therefore an address and a number, and `InOrder` says that a list goes through all places
where something is seen. `ShowsBody`, `ShowsQuery` and `ShowsResponse` say what a node shows, without
the tests that look for it.

Of such a sequence only the first entry of each name, or of each status, is kept: those at an index
with no entry of the same key before it (`KeepsFirst`). `keepsFirst_sightings` is the statement about
handlers. It also says that a walk comes to the same result that has one collection of what was found
and tries one rule after the other on every node.

Both orders are built from the end: `firstByKey_concat` says what one more sighting does to what was
kept, and the walk and `KeepsFirst` are inductions over it.
-/

namespace RouteAtlas

open Script

/-! ### What a node shows -/

/-- The key of the body that an entry of a pattern takes: written alone, with another name for the
value, or with a default. -/
inductive TakesKey : Tree → String → Prop
  | alone (key : Word) : TakesKey (.shorthand key) key.text
  | aliased (key : Word) (written target : Tree) : TakesKey (.pair (some key) written target) key.text
  | defaulted (key : Word) (value : Tree) : TakesKey (.defaulted (.shorthand key) value) key.text

/-- The use of a part of the request, `req.part.name`. -/
inductive ReadsRequest (part : String) : Tree → String → Prop
  | member {middle name : Word} (hmiddle : middle.text = part) :
      ReadsRequest part (.member (.member (.identifier "req") (some middle)) (some name)) name.text

/-- The names in the body that a node shows, numbered, and whether each has to be there: the entries of
a pattern that takes the body apart, and the use of a part of the body. -/
inductive ShowsBody : Tree → Nat → String × Bool → Prop
  | destructured {entries types : List Tree} {name : Word} {i : Nat} {entry : Tree} {key : String}
      (hname : name.text = "body") (hentry : entries[i]? = some entry) (hkey : TakesKey entry key) :
      ShowsBody (.declarator (.pattern entries) types (some (.member (.identifier "req") (some name))))
        i (key, true)
  | read {node : Tree} {name : String} (h : ReadsRequest "body" node name) :
      ShowsBody node 0 (name, false)

/-- The query parameter that a node shows. -/
inductive ShowsQuery : Tree → Nat → String → Prop
  | read {node : Tree} {name : String} (h : ReadsRequest "query" node name) : ShowsQuery node 0 name

/-- The media type of what a member of the response sends. -/
inductive Sends : String → String → Prop
  | json : Sends "json" "application/json"
  | send : Sends "send" "text/plain"

/-- The response that a node shows: `res.json(…)` and `res.send(…)` with the status 200, and the same
on `res.status(…)` with the status that is written there as an integer. -/
inductive ShowsResponse : Tree → Nat → Response → Prop
  | bare {row : Nat} {name : Word} {types arguments : List Tree} {mediaType : String}
      (hname : Sends name.text mediaType) :
      ShowsResponse (.call row (.member (.identifier "res") (some name)) types arguments) 0
        (Sighting.responseOf 200 mediaType arguments)
  | withStatus {row row' : Nat} {name status : Word} {types types' arguments rest : List Tree}
      {mediaType digits : String} {code : Int} (hname : Sends name.text mediaType)
      (hstatus : status.text = "status") (hcode : Decimal.integer? 10 digits = some code) :
      ShowsResponse
        (.call row
          (.member (.call row' (.member (.identifier "res") (some status)) types' (.number digits :: rest))
            (some name)) types arguments) 0
        (Sighting.responseOf code mediaType arguments)

/-! ### The first of each key -/

section KeepsFirst

variable {α κ : Type}

/-- A list in which, of the entries of another list, those are kept that have no entry of the same key
before them, in their order. -/
def KeepsFirst (key : α → κ) (as kept : List α) : Prop :=
  InOrder (· < ·)
    (fun (i : Nat) a => as[i]? = some a ∧ ∀ j < i, ∀ b, as[j]? = some b → key b ≠ key a) kept

variable [BEq κ] [LawfulBEq κ] (key : α → κ)

/-- One more entry at the end is kept if its key is new. -/
theorem firstByKey_concat (as : List α) (a : α) :
    firstByKey key (as ++ [a]) =
      firstByKey key as ++ (if as.any (key · == key a) then none else some a).toList := by
  induction as with
  | nil => rfl
  | cons b as ih =>
    rw [List.cons_append, firstByKey, ih, List.filter_append, firstByKey, List.cons_append,
      List.any_cons]
    cases hb : key b == key a with
    | true =>
      have hab : (key a == key b) = true := by rw [eq_of_beq hb, beq_self_eq_true]
      by_cases h : as.any (key · == key a) = true <;> simp [h, hab]
    | false =>
      have hab : (key a == key b) = false := by
        rw [beq_eq_false_iff_ne] at hb ⊢
        exact hb.symm
      by_cases h : as.any (key · == key a) = true <;> simp [h, hab]

theorem any_firstByKey (as : List α) (k : κ) :
    (firstByKey key as).any (key · == k) = as.any (key · == k) := by
  induction as using List.reverseRecOn with
  | nil => rfl
  | append_singleton as a ih =>
    rw [firstByKey_concat, List.any_append, List.any_append, ih]
    by_cases h : as.any (key · == key a) = true
    · rw [if_pos h]
      cases hk : key a == k with
      | true =>
        rw [← eq_of_beq hk, h]
        rfl
      | false => simp [hk]
    · rw [if_neg h]
      rfl

theorem keepsFirst_firstByKey (as : List α) : KeepsFirst key as (firstByKey key as) := by
  induction as using List.reverseRecOn with
  | nil => exact inOrder_nil (by simp)
  | append_singleton as a ih =>
    rw [firstByKey_concat]
    refine (ih.append (inOrder_option as.length _) ?_).congr fun i b => ?_
    · rintro i b j c ⟨hb, -⟩ ⟨rfl, -⟩
      exact (List.getElem?_eq_some_iff.mp hb).1
    -- Nothing changes for the earlier elements; the last one is kept if none of them has its key.
    constructor
    · rintro ⟨hb, hfirst⟩
      rcases getElem?_concat_eq_some_iff.mp hb with hb | ⟨rfl, rfl⟩
      · exact .inl ⟨hb, fun j hj c hc => hfirst j hj c (getElem?_concat_eq_some_iff.mpr (.inl hc))⟩
      · refine .inr ⟨rfl, if_neg fun hany => ?_⟩
        obtain ⟨c, hc, hkey⟩ := List.any_eq_true.mp hany
        obtain ⟨j, hj⟩ := List.getElem?_of_mem hc
        have hlt : j < as.length := (List.getElem?_eq_some_iff.mp hj).1
        exact hfirst j hlt c (getElem?_concat_eq_some_iff.mpr (.inl hj)) (eq_of_beq hkey)
    · rintro (⟨hb, hfirst⟩ | ⟨rfl, hb⟩)
      · have hlt : i < as.length := (List.getElem?_eq_some_iff.mp hb).1
        refine ⟨getElem?_concat_eq_some_iff.mpr (.inl hb), fun j hj c hc => hfirst j hj c ?_⟩
        rwa [List.getElem?_append_left (hj.trans hlt)] at hc
      · split_ifs at hb with hany
        obtain rfl := Option.some.inj hb
        refine ⟨getElem?_concat_eq_some_iff.mpr (.inr ⟨rfl, rfl⟩), fun j hj c hc heq => hany ?_⟩
        rw [List.getElem?_append_left hj] at hc
        exact List.any_eq_true.mpr ⟨c, List.mem_of_getElem? hc, beq_iff_eq.mpr heq⟩

/-! ### A walk with one collection -/

/-- What is found after one more sighting: the sighting is added if its key is new. -/
def addFound (found : List α) (a : α) : List α :=
  if found.any (key · == key a) then found else found ++ [a]

theorem foldl_addFound (as : List α) : as.foldl (addFound key) [] = firstByKey key as := by
  induction as using List.reverseRecOn with
  | nil => rfl
  | append_singleton as a ih =>
    rw [List.foldl_append, ih, firstByKey_concat, List.foldl_cons, List.foldl_nil, addFound,
      any_firstByKey]
    split_ifs
    · exact (List.append_nil _).symm
    · rfl

/-- What a walk finds that visits the nodes of a tree, tries the rules on each of them one after the
other, and puts everything into one collection. -/
def walkFound (rules : List (Tree → List α)) (t : Tree) : List α :=
  (Tree.visits [t]).foldl
    (fun found node => rules.foldl (fun found rule => (rule node).foldl (addFound key) found) found) []

theorem walkFound_eq (rules : List (Tree → List α)) (t : Tree) :
    walkFound key rules t =
      firstByKey key (t.nodes.flatMap fun node => rules.flatMap fun rule => rule node) := by
  rw [walkFound, Tree.visits_eq_flatMap, List.flatMap_singleton, ← foldl_addFound, List.foldl_flatMap]
  simp only [List.foldl_flatMap]

end KeepsFirst

/-! ### Sequences of sightings in a tree -/

section Sightings

variable {σ : Type} {Shows : Tree → Nat → σ → Prop}

/-- What a tree shows at a place: at an address, with a number. -/
def ShowsAt (Shows : Tree → Nat → σ → Prop) (t : Tree) (place : List Nat × Nat) (s : σ) : Prop :=
  ∃ node, t.at? place.1 = some node ∧ Shows node place.2 s

/-- The sequence of what a tree shows: in the order of the addresses, and at one address in the order
of the numbers. -/
def IsSequence (Shows : Tree → Nat → σ → Prop) (t : Tree) (seen : List σ) : Prop :=
  InOrder (Prod.Lex (· < ·) (· < ·)) (ShowsAt Shows t) seen

/-- A list of what every single node shows gives the sequence of what the tree shows. -/
theorem isSequence_flatMap {look : Tree → List σ}
    (h : ∀ node, InOrder (· < ·) (Shows node) (look node)) (t : Tree) :
    IsSequence Shows t (t.nodes.flatMap look) := by
  obtain ⟨addresses, haddresses⟩ := t.exists_enumerates
  -- The addresses that are left lead to the nodes that are left.
  have hlists : ∀ (as : List (List Nat)) (nodes : List Tree), as.Pairwise (· < ·) →
      as.map t.at? = nodes.map some →
      InOrder (Prod.Lex (· < ·) (· < ·)) (fun place s => place.1 ∈ as ∧ ShowsAt Shows t place s)
        (nodes.flatMap look) := by
    intro as
    induction as with
    | nil =>
      intro nodes _ hnodes
      obtain rfl : nodes = [] := by simpa using hnodes.symm
      exact inOrder_nil (by simp)
    | cons a as ih =>
      intro nodes hsorted hnodes
      obtain ⟨node, nodes, rfl⟩ : ∃ node rest, nodes = node :: rest := by
        cases nodes with
        | nil => simp at hnodes
        | cons node nodes => exact ⟨node, nodes, rfl⟩
      obtain ⟨hnode, hnodes⟩ := List.cons.inj hnodes
      obtain ⟨hfirst, hsorted⟩ := List.pairwise_cons.mp hsorted
      have hhere : InOrder (Prod.Lex (· < ·) (· < ·))
          (fun place s => ∃ i, (a, i) = place ∧ Shows node i s) (look node) :=
        (h node).rename (fun i => (a, i)) fun i j hij => Prod.Lex.right a hij
      refine (hhere.append (ih nodes hsorted hnodes) ?_).congr fun place s => ?_
      · rintro _ s q u ⟨i, rfl, -⟩ ⟨hq, -⟩
        exact Prod.Lex.left _ _ (hfirst q.1 hq)
      · constructor
        · rintro ⟨hplace, hs⟩
          rcases List.mem_cons.mp hplace with heq | hplace
          · obtain ⟨other, hother, hs⟩ := hs
            rw [heq, hnode] at hother
            exact .inl ⟨place.2, by rw [← heq], Option.some.inj hother ▸ hs⟩
          · exact .inr ⟨hplace, hs⟩
        · rintro (⟨i, rfl, hs⟩ | ⟨hplace, hs⟩)
          · exact ⟨List.mem_cons_self, node, hnode, hs⟩
          · exact ⟨List.mem_cons_of_mem a hplace, hs⟩
  refine (hlists addresses t.nodes haddresses.sorted haddresses.map_at?).congr fun place s => ?_
  refine ⟨fun hs => ⟨?_, hs⟩, And.right⟩
  obtain ⟨node, hnode, -⟩ := hs
  exact haddresses.mem_of_at? place.1 (by rw [hnode]; rfl)

end Sightings

/-! ### The tests find what is shown -/

theorem entryKey?_eq_some_iff {entry : Tree} {key : String} :
    Sighting.entryKey? entry = some key ↔ TakesKey entry key := by
  constructor
  · intro h
    rw [Sighting.entryKey?.eq_def] at h
    split at h
    · exact Option.some.inj h ▸ .alone _
    · obtain ⟨name, rfl, rfl⟩ := Option.map_eq_some_iff.mp h
      exact .aliased _ _ _
    · exact Option.some.inj h ▸ .defaulted _ _
    · cases h
  · rintro (_ | _ | _) <;> rfl

theorem requestMember?_eq_some_iff {part name : String} {node : Tree} :
    Sighting.requestMember? part node = some name ↔ ReadsRequest part node name := by
  constructor
  · intro h
    rw [Sighting.requestMember?.eq_def] at h
    split at h
    · split_ifs at h with hparts
      rw [Bool.and_eq_true, beq_iff_eq, beq_iff_eq] at hparts
      obtain ⟨rfl, hmiddle⟩ := hparts
      exact Option.some.inj h ▸ .member hmiddle
    · cases h
  · rintro ⟨hmiddle⟩
    simp [Sighting.requestMember?, hmiddle]

theorem bodyNames?_eq_some_iff {node : Tree} {names : List String} :
    Sighting.bodyNames? node = some names ↔ ∃ (entries types : List Tree) (name : Word),
      node = .declarator (.pattern entries) types (some (.member (.identifier "req") (some name))) ∧
        name.text = "body" ∧ entries.filterMap Sighting.entryKey? = names := by
  constructor
  · intro h
    rw [Sighting.bodyNames?.eq_def] at h
    split at h
    · split_ifs at h with hbody
      rw [Bool.and_eq_true, beq_iff_eq, beq_iff_eq] at hbody
      obtain ⟨rfl, hname⟩ := hbody
      exact ⟨_, _, _, rfl, hname, Option.some.inj h⟩
    · cases h
  · rintro ⟨entries, types, name, rfl, hname, rfl⟩
    simp [Sighting.bodyNames?, hname]

theorem inOrder_showsBody (node : Tree) :
    InOrder (· < ·) (ShowsBody node) (Sighting.bodyParameters node) := by
  cases hnames : Sighting.bodyNames? node with
  | some names =>
    obtain ⟨entries, types, name, rfl, hname, rfl⟩ := bodyNames?_eq_some_iff.mp hnames
    have hlist : Sighting.bodyParameters
        (.declarator (.pattern entries) types (some (.member (.identifier "req") (some name)))) =
        entries.filterMap fun entry => (Sighting.entryKey? entry).map fun key => (key, true) := by
      rw [Sighting.bodyParameters, hnames, Option.getD_some, List.map_filterMap]
      exact List.append_nil _
    rw [hlist]
    refine (inOrder_filterMap _ entries).congr fun i s => ?_
    constructor
    · rintro (⟨-, hentry, hkey⟩ | ⟨⟨⟩⟩)
      exact ⟨_, hentry, by rw [entryKey?_eq_some_iff.mpr hkey]; rfl⟩
    · rintro ⟨entry, hentry, hs⟩
      obtain ⟨key, hkey, rfl⟩ := Option.map_eq_some_iff.mp hs
      exact .destructured hname hentry (entryKey?_eq_some_iff.mp hkey)
  | none =>
    rw [Sighting.bodyParameters, hnames]
    refine (inOrder_option 0 _).congr fun i s => ?_
    rw [Option.map_eq_some_iff]
    constructor
    · rintro (⟨hname, -, -⟩ | h)
      · rw [bodyNames?_eq_some_iff.mpr ⟨_, _, _, rfl, hname, rfl⟩] at hnames
        cases hnames
      · exact ⟨rfl, _, requestMember?_eq_some_iff.mpr h, rfl⟩
    · rintro ⟨rfl, name, hname, rfl⟩
      exact .read (requestMember?_eq_some_iff.mp hname)

theorem inOrder_showsQuery (node : Tree) :
    InOrder (· < ·) (ShowsQuery node) (Sighting.requestMember? "query" node).toList := by
  refine (inOrder_option 0 _).congr fun i name => ?_
  rw [requestMember?_eq_some_iff]
  constructor
  · rintro ⟨h⟩
    exact ⟨rfl, h⟩
  · rintro ⟨rfl, h⟩
    exact .read h

theorem lookup_responders {name mediaType : String} :
    Sighting.responders.lookup name = some mediaType ↔ Sends name mediaType := by
  constructor
  · intro h
    obtain ⟨rfl, rfl⟩ | ⟨rfl, rfl⟩ : name = "json" ∧ "application/json" = mediaType ∨
        name = "send" ∧ "text/plain" = mediaType := by
      simp only [Sighting.responders, List.lookup_cons, List.lookup_nil] at h
      split at h
      · exact .inl ⟨by simp_all, Option.some.inj h⟩
      · split at h
        · exact .inr ⟨by simp_all, Option.some.inj h⟩
        · cases h
    · exact .json
    · exact .send
  · rintro (_ | _) <;> rfl

theorem response?_eq_some_iff {node : Tree} {response : Response} :
    Sighting.response? node = some response ↔ ShowsResponse node 0 response := by
  constructor
  · intro h
    rw [Sighting.response?.eq_def] at h
    split at h
    · split at h
      · cases h
      · rename_i mediaType hmedia
        rw [lookup_responders] at hmedia
        split at h
        · exact Option.some.inj h ▸ .bare hmedia
        · obtain ⟨code, hcode, rfl⟩ := Option.map_eq_some_iff.mp h
          rw [Sighting.status?.eq_def] at hcode
          split at hcode
          · split_ifs at hcode with hstatus
            rw [Bool.and_eq_true, beq_iff_eq, beq_iff_eq] at hstatus
            obtain ⟨rfl, hstatus⟩ := hstatus
            rw [Sighting.integerLiteral?.eq_def] at hcode
            split at hcode
            · exact .withStatus hmedia hstatus hcode
            · cases hcode
          · cases hcode
    · cases h
  · intro h
    cases h with
    | bare hname => simp [Sighting.response?, lookup_responders.mpr hname]
    | withStatus hname hstatus hcode =>
      simp [Sighting.response?, lookup_responders.mpr hname, Sighting.status?, hstatus,
        Sighting.integerLiteral?, hcode]

theorem inOrder_showsResponse (node : Tree) :
    InOrder (· < ·) (ShowsResponse node) (Sighting.response? node).toList := by
  refine (inOrder_option 0 _).congr fun i response => ?_
  rw [response?_eq_some_iff]
  constructor
  · intro h
    cases h with
    | bare hname => exact ⟨rfl, .bare hname⟩
    | withStatus hname hstatus hcode => exact ⟨rfl, .withStatus hname hstatus hcode⟩
  · rintro ⟨rfl, h⟩
    exact h

/-! ### Handlers -/

/-- The rules for the body: the names that a pattern takes, then the use of a part. -/
def bodyRules : List (Tree → List (String × Bool)) :=
  [fun node => ((Sighting.bodyNames? node).getD []).map fun name => (name, true),
    fun node => ((Sighting.requestMember? "body" node).map fun name => (name, false)).toList]

theorem flatMap_bodyRules (node : Tree) :
    (bodyRules.flatMap fun rule => rule node) = Sighting.bodyParameters node :=
  congrArg (_ ++ ·) (List.append_nil _)

/-- **The first sighting decides.** The body parameters of a handler are what is left of the sequence of
what it shows of the body if only the first entry of each name is kept; the responses are left over in
the same way from what it sends, with one entry for each status, and the query parameters from what it
reads of the query. A walk with one collection finds the same. For a handler that is written in place
this is what the record of its registration says. -/
theorem keepsFirst_sightings (handler : Tree) :
    (∃ seen kept, IsSequence ShowsBody handler seen ∧ KeepsFirst Prod.fst seen kept ∧
      walkFound Prod.fst bodyRules handler = kept ∧
      bodyParameters handler = kept.map fun s => ⟨s.1, "body", s.2, "string", ""⟩) ∧
    (∃ seen, IsSequence ShowsResponse handler seen ∧
      KeepsFirst Response.statusCode seen (sentResponses handler) ∧
      walkFound Response.statusCode [fun node => (Sighting.response? node).toList] handler =
        sentResponses handler) ∧
    (∃ seen kept, IsSequence ShowsQuery handler seen ∧ KeepsFirst id seen kept ∧
      walkFound id [fun node => (Sighting.requestMember? "query" node).toList] handler = kept ∧
      queryParameters handler = kept.map fun name => ⟨name, "query", false, "string", ""⟩) ∧
    ∀ filePath row m path before parts, handler = .function parts →
      ∃ route, routeOf? filePath ⟨row, m, .text path :: (before ++ [handler])⟩ = some route ∧
        route.parameters =
          pathParameters path ++ (queryParameters handler ++ bodyParameters handler) ∧
        route.responses =
          if (sentResponses handler).isEmpty then [Response.success] else sentResponses handler := by
  refine ⟨?_, ?_, ?_, ?_⟩
  · refine ⟨_, _, isSequence_flatMap inOrder_showsBody handler, keepsFirst_firstByKey _ _, ?_, rfl⟩
    simp only [walkFound_eq, flatMap_bodyRules]
  · refine ⟨_, isSequence_flatMap inOrder_showsResponse handler, ?_, ?_⟩
    · rw [sentResponses, List.filterMap_eq_flatMap_toList]
      exact keepsFirst_firstByKey _ _
    · rw [walkFound_eq, sentResponses, List.filterMap_eq_flatMap_toList]
      simp
  · refine ⟨_, _, isSequence_flatMap inOrder_showsQuery handler, keepsFirst_firstByKey _ _, ?_, ?_⟩
    · rw [walkFound_eq]
      simp
    · rw [queryParameters, List.filterMap_eq_flatMap_toList]
  · rintro filePath row m path before parts rfl
    refine ⟨_, rfl, ?_, ?_⟩
    · simp only [List.getLast?_concat, Option.getD_some, handlerParameters]
    · simp only [List.getLast?_concat, Option.getD_some, handlerResponses]
      cases sentResponses (.function parts) <;> rfl

-- A pattern shows all its keys before the node of a default is reached.
example :
    (discoverRoutes
      "app.post('/a',(req,res)=>\x7bconst \x7ba=req.body.x,b:c\x7d=req.body;f(req.body.b,req.body.a)\x7d)"
      "r.js" {}).1.map (fun r => r.parameters.map fun p => (p.name, p.required)) =
      [[("a", true), ("b", true), ("x", false)]] := by
  decide +kernel

end RouteAtlas
