import Mathlib.Data.List.Forall2
import RouteAtlas.Proofs.PathParameters

/-!
# Every registration is found, in order

An **address** says where a node stands in a syntax tree: the numbers of the parts that lead to it
from the root. Addresses are compared like words in a dictionary, so a node comes before everything
below it and before everything to its right; this is the order of a source text. `Enumerates` says
that `Tree.nodes` goes through all addresses of a tree in this order and visits none twice.

So the records of a tree are those of its registrations, one for one and in the order of their
addresses (`routesOf_preorder`). `Registers` says what a registration is, without the tests that
look for one. A loop that keeps the nodes still to be visited on a stack finds the same
(`Tree.visits_eq_flatMap`): what is left to visit are the nodes of the trees on the stack.
-/

namespace RouteAtlas

open Script

namespace Script.Tree

/-! ### Addresses -/

/-- The node at an address. -/
def at? : Tree → List Nat → Option Tree
  | t, [] => some t
  | t, i :: is =>
    match t.parts[i]? with
    | some part => part.at? is
    | none => none

@[simp]
theorem at?_nil (t : Tree) : t.at? [] = some t := rfl

theorem at?_cons {t part : Tree} {i : Nat} (h : t.parts[i]? = some part) (is : List Nat) :
    t.at? (i :: is) = part.at? is := by
  rw [at?, h]

/-- What holds of a tree if it holds of its parts holds of every tree. -/
theorem induction_parts {motive : Tree → Prop}
    (h : ∀ t : Tree, (∀ part ∈ t.parts, motive part) → motive t) (t : Tree) : motive t := by
  -- The nodes of a part are fewer than those of the tree.
  induction hsize : t.nodes.length using Nat.strongRecOn generalizing t with
  | ind size ih =>
    refine h t fun part hpart => ih part.nodes.length ?_ part rfl
    have hsublist : part.nodes.Sublist (t.parts.flatMap nodes) :=
      List.sublist_flatten_of_mem (List.mem_map_of_mem hpart)
    rw [← hsize, nodes_eq t, List.length_cons]
    exact Nat.lt_succ_of_le hsublist.length_le

/-- Addresses that go through all nodes of a tree, in the order of `nodes`. -/
structure Enumerates (t : Tree) (addresses : List (List Nat)) : Prop where
  /-- They are in order, and none is there twice. -/
  sorted : addresses.Pairwise (· < ·)
  /-- They lead to the nodes of the tree. -/
  map_at? : addresses.map t.at? = t.nodes.map some
  /-- Nothing is at any other address. -/
  mem_of_at? : ∀ a, (t.at? a).isSome = true → a ∈ addresses

/-- Addresses that go through all nodes of parts of a tree, those from a number on. -/
structure EnumeratesFrom (t : Tree) (first : Nat) (parts : List Tree)
    (addresses : List (List Nat)) : Prop where
  sorted : addresses.Pairwise (· < ·)
  map_at? : addresses.map t.at? = (parts.flatMap nodes).map some
  mem_of_at? : ∀ i a, first ≤ i → (t.at? (i :: a)).isSome = true → (i :: a) ∈ addresses
  first_le : ∀ a ∈ addresses, ∃ i is, a = i :: is ∧ first ≤ i

theorem exists_enumeratesFrom {t : Tree}
    (h : ∀ part ∈ t.parts, ∃ addresses, Enumerates part addresses) {first : Nat}
    {parts : List Tree} (hparts : t.parts.drop first = parts) :
    ∃ addresses, EnumeratesFrom t first parts addresses := by
  induction parts generalizing first with
  | nil =>
    have hlength : t.parts.length ≤ first := List.drop_eq_nil_iff.mp hparts
    refine ⟨[], List.Pairwise.nil, rfl, fun i a hi ha => ?_, fun a ha => absurd ha List.not_mem_nil⟩
    rw [at?, List.getElem?_eq_none (hlength.trans hi)] at ha
    cases ha
  | cons part parts ih =>
    have hpart : t.parts[first]? = some part := by
      rw [← List.head?_drop, hparts]
      rfl
    have hrest : t.parts.drop (first + 1) = parts := by
      rw [← List.tail_drop, hparts]
      rfl
    obtain ⟨inside, hinside⟩ := h part (List.mem_of_getElem? hpart)
    obtain ⟨later, hlater⟩ := ih hrest
    have hat (a : List Nat) : t.at? (first :: a) = part.at? a := at?_cons hpart a
    -- The addresses inside of this part come first, and those of the later parts begin with more.
    refine ⟨inside.map (first :: ·) ++ later, ?_, ?_, ?_, ?_⟩
    · refine List.pairwise_append.mpr ⟨?_, hlater.sorted, ?_⟩
      · exact List.pairwise_map.mpr (hinside.sorted.imp fun hlt => List.Lex.cons hlt)
      · intro a ha b hb
        obtain ⟨a, -, rfl⟩ := List.mem_map.mp ha
        obtain ⟨i, is, rfl, hi⟩ := hlater.first_le b hb
        exact List.Lex.rel hi
    · rw [List.map_append, List.map_map, hlater.map_at?, List.flatMap_cons, List.map_append,
        ← hinside.map_at?]
      exact congrArg (· ++ _) (List.map_congr_left fun a _ => hat a)
    · intro i a hi ha
      rcases Nat.eq_or_lt_of_le hi with rfl | hlt
      · rw [hat] at ha
        exact List.mem_append_left _ (List.mem_map_of_mem (hinside.mem_of_at? a ha))
      · exact List.mem_append_right _ (hlater.mem_of_at? i a hlt ha)
    · intro a ha
      rcases List.mem_append.mp ha with ha | ha
      · obtain ⟨a, -, rfl⟩ := List.mem_map.mp ha
        exact ⟨first, a, rfl, Nat.le_refl first⟩
      · obtain ⟨i, is, rfl, hi⟩ := hlater.first_le a ha
        exact ⟨i, is, rfl, Nat.le_of_succ_le hi⟩

/-- **The nodes of a tree are listed in the order of their addresses**, each once. -/
theorem exists_enumerates (t : Tree) : ∃ addresses, Enumerates t addresses := by
  induction t using induction_parts with
  | h t ih =>
    obtain ⟨below, hbelow⟩ := exists_enumeratesFrom ih t.parts.drop_zero
    refine ⟨[] :: below, ?_, ?_, ?_⟩
    · refine List.pairwise_cons.mpr ⟨fun a ha => ?_, hbelow.sorted⟩
      obtain ⟨i, is, rfl, -⟩ := hbelow.first_le a ha
      exact List.Lex.nil
    · rw [List.map_cons, hbelow.map_at?, nodes_eq]
      rfl
    · intro a ha
      cases a with
      | nil => exact List.mem_cons_self
      | cons i is => exact List.mem_cons_of_mem _ (hbelow.mem_of_at? i is (Nat.zero_le i) ha)

/-! ### A stack of trees -/

/-- The nodes in the order in which a loop visits them that takes a tree from a stack and puts its
parts in its place. -/
def visits : List Tree → List Tree
  | [] => []
  | t :: stack => t :: visits (t.parts ++ stack)
termination_by stack => (stack.flatMap nodes).length
decreasing_by
  rw [List.flatMap_append, List.flatMap_cons, nodes_eq t, List.cons_append, List.length_cons]
  exact Nat.lt_succ_self _

/-- **The loop visits the nodes of the trees on the stack**, in their order. -/
theorem visits_eq_flatMap (stack : List Tree) : visits stack = stack.flatMap nodes := by
  induction stack using visits.induct with
  | case1 => rw [visits, List.flatMap_nil]
  | case2 t stack ih =>
    rw [visits, ih, List.flatMap_append, List.flatMap_cons, nodes_eq t, List.cons_append]

/-! ### Registrations -/

/-- A node that registers a route: a call of a method on a router or an application, the name of the
method in any case, with a quoted text as its first argument. -/
inductive Registers : Tree → Sighting.Registration → Prop
  | call {row : Nat} {owner path : String} {name : Word} {m : Method} (types rest : List Tree)
      (howner : owner = "router" ∨ owner = "app") (hname : Text.upper name.text = m.name) :
      Registers (.call row (.member (.identifier owner) (some name)) types (.text path :: rest))
        ⟨row, m, .text path :: rest⟩

end Script.Tree

/-- The record of a node, if it registers a route. -/
def recordOf? (filePath : String) (node : Tree) : Option Route :=
  (Sighting.registration? node).bind (routeOf? filePath)

theorem routesOf_eq_filterMap (filePath : String) (tree : Tree) :
    routesOf filePath tree = tree.nodes.filterMap (recordOf? filePath) :=
  List.filterMap_filterMap

/-- The tests for a registration find what is one, and nothing else. -/
theorem recordOf?_eq_some_iff {filePath : String} {node : Tree} {route : Route} :
    recordOf? filePath node = some route ↔
      ∃ r, node.Registers r ∧ routeOf? filePath r = some route := by
  constructor
  · intro h
    obtain ⟨r, hr, hroute⟩ := Option.bind_eq_some_iff.mp h
    refine ⟨r, ?_, hroute⟩
    rw [Sighting.registration?.eq_def] at hr
    split at hr
    · rename_i row owner name types arguments
      split_ifs at hr with howner
      obtain ⟨m, hm, rfl⟩ := Option.map_eq_some_iff.mp hr
      -- A record is made only if the first argument is a text.
      rw [routeOf?] at hroute
      split at hroute
      · rename_i path rest harguments
        obtain rfl : arguments = .text path :: rest := harguments
        have howner : owner = "router" ∨ owner = "app" := by
          simpa [Sighting.registrars] using howner
        exact .call types rest howner (Method.name_of_ofName? hm)
      · cases hroute
    · cases hr
  · rintro ⟨r, ⟨types, rest, howner, hname⟩, hroute⟩
    rename_i row owner path name m
    have hregistrar : Sighting.registrars.contains owner = true := by
      rcases howner with rfl | rfl <;> rfl
    have hmethod : Sighting.methodOfMember? name.text = some m := by
      rw [Sighting.methodOfMember?, hname, Method.ofName?_name]
    rw [recordOf?, Sighting.registration?, if_pos hregistrar, hmethod]
    exact hroute

theorem exists_recordOf? {node : Tree} {r : Sighting.Registration} (h : node.Registers r)
    (filePath : String) : ∃ route, recordOf? filePath node = some route := by
  cases h with
  | call types rest howner hname =>
    exact ⟨_, recordOf?_eq_some_iff.mpr ⟨_, .call types rest howner hname, rfl⟩⟩

/-- Of things in a list, those that have an image, and the images. -/
theorem forall₂_filter_isSome {α β : Type} (f : α → Option β) (as : List α) :
    List.Forall₂ (fun a b => f a = some b) (as.filter fun a => (f a).isSome) (as.filterMap f) := by
  induction as with
  | nil => exact .nil
  | cons a as ih =>
    cases ha : f a with
    | none => simpa [List.filter_cons, List.filterMap_cons, ha] using ih
    | some b => simpa [List.filter_cons, List.filterMap_cons, ha] using ih

/-- **Every registration is found, in order.** The records of a tree correspond one for one to the
addresses of its registrations, in the order of these addresses, and each is the record of the
registration at its address; a loop with a stack finds the same records. They are what is discovered
in any source text with this tree. -/
theorem routesOf_preorder (filePath : String) (tree : Tree) :
    (∃ addresses : List (List Nat), addresses.Pairwise (· < ·) ∧
      (∀ a, a ∈ addresses ↔ ∃ node r, tree.at? a = some node ∧ node.Registers r) ∧
      List.Forall₂ (fun a route => ∃ node r, tree.at? a = some node ∧ node.Registers r ∧
        routeOf? filePath r = some route) addresses (routesOf filePath tree)) ∧
    (Tree.visits [tree]).filterMap (recordOf? filePath) = routesOf filePath tree ∧
    ∀ source console, Script.parse source = .ok tree →
      discoverRoutes source filePath console = (routesOf filePath tree, console) := by
  refine ⟨?_, ?_, ?_⟩
  · obtain ⟨addresses, h⟩ := tree.exists_enumerates
    let record (a : List Nat) : Option Route := (tree.at? a).bind (recordOf? filePath)
    have hroutes : addresses.filterMap record = routesOf filePath tree := by
      have hrecord : record = (Option.bind · (recordOf? filePath)) ∘ tree.at? := rfl
      rw [routesOf_eq_filterMap, hrecord, ← List.filterMap_map, h.map_at?, List.filterMap_map]
      rfl
    have hsome {a : List Nat} {route : Route} : record a = some route ↔
        ∃ node r, tree.at? a = some node ∧ node.Registers r ∧ routeOf? filePath r = some route := by
      simp only [record, Option.bind_eq_some_iff, recordOf?_eq_some_iff, exists_and_left]
    refine ⟨addresses.filter fun a => (record a).isSome, h.sorted.filter _, fun a => ?_, ?_⟩
    · rw [List.mem_filter, Option.isSome_iff_exists]
      constructor
      · rintro ⟨-, route, hroute⟩
        obtain ⟨node, r, hnode, hr, -⟩ := hsome.mp hroute
        exact ⟨node, r, hnode, hr⟩
      · rintro ⟨node, r, hnode, hr⟩
        obtain ⟨route, hroute⟩ := exists_recordOf? hr filePath
        refine ⟨h.mem_of_at? a (by rw [hnode]; rfl), route, ?_⟩
        rw [← hroute]
        exact congrArg (Option.bind · (recordOf? filePath)) hnode
    · rw [← hroutes]
      exact (forall₂_filter_isSome record addresses).imp fun a route => hsome.mp
  · rw [Tree.visits_eq_flatMap, List.flatMap_singleton, routesOf_eq_filterMap]
  · intro source console hparse
    rw [discoverRoutes, extractRoutes, hparse]
    rfl

/-- A source text with a route inside the handler of another one, one behind it, and calls that are
no registrations: the path is no quoted text, the owner or the method is another one. -/
def nestedSource : String :=
  "app.use(f);app.get('/a',(q,s)=>\x7brouter.POST('/b',h);app.get(p,h)\x7d);x.get('/n',h);app.put('/c')"

theorem routesOf_preorder_nested :
    ∃ tree, Script.parse nestedSource = .ok tree ∧
      (discoverRoutes nestedSource "r.js" {}).1.map (fun r => (r.method, r.path)) =
        [("GET", "/a"), ("POST", "/b"), ("PUT", "/c")] ∧
      ∃ addresses : List (List Nat), addresses.length = 3 ∧ addresses.Pairwise (· < ·) ∧
        ∀ a, a ∈ addresses ↔ ∃ node r, tree.at? a = some node ∧ node.Registers r := by
  have hfound : (discoverRoutes nestedSource "r.js" {}).1.map (fun r => (r.method, r.path)) =
      [("GET", "/a"), ("POST", "/b"), ("PUT", "/c")] := by decide +kernel
  obtain ⟨tree, htree⟩ : ∃ tree, Script.parse nestedSource = .ok tree := by
    cases hparse : Script.parse nestedSource with
    | ok tree => exact ⟨tree, rfl⟩
    | error e =>
      rw [discoverRoutes, extractRoutes, hparse] at hfound
      cases hfound
  obtain ⟨⟨addresses, hsorted, hmem, hrecords⟩, -, hdiscover⟩ := routesOf_preorder "r.js" tree
  refine ⟨tree, htree, hfound, addresses, ?_, hsorted, hmem⟩
  have hlength := congrArg List.length hfound
  rw [hdiscover nestedSource {} htree, List.length_map] at hlength
  exact hrecords.length_eq.trans hlength

end RouteAtlas
