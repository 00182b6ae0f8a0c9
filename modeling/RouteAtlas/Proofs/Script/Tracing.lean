import RouteAtlas.Proofs.Script.Spelling
import RouteAtlas.Script.Expressions

/-!
# Readers whose trees stand in the text

Every access of a member of a name that a tree shows was read somewhere: the name, a point and the
name of the member stand in the text in this order, with nothing but blanks and comments between
them (`Access.StandsIn`). `Traces` says of a reader that it stays inside a text and that this holds
of everything it returns.

`Traces` is a class, with an instance for each way to combine readers and for each reader of a
token, so that a production of the grammar traces a text because its parts do. What a reader
returns is passed on together with the evidence about it (`Traced`).
-/

namespace RouteAtlas.Script

-- Resolution follows the text of a reader, which may have many steps.
set_option synthInstance.maxSize 100000

variable {α β : Type} {src : List Char}

/-! ### Accesses in a text -/

/-- A way to write the access of a member of a name: what stands before and behind the point are
blanks and comments, and a question mark may come before it. -/
structure Access where
  /-- The name. -/
  owner : String
  /-- What stands between the name and the point. -/
  before : List Char
  /-- Whether the point follows a question mark. -/
  optional : Bool
  /-- What stands between the point and the member. -/
  behind : List Char
  /-- The member. -/
  name : String
  isTrivia_before : IsTrivia before
  isTrivia_behind : IsTrivia behind

/-- The point of an access. -/
def Access.point (a : Access) : List Char := if a.optional then ['?', '.'] else ['.']

/-- An access as it is written. -/
def Access.text (a : Access) : List Char :=
  a.owner.toList ++ (a.before ++ (a.point ++ (a.behind ++ a.name.toList)))

/-- An access stands in a text, and the name of the member does not go on. -/
def Access.StandsIn (src : List Char) (a : Access) : Prop :=
  ∃ front back, src = front ++ (a.text ++ back) ∧ ∀ x ∈ back.head?, isWordPart x = false

namespace Tree

/-- Every access of a member of a name that a tree shows stands in a text. -/
def StandsIn (src : List Char) (t : Tree) : Prop :=
  ∀ owner name, .member (.identifier owner) (some name) ∈ t.nodes →
    ∃ a : Access, a.owner = owner ∧ a.name = name.text ∧ a.StandsIn src

/-- The name that a tree is, if it is nothing else. -/
def name? : Tree → Option String
  | .identifier name => some name
  | _ => none

theorem standsIn_iff {t : Tree} : t.StandsIn src ↔
    (∀ owner name, t = .member (.identifier owner) (some name) →
      ∃ a : Access, a.owner = owner ∧ a.name = name.text ∧ a.StandsIn src) ∧
    ∀ part ∈ t.parts, part.StandsIn src := by
  constructor
  · intro h
    refine ⟨fun owner name ht => h owner name ?_, fun part hpart owner name hmem => h owner name ?_⟩
    · rw [nodes_eq, ht]
      exact List.mem_cons_self
    · rw [nodes_eq]
      exact List.mem_cons_of_mem _ (List.mem_flatMap_of_mem hpart hmem)
  · rintro ⟨hself, hparts⟩ owner name hmem
    rw [nodes_eq, List.mem_cons, List.mem_flatMap] at hmem
    rcases hmem with hmem | ⟨part, hpart, hmem⟩
    · exact hself owner name hmem.symm
    · exact hparts part hpart owner name hmem

end Tree

/-! ### Values with evidence -/

/-- Values that can be compared with the text that they are read from. -/
class Traceable (α : Type) where
  /-- What a value shows stands in a text. -/
  standsIn : List Char → α → Prop

/-- What a value shows stands in a text. -/
class StandsIn [Traceable α] (src : List Char) (a : α) : Prop where
  out : Traceable.standsIn src a

/-- Values of which it is known that what they show stands in a text. -/
abbrev Traced (src : List Char) (α : Type) [Traceable α] := {a : α // StandsIn src a}

instance [Traceable α] (a : Traced src α) : StandsIn src a.1 := a.2

instance : Traceable Tree := ⟨Tree.StandsIn⟩
instance : Traceable Unit := ⟨fun _ _ => True⟩
instance : Traceable Bool := ⟨fun _ _ => True⟩
instance : Traceable Char := ⟨fun _ _ => True⟩
instance : Traceable String := ⟨fun _ _ => True⟩
instance : Traceable Word := ⟨fun _ _ => True⟩
instance : Traceable Cursor := ⟨fun src c => c.rest <:+ src⟩
instance : Traceable MemberName := ⟨fun src m => m.tree.StandsIn src⟩
instance : Traceable Operand := ⟨fun src t => t.tree.StandsIn src⟩
instance [Traceable α] : Traceable (List α) := ⟨fun src as => ∀ a ∈ as, StandsIn src a⟩
instance [Traceable α] : Traceable (Option α) := ⟨fun src o => ∀ a ∈ o, StandsIn src a⟩
instance : Traceable FunctionParts := ⟨fun src f => StandsIn src f.parts⟩

instance (a : Unit) : StandsIn src a := ⟨trivial⟩
instance (a : Bool) : StandsIn src a := ⟨trivial⟩
instance (a : Char) : StandsIn src a := ⟨trivial⟩
instance (a : String) : StandsIn src a := ⟨trivial⟩
instance (a : Word) : StandsIn src a := ⟨trivial⟩

section Collections

variable [Traceable α]

instance : StandsIn src ([] : List α) := ⟨fun _ h => by cases h⟩

instance {a : α} {as : List α} [ha : StandsIn src a] [has : StandsIn src as] :
    StandsIn src (a :: as) :=
  ⟨List.forall_mem_cons.mpr ⟨ha, has.out⟩⟩

instance {as bs : List α} [has : StandsIn src as] [hbs : StandsIn src bs] :
    StandsIn src (as ++ bs) :=
  ⟨List.forall_mem_append.mpr ⟨has.out, hbs.out⟩⟩

instance : StandsIn src (none : Option α) := ⟨fun _ h => by cases h⟩

instance {a : α} [ha : StandsIn src a] : StandsIn src (some a) :=
  ⟨fun b hb => by cases hb; exact ha⟩

instance {o : Option α} [ho : StandsIn src o] : StandsIn src o.toList :=
  ⟨fun a ha => ho.out a (Option.mem_toList.mp ha)⟩

instance {o : Option (List α)} [ho : StandsIn src o] : StandsIn src (o.getD []) := by
  cases o with
  | none => exact inferInstanceAs (StandsIn src [])
  | some as => exact ho.out as rfl

end Collections

/-! ### Trees -/

/-- A tree that is not the access of a member of a name stands where its parts do. -/
theorem standsIn_of_parts {t : Tree} (hself : ∀ owner name, t ≠ .member (.identifier owner) name)
    (hparts : StandsIn src t.parts) : StandsIn src t :=
  ⟨Tree.standsIn_iff.mpr ⟨fun owner name ht => absurd ht (hself owner name),
    fun part hpart => (hparts.out part hpart).out⟩⟩

section Trees

variable {t u : Tree} {ts us : List Tree} {o : Option Tree}
variable [StandsIn src t] [StandsIn src u] [StandsIn src ts] [StandsIn src us] [StandsIn src o]

instance (name : String) : StandsIn src (Tree.identifier name) :=
  standsIn_of_parts (by simp) (inferInstanceAs (StandsIn src []))
instance (content : String) : StandsIn src (Tree.text content) :=
  standsIn_of_parts (by simp) (inferInstanceAs (StandsIn src []))
instance (digits : String) : StandsIn src (Tree.number digits) :=
  standsIn_of_parts (by simp) (inferInstanceAs (StandsIn src []))
instance : StandsIn src Tree.truth :=
  standsIn_of_parts (by simp) (inferInstanceAs (StandsIn src []))
instance (name : Word) : StandsIn src (Tree.shorthand name) :=
  standsIn_of_parts (by simp) (inferInstanceAs (StandsIn src []))
instance : StandsIn src (Tree.array ts) :=
  standsIn_of_parts (by simp) (inferInstanceAs (StandsIn src ts))
instance : StandsIn src (Tree.object ts) :=
  standsIn_of_parts (by simp) (inferInstanceAs (StandsIn src ts))
instance : StandsIn src (Tree.function ts) :=
  standsIn_of_parts (by simp) (inferInstanceAs (StandsIn src ts))
instance : StandsIn src (Tree.pattern ts) :=
  standsIn_of_parts (by simp) (inferInstanceAs (StandsIn src ts))
instance : StandsIn src (Tree.other ts) :=
  standsIn_of_parts (by simp) (inferInstanceAs (StandsIn src ts))
instance (name : Option Word) : StandsIn src (Tree.pair name t u) :=
  standsIn_of_parts (by simp) (inferInstanceAs (StandsIn src [t, u]))
instance : StandsIn src (Tree.defaulted t u) :=
  standsIn_of_parts (by simp) (inferInstanceAs (StandsIn src [t, u]))
instance (row : Nat) : StandsIn src (Tree.call row t ts us) :=
  standsIn_of_parts (by simp) (inferInstanceAs (StandsIn src (t :: (ts ++ us))))
instance : StandsIn src (Tree.declarator t ts o) :=
  standsIn_of_parts (by simp) (inferInstanceAs (StandsIn src (t :: (ts ++ o.toList))))

instance : StandsIn src (withDefault t o) := by
  cases o with
  | none => exact inferInstanceAs (StandsIn src t)
  | some value =>
    have : StandsIn src value := (‹StandsIn src (some value)›).out value rfl
    exact inferInstanceAs (StandsIn src (Tree.defaulted t value))

end Trees

/-! ### Parts of operands and members -/

section Parts

variable {t : Tree} {ts : List Tree} [ht : StandsIn src t] [hts : StandsIn src ts]

instance (word : Option Word) : StandsIn src (MemberName.mk word t) := ⟨ht.out⟩
instance (assignable : Bool) : StandsIn src (Operand.mk t assignable) := ⟨ht.out⟩
instance (generator : Bool) : StandsIn src (FunctionParts.mk generator ts) := ⟨hts⟩
instance {name : MemberName} [h : StandsIn src name] : StandsIn src name.tree := ⟨h.out⟩
instance {t : Operand} [h : StandsIn src t] : StandsIn src t.tree := ⟨h.out⟩

instance {f : FunctionParts} [h : StandsIn src f] : StandsIn src f.tree := by
  have : StandsIn src f.parts := h.out
  rw [FunctionParts.tree]
  split <;> infer_instance

end Parts

namespace Reader

/-! ### Readers that trace a text -/

/-- A reader that stays inside a text, and returns what stands in it. -/
class Traces [Traceable α] (src : List Char) (p : Reader α) : Prop where
  out : ∀ {c c' a}, c.rest <:+ src → p c = .done a c' → c'.rest <:+ src ∧ StandsIn src a

section Combinators

variable [Traceable α] [Traceable β]

instance {a : α} [ha : StandsIn src a] : Traces src (pure a) where
  out hc h := by
    obtain ⟨rfl, rfl⟩ := pure_eq_done_iff.mp h
    exact ⟨hc, ha⟩

instance : Traces src (fail : Reader α) where
  out _ h := absurd h fail_ne_done

theorem Traces.bind {p : Reader α} {f : α → Reader β} (hp : Traces src p)
    (hf : ∀ a : Traced src α, Traces src (f a.1)) : Traces src (p >>= f) where
  out hc h := by
    obtain ⟨a, c₁, hread, h⟩ := bind_eq_done_iff.mp h
    obtain ⟨hc₁, ha⟩ := hp.out hc hread
    exact (hf ⟨a, ha⟩).out hc₁ h

/-- What follows a part that may be absent is looked at with the part and without it. -/
theorem Traces.bind_option {p : Reader (Option α)} {f : Option α → Reader β} (hp : Traces src p)
    (hsome : ∀ a : Traced src α, Traces src (f (some a.1))) (hnone : Traces src (f none)) :
    Traces src (p >>= f) where
  out hc h := by
    obtain ⟨found, c₁, hread, h⟩ := bind_eq_done_iff.mp h
    obtain ⟨hc₁, hfound⟩ := hp.out hc hread
    cases found with
    | none => exact hnone.out hc₁ h
    | some a => exact (hsome ⟨a, hfound.out a rfl⟩).out hc₁ h

instance (priority := low) {p : Reader α} {f : α → Reader β} [hp : Traces src p]
    [hf : ∀ a : Traced src α, Traces src (f a.1)] : Traces src (p >>= f) := hp.bind hf

instance {p : Reader (Option α)} {f : Option α → Reader β} [hp : Traces src p]
    [hsome : ∀ a : Traced src α, Traces src (f (some a.1))] [hnone : Traces src (f none)] :
    Traces src (p >>= f) := hp.bind_option hsome hnone

/-- What has just been returned is known. -/
instance {a : α} {f : α → Reader β} [hf : Traces src (f a)] : Traces src (pure a >>= f) := hf

instance {b : Prop} [Decidable b] {p q : Reader α} [hp : Traces src p] [hq : Traces src q] :
    Traces src (if b then p else q) := by
  split
  · exact hp
  · exact hq

instance {b : Prop} [Decidable b] {p : b → Reader α} {q : ¬b → Reader α}
    [hp : ∀ h, Traces src (p h)] [hq : ∀ h, Traces src (q h)] : Traces src (dite b p q) := by
  split
  · exact hp _
  · exact hq _

instance {p : Reader α} {q : Unit → Reader α} [hp : Traces src p] [hq : Traces src (q ())] :
    Traces src (HOrElse.hOrElse p q) where
  out {c _ _} hc h := by
    change orElse p q c = _ at h
    rw [orElse] at h
    split at h
    · rename_i hread
      cases h
      exact hp.out hc hread
    · rename_i place _
      exact hq.out (c := { c with furthest := place }) hc h

instance {p : Reader α} [hp : Traces src p] : Traces src (attempt p) where
  out hc h := by
    rcases attempt_eq_done h with ⟨a, rfl, hread⟩ | ⟨rfl, hrest⟩
    · obtain ⟨hc', ha⟩ := hp.out hc hread
      exact ⟨hc', inferInstance⟩
    · exact ⟨hrest ▸ hc, inferInstance⟩

instance traces_manyUpTo {p : Reader α} [hp : Traces src p] {n : Nat} :
    Traces src (manyUpTo p n) := by
  induction n with
  | zero => exact inferInstanceAs (Traces src (pure []))
  | succ n ih =>
    rw [manyUpTo]
    infer_instance

instance {p : Reader α} [hp : Traces src p] : Traces src (many p) where
  out hc h := traces_manyUpTo.out hc h

instance : Traces src here where
  out hc h := by
    obtain ⟨rfl, rfl⟩ := here_eq_done_iff.mp h
    exact ⟨hc, ⟨hc⟩⟩

instance {c : Cursor} [hc : StandsIn src c] : Traces src (back c) where
  out _ h := by
    cases h
    exact ⟨hc.out, inferInstance⟩

instance : Traces src ahead where
  out hc h := by
    obtain ⟨rfl, rfl⟩ := ahead_eq_done_iff.mp h
    exact ⟨hc, ⟨fun _ _ => inferInstance⟩⟩

instance (b : Bool) : Traces src (guard b) where
  out hc h := by
    obtain ⟨-, rfl⟩ := guard_eq_done_iff.mp h
    exact ⟨hc, inferInstance⟩

instance (n : Nat) : Traces src (pass n) where
  out {c _ _} hc h := by
    obtain rfl := pass_eq_done_iff.mp h
    obtain ⟨gap, -, hgap⟩ := c.exists_isTrivia_pass n
    exact ⟨List.IsSuffix.trans ⟨gap, hgap.symm⟩ ((List.drop_suffix n c.rest).trans hc),
      inferInstance⟩

instance (n : Nat) : Traces src (advance n) where
  out {c _ _} hc h := by
    cases h
    rw [Cursor.rest_advance]
    exact ⟨(List.drop_suffix n c.rest).trans hc, inferInstance⟩

instance : Traces src skipTrivia where
  out {c _ _} hc h := by
    cases h
    obtain ⟨gap, -, hgap⟩ :=
      Cursor.exists_isTrivia_skipTrivia c.remaining { c with freshLine := false }
    exact ⟨List.IsSuffix.trans ⟨gap, hgap.symm⟩ hc, inferInstance⟩

end Combinators

/-! ### Tokens -/

/-- What is read where the characters ahead have been looked at. -/
theorem traces_ahead_bind [Traceable α] {f : List Char → Reader α}
    (h : ∀ cs, Traces src (f cs)) : Traces src (ahead >>= f) :=
  have (cs : Traced src (List Char)) : Traces src (f cs.1) := h cs.1
  inferInstance

instance : Traces src word := by unfold word; infer_instance
instance : Traces src nextWord := by unfold nextWord; infer_instance
instance (name : String) : Traces src (keyword name) := by unfold keyword; infer_instance
instance (name : String) : Traces src (optionalKeyword name) := by
  unfold optionalKeyword; infer_instance
instance : Traces src nextOperator := by unfold nextOperator; infer_instance
instance (op : String) : Traces src (operator op) := by unfold operator; infer_instance
instance (op : String) : Traces src (optionalOperator op) := by
  unfold optionalOperator; infer_instance

instance (x : Char) : Traces src (mark x) := by
  unfold mark
  refine traces_ahead_bind fun cs => ?_
  split <;> infer_instance

instance (x : Char) : Traces src (atMark x) := by
  unfold atMark
  refine traces_ahead_bind fun cs => ?_
  split <;> infer_instance

instance (x : Char) : Traces src (optionalMark x) := by unfold optionalMark; infer_instance

instance : Traces src quoted := by
  unfold quoted
  refine traces_ahead_bind fun cs => ?_
  repeat' split
  all_goals infer_instance

instance : Traces src number := by unfold number; infer_instance

instance : Traces src regularExpression := by
  unfold regularExpression
  refine traces_ahead_bind fun cs => ?_
  repeat' split
  all_goals infer_instance

instance (inExpression : Bool) : Traces src (statementEnd inExpression) := by
  unfold statementEnd
  infer_instance

end Reader

open Reader

/-- A grammar that traces a text: the reader of each of its goals does. -/
class Grammar.Traces (src : List Char) (g : Grammar) : Prop where
  goal : ∀ goal, Reader.Traces src (g goal)

instance {g : Grammar} [hg : g.Traces src] (goal : Goal) : Reader.Traces src (g goal) :=
  hg.goal goal

section Lists

variable {item : Reader Tree} [Traces src item]

instance {closing : Char} {n : Nat} : Traces src (looseItemsUpTo item closing n) := by
  induction n with
  | zero => unfold looseItemsUpTo; infer_instance
  | succ n ih => unfold looseItemsUpTo; infer_instance

instance {closing : Char} : Traces src (looseItems item closing) := by
  unfold looseItems
  infer_instance

instance {closing : Char} {n : Nat} : Traces src (itemsUpTo item closing n) := by
  induction n with
  | zero => unfold itemsUpTo; infer_instance
  | succ n ih => unfold itemsUpTo; infer_instance

instance {closing : Char} : Traces src (items item closing) := by
  unfold items
  infer_instance

instance : Traces src (moreItems item) := by unfold moreItems; infer_instance
instance : Traces src (commaItems item) := by unfold commaItems; infer_instance

end Lists

section Bracketed

variable {g : Grammar} [g.Traces src]

instance {mode : Mode} : Traces src (expressions g mode) := by unfold expressions; infer_instance
instance : Traces src (spreadable g) := by unfold spreadable; infer_instance
instance : Traces src (arguments g) := by unfold arguments; infer_instance
instance : Traces src (block g) := by unfold block; infer_instance

instance {hole : Reader Tree} [Traces src hole] {n : Nat} : Traces src (templateRest hole n) := by
  induction n with
  | zero => unfold templateRest; infer_instance
  | succ n ih =>
    unfold templateRest
    refine traces_ahead_bind fun cs => ?_
    split <;> infer_instance

instance {hole : Reader Tree} [Traces src hole] : Traces src (template hole) := by
  unfold template; infer_instance

instance : Traces src (memberName g) := by
  unfold memberName
  refine traces_ahead_bind fun cs => ?_
  repeat' split
  all_goals infer_instance

end Bracketed

end RouteAtlas.Script
