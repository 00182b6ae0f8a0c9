import RouteAtlas.Proofs.Script.Tracing

/-!
# Names right before a place

An access is read in two steps: the name first, then the point and the member. That the two stand
next to each other in the text is known if the place behind the name is one: a reader that `Abuts`
stands, when it returns a name, right behind that name. Most readers never return a mere name
(`AvoidsNames`), so only those that do are looked at more closely.
-/

namespace RouteAtlas.Script

set_option synthInstance.maxSize 100000

variable {α β : Type} {src : List Char}

/-! ### Values that are names -/

/-- Values that may be nothing but a name. -/
class Named (α : Type) where
  /-- The name that a value is. -/
  name? : α → Option String

instance : Named Tree := ⟨Tree.name?⟩
instance : Named Operand := ⟨fun t => t.tree.name?⟩
instance : Named MemberName := ⟨fun m => m.word.map Word.text⟩

/-- A value that is not a mere name. -/
class Nameless [Named α] (a : α) : Prop where
  out : Named.name? a = none

instance {ts : List Tree} : Nameless (Tree.array ts) := ⟨rfl⟩
instance {ts : List Tree} : Nameless (Tree.object ts) := ⟨rfl⟩
instance {ts : List Tree} : Nameless (Tree.function ts) := ⟨rfl⟩
instance {ts : List Tree} : Nameless (Tree.pattern ts) := ⟨rfl⟩
instance {ts : List Tree} : Nameless (Tree.other ts) := ⟨rfl⟩
instance {content : String} : Nameless (Tree.text content) := ⟨rfl⟩
instance {digits : String} : Nameless (Tree.number digits) := ⟨rfl⟩
instance : Nameless Tree.truth := ⟨rfl⟩
instance {owner : Tree} {name : Option Word} : Nameless (Tree.member owner name) := ⟨rfl⟩
instance {row : Nat} {t : Tree} {ts us : List Tree} : Nameless (Tree.call row t ts us) := ⟨rfl⟩

instance {t : Tree} {assignable : Bool} [ht : Nameless t] : Nameless (Operand.mk t assignable) :=
  ⟨ht.out⟩

instance {t : Tree} : Nameless (MemberName.mk none t) := ⟨rfl⟩

instance {f : FunctionParts} : Nameless f.tree := by
  rw [FunctionParts.tree]
  split <;> infer_instance

instance [Named α] (a : {a : α // Nameless a}) : Nameless a.1 := a.2

/-- The access of a member of anything but a name stands where its owner does. -/
instance {owner : Tree} {name : Option Word} [Nameless owner] [StandsIn src owner] :
    StandsIn src (Tree.member owner name) := by
  have howner : ∀ o, owner ≠ .identifier o := fun o h => by
    have hnone : owner.name? = none := Nameless.out (a := owner)
    rw [h] at hnone
    cases hnone
  exact standsIn_of_parts (by simp [howner]) (inferInstanceAs (StandsIn src [owner]))

namespace Reader

/-! ### Readers that return no names -/

/-- A reader that never returns a mere name. -/
class AvoidsNames [Named α] (p : Reader α) : Prop where
  out : ∀ {c c' a}, p c = .done a c' → Nameless a

theorem AvoidsNames.nameless [Named α] {p : Reader α} (hp : AvoidsNames p) {c c' : Cursor} {a : α}
    (h : p c = .done a c') : Nameless a := hp.out h

section AvoidsNames

variable [Named β]

instance {b : β} [hb : Nameless b] : AvoidsNames (pure b) where
  out h := (pure_eq_done_iff.mp h).1 ▸ hb

instance : AvoidsNames (fail : Reader β) where
  out h := absurd h fail_ne_done

theorem AvoidsNames.bind {p : Reader α} {f : α → Reader β} (hf : ∀ a, AvoidsNames (f a)) :
    AvoidsNames (p >>= f) where
  out h :=
    have ⟨a, _, _, h⟩ := bind_eq_done_iff.mp h
    (hf a).out h

instance (priority := low) {p : Reader α} {f : α → Reader β} [hf : ∀ a, AvoidsNames (f a)] :
    AvoidsNames (p >>= f) := .bind hf

instance [Named α] {p : Reader α} {f : α → Reader β} [hp : AvoidsNames p]
    [hf : ∀ a : {a : α // Nameless a}, AvoidsNames (f a.1)] : AvoidsNames (p >>= f) where
  out h :=
    have ⟨a, _, hread, h⟩ := bind_eq_done_iff.mp h
    (hf ⟨a, hp.out hread⟩).out h

instance [Named α] {p : Reader α} {f : Option α → Reader β} [hp : AvoidsNames p]
    [hsome : ∀ a : {a : α // Nameless a}, AvoidsNames (f (some a.1))]
    [hnone : AvoidsNames (f none)] : AvoidsNames (attempt p >>= f) where
  out h := by
    obtain ⟨found, _, hread, h⟩ := bind_eq_done_iff.mp h
    rcases attempt_eq_done hread with ⟨a, rfl, hpart⟩ | ⟨rfl, -⟩
    · exact (hsome ⟨a, hp.out hpart⟩).out h
    · exact hnone.out h

instance (priority := low) {p : Reader α} {f : Option α → Reader β}
    [hsome : ∀ a, AvoidsNames (f (some a))] [hnone : AvoidsNames (f none)] :
    AvoidsNames (attempt p >>= f) where
  out h := by
    obtain ⟨found, _, hread, h⟩ := bind_eq_done_iff.mp h
    cases found with
    | none => exact hnone.out h
    | some a => exact (hsome a).out h

instance {b : Prop} [Decidable b] {p q : Reader β} [hp : AvoidsNames p] [hq : AvoidsNames q] :
    AvoidsNames (if b then p else q) := by
  split
  · exact hp
  · exact hq

end AvoidsNames

/-! ### Readers that stand behind names -/

end Reader

/-- A name stands right before a place: only blanks and comments are in between. -/
def Cursor.Behind (src : List Char) (name : String) (c : Cursor) : Prop :=
  ∃ front gap, IsTrivia gap ∧ src = front ++ (name.toList ++ (gap ++ c.rest))

/-- If a value is a mere name, the name stands right before a place. -/
def Cursor.Follows [Named α] (src : List Char) (a : α) (c : Cursor) : Prop :=
  ∀ name, Named.name? a = some name → c.Behind src name

theorem Cursor.Spells.behind {c c' : Cursor} {name : String} (h : c.Spells name.toList c')
    (hc : c.rest <:+ src) : c'.Behind src name := by
  obtain ⟨gap, hgap, hrest⟩ := h
  obtain ⟨front, hfront⟩ := hc
  exact ⟨front, gap, hgap, by rw [← hfront, hrest]⟩

theorem Cursor.Behind.congr {c c' : Cursor} {name : String} (h : c.Behind src name)
    (hrest : c'.rest = c.rest) : c'.Behind src name := by
  rw [Behind, hrest]
  exact h

theorem Cursor.follows_of_nameless [Named α] {a : α} (ha : Nameless a) (c : Cursor) :
    c.Follows src a := fun name h => by
  rw [ha.out] at h
  cases h

theorem Cursor.Behind.follows [Named α] {c : Cursor} {name : String} {a : α}
    (h : c.Behind src name) (ha : Named.name? a = some name) : c.Follows src a := fun name' hname => by
  cases ha.symm.trans hname
  exact h

namespace Reader

/-- A reader that stands, when it returns a name, right behind it. -/
class Abuts [Named α] (src : List Char) (p : Reader α) : Prop where
  out : ∀ {c c' a}, c.rest <:+ src → p c = .done a c' → c'.Follows src a

section Abuts

variable [Named β]

theorem AvoidsNames.follows {p : Reader β} [hp : AvoidsNames p] {c c' : Cursor} {b : β}
    (h : p c = .done b c') : c'.Follows src b :=
  Cursor.follows_of_nameless (hp.out h) c'

instance (priority := low) {p : Reader β} [hp : AvoidsNames p] : Abuts src p where
  out _ h := hp.follows h

instance {p : Reader α} {f : α → Reader β} [Traceable α] [hp : Traces src p]
    [hf : ∀ a : Traced src α, Abuts src (f a.1)] : Abuts src (p >>= f) where
  out hc h :=
    have ⟨a, _, hread, h⟩ := bind_eq_done_iff.mp h
    have ⟨hc₁, ha⟩ := hp.out hc hread
    (hf ⟨a, ha⟩).out hc₁ h

instance {b : Prop} [Decidable b] {p q : Reader β} [hp : Abuts src p] [hq : Abuts src q] :
    Abuts src (if b then p else q) := by
  split
  · exact hp
  · exact hq

end Abuts

end Reader

open Reader

/-! ### Accesses of members -/

/-- A reader that traces a text from one place on. -/
structure Reader.TracesFrom [Traceable α] (src : List Char) (c : Cursor) (p : Reader α) :
    Prop where
  out : ∀ {c' a}, p c = .done a c' → c'.rest <:+ src ∧ StandsIn src a

theorem Reader.TracesFrom.bind [Traceable α] [Traceable β] {c : Cursor} {p : Reader α}
    {f : α → Reader β} (hp : p.TracesFrom src c) (hf : ∀ a : Traced src α, Traces src (f a.1)) :
    (p >>= f).TracesFrom src c where
  out h :=
    have ⟨a, _, hread, h⟩ := bind_eq_done_iff.mp h
    have ⟨hc₁, ha⟩ := hp.out hread
    (hf ⟨a, ha⟩).out hc₁ h

theorem Reader.Traces.from [Traceable α] {p : Reader α} (hp : Traces src p) {c : Cursor}
    (hc : c.rest <:+ src) : p.TracesFrom src c := ⟨hp.out hc⟩

theorem tracesFrom_here_bind [Traceable β] {f : Cursor → Reader β} {c : Cursor}
    (h : (f c).TracesFrom src c) : (here >>= f).TracesFrom src c where
  out h' := by
    obtain ⟨c₁, c₂, hhere, hread⟩ := bind_eq_done_iff.mp h'
    obtain ⟨rfl, rfl⟩ := here_eq_done_iff.mp hhere
    exact h.out hread

theorem tracesFrom_ahead_bind [Traceable β] {f : List Char → Reader β} {c : Cursor}
    (h : (f c.rest).TracesFrom src c) : (ahead >>= f).TracesFrom src c where
  out h' := by
    obtain ⟨cs, c₂, hahead, hread⟩ := bind_eq_done_iff.mp h'
    obtain ⟨rfl, rfl⟩ := ahead_eq_done_iff.mp hahead
    exact h.out hread

theorem tracesFrom_pass_bind [Traceable β] {f : Unit → Reader β} {c : Cursor} (text : List Char)
    (htext : text <+: c.rest) (h : ∀ c₁, c.Spells text c₁ → (f ()).TracesFrom src c₁) :
    (pass text.length >>= f).TracesFrom src c where
  out h' := by
    obtain ⟨_, c₁, hpass, hread⟩ := bind_eq_done_iff.mp h'
    obtain rfl := pass_eq_done_iff.mp hpass
    exact (h _ (Cursor.spells_pass htext)).out hread

/-- What follows a mark that may be absent goes on from the same place if it is. -/
theorem tracesFrom_optionalMark_bind [Traceable β] {x : Char} {p q : Reader β} {c : Cursor}
    (hc : c.rest <:+ src) (hp : Traces src p) (hq : q.TracesFrom src c) :
    (optionalMark x >>= fun found => if found then p else q).TracesFrom src c where
  out h' := by
    obtain ⟨found, c₁, hmark, hread⟩ := bind_eq_done_iff.mp h'
    split at hread
    · exact hp.out (Traces.out hc hmark).1 hread
    · rename_i hfound
      obtain rfl := eq_of_optionalMark_eq_done (Bool.eq_false_iff.mpr hfound) hmark
      exact hq.out hread

/-- What is read behind a name. -/
theorem Reader.Traces.bind_of_abuts [Named α] [Traceable α] [Traceable β] {p : Reader α}
    {f : α → Reader β} [hp : Traces src p] [hname : Abuts src p]
    (h : ∀ (a : Traced src α) c, c.rest <:+ src → c.Follows src a.1 → (f a.1).TracesFrom src c) :
    Traces src (p >>= f) where
  out hc h' := by
    obtain ⟨a, c₁, hfirst, hread⟩ := bind_eq_done_iff.mp h'
    obtain ⟨hc₁, ha⟩ := hp.out hc hfirst
    exact (h ⟨a, ha⟩ c₁ hc₁ (hname.out hc hfirst)).out hread

/-- Behind a name and a point, the access of a member stands in the text. -/
theorem standsIn_member (optional : Bool) {owner : Tree} {name : Option Word} {c c₁ : Cursor}
    (howner : c.Follows src owner) [hstands : StandsIn src owner]
    (hpoint : c.Spells (if optional then ['?', '.'] else ['.']) c₁)
    (hname : ∀ w, name = some w → ∃ back, c₁.rest = w.text.toList ++ back ∧
      ∀ x ∈ back.head?, isWordPart x = false) :
    StandsIn src (Tree.member owner name) := by
  refine ⟨Tree.standsIn_iff.mpr ⟨fun o w ht => ?_, fun part hpart => ?_⟩⟩
  · obtain ⟨rfl, rfl⟩ := Tree.member.inj ht
    obtain ⟨front, before, hbefore, hsrc⟩ := howner o rfl
    obtain ⟨behind, hbehind, hrest⟩ := hpoint
    obtain ⟨back, hback, hend⟩ := hname w rfl
    refine ⟨⟨o, before, optional, behind, w.text, hbefore, hbehind⟩, rfl, rfl, front, back, ?_,
      hend⟩
    rw [hsrc, hrest, hback]
    simp [Access.text, Access.point]
  · obtain rfl := List.mem_singleton.mp hpart
    exact hstands.out

/-- The names of members that are plain words stand where they are read. -/
theorem memberName_word {g : Grammar} {c c' : Cursor} {name : MemberName}
    (h : memberName g c = .done name c') {w : Word} (hw : name.word = some w) :
    ∃ back, c.rest = w.text.toList ++ back ∧ ∀ x ∈ back.head?, isWordPart x = false := by
  rw [memberName] at h
  obtain ⟨cs, c₁, hahead, hread⟩ := bind_eq_done_iff.mp h
  obtain ⟨rfl, rfl⟩ := ahead_eq_done_iff.mp hahead
  split at hread
  · obtain ⟨w', c₁, hword, hread⟩ := bind_eq_done_iff.mp hread
    obtain ⟨rfl, -⟩ := pure_eq_done_iff.mp hread
    cases hw
    exact (word_spells hword).2
  · -- All other names are not plain words.
    have hother : Nameless name := by
      refine AvoidsNames.nameless ?_ hread
      split
      · infer_instance
      split
      · infer_instance
      split <;> infer_instance
    have hnone : name.word.map Word.text = none := hother.out
    rw [hw] at hnone
    cases hnone

/-- The member behind a name and a point, and what is read behind it. -/
theorem tracesFrom_memberName_bind [Traceable β] {g : Grammar} [g.Traces src]
    {f : MemberName → Reader β} {owner : Tree} {c c₁ : Cursor} (optional : Bool)
    (hc : c.rest <:+ src) (howner : c.Follows src owner) [StandsIn src owner]
    (hpoint : c.Spells (if optional then ['?', '.'] else ['.']) c₁)
    (h : ∀ name : MemberName, StandsIn src (Tree.member owner name.word) → Traces src (f name)) :
    (memberName g >>= f).TracesFrom src c₁ where
  out h' := by
    obtain ⟨name, c₂, hname, hread⟩ := bind_eq_done_iff.mp h'
    have hc₂ := (Traces.out (hpoint.rest_isSuffix.trans hc) hname).1
    exact (h name (standsIn_member optional howner hpoint fun w hw => memberName_word hname hw)).out hc₂
      hread

instance {base : Tree} [StandsIn src base] [Nameless base] {n : Nat} :
    Traces src (dottedRest base n) := by
  induction n generalizing base with
  | zero => unfold dottedRest; infer_instance
  | succ n ih => unfold dottedRest; infer_instance

/-- Points and words that begin right behind a name. -/
theorem tracesFrom_dottedRest {base : Tree} [StandsIn src base] {c : Cursor}
    (hc : c.rest <:+ src) (hbase : c.Follows src base) {n : Nat} :
    (dottedRest base n).TracesFrom src c := by
  cases n with
  | zero =>
    unfold dottedRest
    exact Traces.from inferInstance hc
  | succ n =>
    refine ⟨fun {c' t} h => ?_⟩
    rw [dottedRest] at h
    obtain ⟨found, c₁, hpoint, hread⟩ := bind_eq_done_iff.mp h
    rcases optionalOperator_eq_done hpoint with ⟨rfl, hspells⟩ | ⟨rfl, rfl⟩
    · obtain ⟨w, c₂, hword, hrest⟩ := bind_eq_done_iff.mp hread
      obtain ⟨hspells', hname⟩ := word_spells hword
      have : StandsIn src (Tree.member base (some w)) :=
        standsIn_member false hbase hspells fun _ hw => by cases hw; exact hname
      have hc₂ := hspells'.rest_isSuffix.trans (hspells.rest_isSuffix.trans hc)
      exact Traces.out hc₂ hrest
    · obtain ⟨rfl, rfl⟩ := pure_eq_done_iff.mp hread
      exact ⟨hc, inferInstance⟩

theorem traces_word_bind [Traceable β] {f : Word → Reader β}
    (h : ∀ w c, c.rest <:+ src → c.Behind src w.text → (f w).TracesFrom src c) :
    Traces src (word >>= f) where
  out hc h' := by
    obtain ⟨w, c₁, hword, hread⟩ := bind_eq_done_iff.mp h'
    obtain ⟨hspells, -⟩ := word_spells hword
    exact (h w c₁ (hspells.rest_isSuffix.trans hc) (hspells.behind hc)).out hread

instance : Traces src dotted := by
  unfold dotted
  exact traces_word_bind fun w c hc hbehind =>
    tracesFrom_here_bind (tracesFrom_dottedRest hc (hbehind.follows rfl))

/-- A grammar that traces a text, and whose patterns and elements are no mere names unless the text
says so. -/
class Grammar.Abuts (src : List Char) (g : Grammar) : Prop extends g.Traces src where
  pattern : Reader.Abuts src (g .pattern)
  element : Reader.AvoidsNames (g .element)

instance {g : Grammar} [hg : g.Abuts src] : Reader.Abuts src (g .pattern) := hg.pattern

end RouteAtlas.Script
