import RouteAtlas.Proofs.Components

/-!
# Finishing twice

Finishing a document that was finished changes nothing and does not fail (`apply_finish_finish`). This
is a statement about **every** document, also about one in which someone has put a list or a text
where the schemas should be: a name is looked for there in whatever there is, and only if it is not
found, schemas that are no map make the step fail.

What a step of the first pass has done can be changed by later steps of the same pass, so it is not
enough to look at one step. The statement that carries the proof is `Document.Lasts`: after a step
that succeeds, the step does nothing on **any** document that has the same paths and lists at least
the same names (`Document.Extends`). Steps one after the other inherit this, because what they leave
is extended only (`Lasts.andThen`), and so the whole walk has it as soon as the step for a single
schema has it (`lasts_liftSchema`).
-/

namespace RouteAtlas

theorem Value.exists_map_of_setItem {v w x : Value} {name : String} (h : v.setItem name x = .ok w) :
    ∃ ms, v = .map ms ∧ w = .map (Members.put ms name x) := by
  cases v with
  | map ms => exact ⟨ms, rfl, (Except.ok.inj h).symm⟩
  | _ => cases h

namespace Document

/-! ### Documents with the same paths and at least the same names -/

/-- A document in which a name is found in the place of the schemas, whatever is there. -/
def Lists (d : Document) (name : String) : Prop :=
  ∃ v, Members.find? d.components "schemas" = some v ∧ v.holds (.text name) = .ok true

/-- Whether there is something in the place of the schemas. -/
def HasPlace (d : Document) : Prop := (Members.find? d.components "schemas").isSome = true

/-- One document has the paths of another and lists at least the same names. -/
structure Extends (d d' : Document) : Prop where
  /-- The paths are the same. -/
  paths_eq : Members.find? d' "paths" = Members.find? d "paths"
  /-- There is a place for schemas. -/
  hasPlace : d'.HasPlace
  /-- Names that are listed stay listed. -/
  lists : ∀ name, d.Lists name → d'.Lists name

theorem Extends.refl {d : Document} (h : d.HasPlace) : d.Extends d := ⟨rfl, h, fun _ => id⟩

theorem Extends.trans {d d' d'' : Document} (h : d.Extends d') (h' : d'.Extends d'') :
    d.Extends d'' :=
  ⟨h'.paths_eq.trans h.paths_eq, h'.hasPlace, fun name hname => h'.lists name (h.lists name hname)⟩

/-- In a map, the names that are listed are the keys. -/
theorem lists_iff_has {d : Document} {schemas : Members}
    (h : Members.find? d.components "schemas" = some (.map schemas)) {name : String} :
    d.Lists name ↔ Members.has schemas (.text name) = true := by
  have hholds : (Value.map schemas).holds (.text name) = .ok (Members.has schemas (.text name)) := rfl
  constructor
  · rintro ⟨v, hv, hname⟩
    obtain rfl : v = .map schemas := Option.some.inj (hv.symm.trans h)
    exact Except.ok.inj (hholds.symm.trans hname)
  · intro hhas
    exact ⟨_, h, hholds.trans (congrArg Except.ok hhas)⟩

/-- Setting a schema extends a document. -/
theorem extends_withSchemas {d : Document} {schemas : Members}
    (h : Members.find? d.components "schemas" = some (.map schemas)) (name : String)
    (schema : Value) :
    d.Extends (d.withSchemas d.components (Members.put schemas name schema)) := by
  have hplace := d.find?_schemas_withSchemas d.components (Members.put schemas name schema)
  refine ⟨Members.find?_put_of_ne (by decide) .., by rw [HasPlace, hplace]; rfl, fun other hother => ?_⟩
  rw [lists_iff_has h, Members.has_eq_isSome_find?] at hother
  rw [lists_iff_has hplace, Members.has_eq_isSome_find?]
  by_cases hname : other = name
  · rw [hname, Members.find?_put_self]
    rfl
  · rwa [Members.find?_put_of_ne hname]

/-- Setting a member that is neither the paths nor the components extends a document. -/
theorem extends_put {d : Document} (h : d.HasPlace) {name : String} (hpaths : name ≠ "paths")
    (hcomponents : name ≠ "components") (v : Value) : d.Extends (Members.put d name v) := by
  have hsame : Document.components (Members.put d name v) = d.components := by
    rw [components, components, Members.find?_put_of_ne hcomponents.symm]
  have hplace : HasPlace (Members.put d name v) := by rwa [HasPlace, hsame]
  refine ⟨Members.find?_put_of_ne hpaths.symm .., hplace, fun other hother => ?_⟩
  rwa [Lists, hsame]

/-! ### Opening the components again -/

/-- Opening the components succeeds only if they are a map or not there. -/
theorem exists_components_of_run_openSchemas {d d' : Document}
    (h : openSchemas.run d = (.ok (), d')) :
    ∃ components, (Members.find? d "components").getD (.map []) = .map components := by
  rw [openSchemas, run_bind_ok (run_get d)] at h
  cases hc : Members.find? d "components" with
  | none => exact ⟨[], rfl⟩
  | some v =>
    rw [hc] at h
    cases v with
    | map components => exact ⟨components, rfl⟩
    | _ => cases h

theorem hasPlace_of_run_openSchemas {d d' : Document} (h : openSchemas.run d = (.ok (), d')) :
    d'.HasPlace := by
  obtain ⟨components, hcomponents⟩ := exists_components_of_run_openSchemas h
  rw [Document.run_openSchemas hcomponents] at h
  obtain rfl : _ = d' := congrArg Prod.snd h
  rw [HasPlace, components_put, Members.find?_put_self]
  rfl

/-- Where there is a place for schemas, opening the components changes nothing. -/
theorem HasPlace.run_openSchemas {d : Document} (h : d.HasPlace) :
    openSchemas.run d = (.ok (), d) := by
  obtain ⟨v, hv⟩ := Option.isSome_iff_exists.mp h
  have hcomponents := find?_components_of_find?_schemas hv
  have hgetD : (Members.find? d "components").getD (.map []) = .map d.components := by
    rw [hcomponents]
    rfl
  rw [Document.run_openSchemas hgetD, hv, Option.getD_some, Members.put_of_find? hv,
    Members.put_of_find? hcomponents]

/-! ### One schema again -/

/-- A schema whose name is listed is passed over. -/
theorem run_liftSchema_of_lists {schema : Value} {d : Document}
    (h : ∀ name, liftedName? schema = some name → d.Lists name) :
    (liftSchema schema).run d = (.ok (), d) := by
  cases hname : liftedName? schema with
  | none => exact run_liftSchema_none hname d
  | some name =>
    obtain ⟨v, hv, hholds⟩ := h name hname
    rw [run_liftSchema_some hname hv, run_bind_ok (run_read_ok hholds d)]
    rfl

/-- **All that copying one schema can do**: nothing, if its name is listed or it has none, or setting it
in a map. -/
theorem liftSchema_cases {schema : Value} {d d' : Document} (hplace : d.HasPlace)
    (h : (liftSchema schema).run d = (.ok (), d')) :
    (d' = d ∧ ∀ name, liftedName? schema = some name → d.Lists name) ∨
      ∃ name schemas, liftedName? schema = some name ∧
        Members.find? d.components "schemas" = some (.map schemas) ∧
        d' = d.withSchemas d.components (Members.put schemas name schema) := by
  cases hname : liftedName? schema with
  | none =>
    rw [run_liftSchema_none hname] at h
    refine .inl ⟨(congrArg Prod.snd h).symm, fun name hsome => ?_⟩
    cases hsome
  | some name =>
    obtain ⟨v, hv⟩ := Option.isSome_iff_exists.mp hplace
    rw [run_liftSchema_some hname hv] at h
    obtain ⟨found, _, hread, hrest⟩ := exists_of_run_bind h
    obtain ⟨hholds, rfl⟩ := eq_of_run_read hread
    cases found with
    | true =>
      refine .inl ⟨(congrArg Prod.snd hrest).symm, fun name' hname' => ?_⟩
      rw [← Option.some.inj hname']
      exact ⟨v, hv, hholds⟩
    | false =>
      -- The name is not found, so the schema was set, which only a map allows.
      obtain ⟨w, _, hset, hassign⟩ := exists_of_run_bind hrest
      obtain ⟨hw, rfl⟩ := eq_of_run_read hset
      obtain ⟨schemas, rfl, rfl⟩ := Value.exists_map_of_setItem hw
      exact .inr ⟨name, schemas, rfl, hv, (congrArg Prod.snd hassign).symm⟩

/-! ### Steps whose work lasts -/

/-- A step that, once it has succeeded, does nothing on documents that extend what it left. -/
def Lasts (e : Edit Unit) : Prop :=
  ∀ d d' : Document, d.HasPlace → e.run d = (.ok (), d') →
    d.Extends d' ∧ ∀ d'' : Document, d'.Extends d'' → e.run d'' = (.ok (), d'')

theorem Lasts.nothing : Lasts (pure ()) := by
  intro d d' hplace hrun
  obtain rfl : d = d' := congrArg Prod.snd hrun
  exact ⟨Extends.refl hplace, fun _ _ => rfl⟩

theorem Lasts.andThen {e e' : Edit Unit} (h : Lasts e) (h' : Lasts e') :
    Lasts (e >>= fun _ => e') := by
  intro d d₂ hplace hrun
  obtain ⟨_, d₁, hfirst, hsecond⟩ := exists_of_run_bind hrun
  obtain ⟨hextends, hlasts⟩ := h d d₁ hplace hfirst
  obtain ⟨hextends', hlasts'⟩ := h' d₁ d₂ hextends.hasPlace hsecond
  -- What extends the end of both steps extends the end of the first one too.
  refine ⟨hextends.trans hextends', fun d₃ hlater => ?_⟩
  rw [run_bind_ok (hlasts d₃ (hextends'.trans hlater))]
  exact hlasts' d₃ hlater

theorem Lasts.forAll {step : Value → Edit Unit} (h : ∀ v, Lasts (step v)) (vs : List Value) :
    Lasts (Document.forAll step vs) := by
  induction vs with
  | nil => exact Lasts.nothing
  | cons v vs ih => exact (h v).andThen ih

/-- A step for values that have to be read first. -/
theorem Lasts.read {r : Except Fault (List Value)} {e : List Value → Edit Unit}
    (h : ∀ vs, Lasts (e vs)) : Lasts (Document.read r >>= e) := by
  intro d d' hplace hrun
  obtain ⟨vs, _, hread, hrest⟩ := exists_of_run_bind hrun
  obtain ⟨hr, rfl⟩ := eq_of_run_read hread
  obtain ⟨hextends, hlasts⟩ := h vs _ d' hplace hrest
  refine ⟨hextends, fun d'' hlater => ?_⟩
  rw [run_bind_ok (run_read_ok hr d'')]
  exact hlasts d'' hlater

theorem lasts_liftSchema (schema : Value) : Lasts (liftSchema schema) := by
  intro d d' hplace hrun
  -- Either way, the name of the schema is listed now.
  suffices hnow : d.Extends d' ∧ ∀ name, liftedName? schema = some name → d'.Lists name by
    refine ⟨hnow.1, fun d'' hlater => run_liftSchema_of_lists fun name hname => ?_⟩
    exact hlater.lists name (hnow.2 name hname)
  rcases liftSchema_cases hplace hrun with ⟨rfl, hlists⟩ | ⟨name, schemas, hname, hmap, rfl⟩
  · exact ⟨Extends.refl hplace, hlists⟩
  · refine ⟨extends_withSchemas hmap name schema, fun name' hname' => ?_⟩
    obtain rfl : name = name' := Option.some.inj (hname.symm.trans hname')
    rw [lists_iff_has (find?_schemas_withSchemas ..), Members.has_eq_isSome_find?,
      Members.find?_put_self]
    rfl

theorem lasts_liftResponse (v : Value) : Lasts (liftResponse v) := by
  cases v with
  | map response => exact Lasts.read (Lasts.forAll fun m => lasts_liftSchema (mediaSchema m))
  | _ => exact Lasts.nothing

theorem lasts_liftOperation (v : Value) : Lasts (liftOperation v) := by
  cases v with
  | map operation => exact Lasts.read (Lasts.forAll lasts_liftResponse)
  | _ => exact Lasts.nothing

theorem lasts_liftPath (v : Value) : Lasts (liftPath v) := by
  cases v with
  | map item => exact Lasts.forAll lasts_liftOperation _
  | _ => exact Lasts.nothing

/-- **Copying again does nothing**, also after changes that keep the paths and what is listed. -/
theorem run_liftSchemas_again {d d' : Document} (h : liftSchemas.run d = (.ok (), d')) :
    d'.HasPlace ∧ ∀ d'' : Document, d'.Extends d'' → liftSchemas.run d'' = (.ok (), d'') := by
  obtain ⟨opened, paths, hopen, hpaths, hwalk⟩ := exists_of_run_liftSchemas h
  obtain ⟨hextends, hlasts⟩ :=
    Lasts.forAll lasts_liftPath _ opened d' (hasPlace_of_run_openSchemas hopen) hwalk
  refine ⟨hextends.hasPlace, fun d'' hlater => ?_⟩
  have hpaths'' : Members.find? d'' "paths" = some (.map paths) :=
    (hextends.trans hlater).paths_eq.trans hpaths
  rw [liftSchemas, run_bind_ok hlater.hasPlace.run_openSchemas, run_bind_ok (run_require hpaths''),
    run_bind_ok (run_membersFor_map ..)]
  exact hlasts d'' hlater

/-! ### Finishing again -/

/-- Whether a document has tags that count as true. -/
def HasTags (d : Document) : Prop :=
  ∃ tags, Members.find? d "tags" = some tags ∧ tags.truthy = true

/-- Finishing copies schemas, and then it sets tags unless there are some. -/
theorem finish_cases {d d' : Document} (h : finish.run d = (.ok (), d')) :
    ∃ lifted, liftSchemas.run d = (.ok (), lifted) ∧
      (d' = lifted ∧ lifted.HasTags ∨ d' = Members.put lifted "tags" defaultTags) := by
  obtain ⟨_, lifted, hlift, hrest⟩ := exists_of_run_bind h
  rw [run_bind_ok (run_get lifted)] at hrest
  refine ⟨lifted, hlift, ?_⟩
  cases htags : Members.find? lifted "tags" with
  | none =>
    rw [htags] at hrest
    exact .inr (congrArg Prod.snd hrest).symm
  | some tags =>
    rw [htags] at hrest
    dsimp only [Option.getD_some] at hrest
    split_ifs at hrest with htruthy
    · exact .inl ⟨(congrArg Prod.snd hrest).symm, tags, htags, htruthy⟩
    · exact .inr (congrArg Prod.snd hrest).symm

theorem HasTags.run_finish {d : Document} (h : d.HasTags) (hlift : liftSchemas.run d = (.ok (), d)) :
    finish.run d = (.ok (), d) := by
  obtain ⟨tags, htags, htruthy⟩ := h
  rw [finish, run_bind_ok hlift, run_bind_ok (run_get d), htags]
  dsimp only [Option.getD_some]
  rw [if_pos htruthy]
  rfl

/-- **Finishing is idempotent.** If a document can be finished, whatever its shape, then it has tags
afterwards, and finishing it again ends well and changes nothing. -/
theorem apply_finish_finish {d d' : Document} (h : d.apply finish = (.ok (), d')) :
    d'.HasTags ∧ d'.apply finish = (.ok (), d') := by
  obtain ⟨lifted, hlift, hd'⟩ := finish_cases h
  obtain ⟨hplace, hagain⟩ := run_liftSchemas_again hlift
  -- Tags are neither paths nor components, so setting them is no matter to the copying.
  have hfinished : d'.HasTags ∧ lifted.Extends d' := by
    rcases hd' with ⟨rfl, htags⟩ | rfl
    · exact ⟨htags, Extends.refl hplace⟩
    · refine ⟨⟨defaultTags, Members.find?_put_self .., rfl⟩, ?_⟩
      exact extends_put hplace (by decide) (by decide) _
  obtain ⟨htags, hextends⟩ := hfinished
  exact ⟨htags, htags.run_finish (hagain d' hextends)⟩

/-- A document with a list in the place of the schemas and tags that count as absent. -/
def listedDocument : Document := [
  (.text "tags", .list []),
  (.text "paths", .object [
    ("/a", .object [("get", .object [("responses", .object [
      ("404", responseWith (titledSchema "listed" ["message"]))])])])]),
  (.text "components", .object [("schemas", .list [.text "User", .text "ErrorResponse"])])]

theorem apply_finish_finish_listedDocument :
    ∃ d', listedDocument.apply finish = (.ok (), d') ∧ d'.HasTags ∧
      d'.apply finish = (.ok (), d') := by
  obtain ⟨d', hrun⟩ : ∃ d', listedDocument.apply finish = (.ok (), d') := ⟨_, rfl⟩
  obtain ⟨htags, hagain⟩ := apply_finish_finish hrun
  exact ⟨d', hrun, htags, hagain⟩

end Document

end RouteAtlas
