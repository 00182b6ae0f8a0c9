import RouteAtlas.Proofs.Loading
import RouteAtlas.Proofs.Yaml.Rereading

/-!
# Documents in YAML files

A document that is written as YAML and loaded again goes through the same layers as one in JSON, and
two of its texts can get lost on the way. A key on the line of its value is not found again if more
than 1024 characters are written for it, and then the file is no YAML; and a next-line character in a
text between single quotes is written as it is, where it ends the line. Nothing else is lost:
`yaml_quickDocument` says of the document of extracted routes that it **comes back exactly if**
neither happens, and what is loaded in the other cases.
-/

namespace RouteAtlas

/-- What loading gives under every name for YAML files, wherever a text can be written there, and
from a file that holds the bytes of the text in UTF-8. -/
def LoadsAsYaml (text : String) (r : Path → Except LoadFailure Document) : Prop :=
  ∀ (t : FileTree) (p : Path), p.isYaml = true →
    ((t.resolve p).isWritable = true →
      ∃ t', t.writeText p text = .ok t' ∧ loadDocument t' p = r p) ∧
    ∀ place, t.resolve p = .file place (.bytes text.toUTF8.data.toList) → loadDocument t p = r p

/-- The document that is loaded for one that was written. -/
def Document.reread (d : Document) : Document := Members.ofList (Yaml.rereadMembers d)

/-- A file whose text is the YAML form of a plain document. -/
theorem loadDocument_of_spells_yaml {t : FileTree} {p : Path} {place : List String}
    {content : Content} {d : Document} (hne : d ≠ []) (hplain : (Value.map d).isPlain = true)
    (hyaml : p.isYaml = true) (hfile : t.resolve p = .file place content)
    (hcontent : content.Spells (Yaml.render (.map d))) :
    loadDocument t p = if Yaml.membersFit d then .ok d.reread else .error (.notYaml p.text) := by
  have hreturn : '\r' ∉ (Yaml.render (.map d)).toList := by
    intro hmem
    have hordinary := Yaml.isOrdinary_render hne hplain _ hmem
    cases hordinary
  have hread : t.readText p = .ok (Yaml.render (.map d)) := by
    rw [FileTree.readText, hfile]
    exact hcontent.read hreturn
  rw [Path.isYaml] at hyaml
  rw [loadDocument_of_readText hread, parseDocument, if_pos hyaml, Yaml.load_render hne hplain]
  cases Yaml.membersFit d <;> rfl

/-- **A plain document in a YAML file.** -/
theorem loadsAsYaml_render {d : Document} (hne : d ≠ []) (hplain : (Value.map d).isPlain = true) :
    LoadsAsYaml (Yaml.render (.map d)) fun p =>
      if Yaml.membersFit d then .ok d.reread else .error (.notYaml p.text) := by
  refine fun t p hyaml => ⟨fun hwritable => ?_, fun place hplace => ?_⟩
  · obtain ⟨t', hwrite, place, hplace⟩ := FileTree.exists_writeText hwritable
      (Yaml.render (.map d))
    exact ⟨t', hwrite, loadDocument_of_spells_yaml hne hplain hyaml hplace (.inl rfl)⟩
  · exact loadDocument_of_spells_yaml hne hplain hyaml hplace (.inr rfl)

/-- Loading gives a plain document back exactly if its keys fit and its texts are kept. -/
theorem loadsAsYaml_self_iff {d : Document} (hne : d ≠ []) (hplain : (Value.map d).isPlain = true) :
    LoadsAsYaml (Yaml.render (.map d)) (fun _ => .ok d) ↔
      Yaml.membersFit d = true ∧ Yaml.membersKeepTexts d = true := by
  have hloads := loadsAsYaml_render hne hplain
  have hkept := Yaml.reread_eq_self_iff (.map d) hplain
  rw [Yaml.reread, Yaml.keepsTexts, Value.map.injEq, ← Document.reread] at hkept
  constructor
  · intro hself
    let p : Path := ⟨false, ["openapi.yaml"]⟩
    have hyaml : p.isYaml = true := by decide +kernel
    obtain ⟨t, hwrite, hload⟩ := (hloads {} p hyaml).1 rfl
    obtain ⟨t', hwrite', hload'⟩ := (hself {} p hyaml).1 rfl
    obtain rfl := Except.ok.inj (hwrite.symm.trans hwrite')
    rw [hload] at hload'
    cases hfit : Yaml.membersFit d with
    | false =>
      rw [hfit] at hload'
      cases hload'
    | true =>
      rw [hfit] at hload'
      exact ⟨rfl, hkept.mp (Except.ok.inj hload')⟩
  · rintro ⟨hfit, hkeeps⟩
    simpa only [hfit, if_true, hkept.mpr hkeeps] using hloads

/-- **The document of extracted routes in a YAML file.** It exists and comes back from a JSON file.
From a YAML file another document may be loaded, or none: it comes back exactly if all its keys fit
and all its texts are kept. -/
theorem yaml_quickDocument {routes : List Route} (hroutes : ∀ r ∈ routes, r.IsExtracted)
    (heading : Heading) (hheading : heading.isPlain = true) :
    ∃ d, quickDocument routes heading = .ok d ∧ d.RoundTrips ∧
      (LoadsAsYaml (Yaml.render (.map d)) fun p =>
        if Yaml.membersFit d then .ok d.reread else .error (.notYaml p.text)) ∧
      (LoadsAsYaml (Yaml.render (.map d)) (fun _ => .ok d) ↔
        Yaml.membersFit d = true ∧ Yaml.membersKeepTexts d = true) := by
  obtain ⟨d, hquick, hplain⟩ := isPlain_quickDocument hroutes hheading
  have hne : d ≠ [] := by
    rw [quickDocument_eq (fun r hr => (hroutes r hr).hasKnownMethod) heading] at hquick
    obtain rfl := Except.ok.inj hquick
    exact List.cons_ne_nil _ _
  exact ⟨d, hquick, roundTrips_of_isPlain hplain, loadsAsYaml_render hne hplain,
    loadsAsYaml_self_iff hne hplain⟩

/-- The document of a route with the usual title comes back; with a title in which a next-line
character stands, it does not. -/
theorem yaml_quickDocument_titles :
    ∃ routes, extractRoutes "app.get('/x',h)" "r.js" = .ok routes ∧
      routes.map Route.path = ["/x"] ∧
      (∃ d, quickDocument routes {} = .ok d ∧
        LoadsAsYaml (Yaml.render (.map d)) fun _ => .ok d) ∧
      ∃ d, quickDocument routes { title := .text "a\x85b" } = .ok d ∧ d.RoundTrips ∧
        LoadsAsYaml (Yaml.render (.map d)) (fun _ => .ok d.reread) ∧
        ¬ LoadsAsYaml (Yaml.render (.map d)) fun _ => .ok d := by
  have hfacts : (extractRoutes "app.get('/x',h)" "r.js").toOption.map (fun routes =>
      (routes.map Route.path,
        (quickDocument routes {}).toOption.map fun d =>
          (Yaml.membersFit d, Yaml.membersKeepTexts d),
        (quickDocument routes { title := .text "a\x85b" }).toOption.map fun d =>
          (Yaml.membersFit d, Yaml.membersKeepTexts d))) =
      some (["/x"], some (true, true), some (true, false)) := by
    decide +kernel
  obtain ⟨routes, hextract, hfacts⟩ := exists_ok_of_map_toOption hfacts
  simp only [Prod.mk.injEq] at hfacts
  obtain ⟨hpaths, husual, hbroken⟩ := hfacts
  have hroutes : ∀ r ∈ routes, r.IsExtracted := fun r hr => ⟨_, _, routes, hextract, hr⟩
  refine ⟨routes, hextract, hpaths, ?_, ?_⟩
  · obtain ⟨d, hquick, -, -, hself⟩ := yaml_quickDocument hroutes {} rfl
    rw [hquick] at husual
    obtain ⟨hfit, hkeeps⟩ := Prod.mk.inj (Option.some.inj husual)
    exact ⟨d, hquick, hself.mpr ⟨hfit, hkeeps⟩⟩
  · obtain ⟨d, hquick, hjson, hloads, hself⟩ :=
      yaml_quickDocument hroutes { title := .text "a\x85b" } rfl
    rw [hquick] at hbroken
    obtain ⟨hfit, hkeeps⟩ := Prod.mk.inj (Option.some.inj hbroken)
    refine ⟨d, hquick, hjson, ?_, fun h => ?_⟩
    · simpa only [hfit, if_true] using hloads
    · rw [(hself.mp h).2] at hkeeps
      cases hkeeps

end RouteAtlas
