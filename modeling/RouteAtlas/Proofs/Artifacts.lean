import RouteAtlas.CommandLine.Program
import RouteAtlas.Proofs.FileWriting
import RouteAtlas.Proofs.JsonForm

/-!
# Which files a document ends up in

A document is written twice, first as YAML and then as JSON, and only the second can fail on what
the document holds. `exists_run_writeDocument` says what is left in the file tree in either case.

For the document of a run with a model this becomes an exact condition on its heading and its
operations (`run_writeDocument_assistedDocument`): both files are written **if and only if** all of
them have a JSON form. If one of them holds a date, bytes or a set, the YAML file is there and the
JSON file is what it was before, which may be nothing.

This is about runs in which the value of every answer is data (`MakesFromData`). A model can also write
half of a surrogate pair, which no file in UTF-8 can hold, or an alias inside the node that it refers
to, for which there is no finite text. The document here is not all that such an answer says, so nothing
is said about its files.
-/

namespace RouteAtlas

/-- Whether the value of an answer is data, as far as it has one. -/
def Answer.isHeld : Answer → Bool
  | .error _ => true
  | .ok text => Yaml.isHeld text

/-- A run with a model makes a document, and the values of all answers are data, so that the document is
all that they say. -/
structure MakesFromData (service : Service) (client : Client) (cancelled : Nat → Bool)
    (routes : List Route) (heading : Heading) (log : Log) (d : Document) : Prop where
  /-- The run ends with the document. -/
  made : (assistedDocument service client cancelled routes heading log).1 = .ok d
  /-- The values of all answers are data. -/
  held : ∀ a ∈ answersTo service client routes log, a.isHeld = true

namespace CommandLine

/-! ### Steps on the workspace -/

namespace Work

theorem run_changeFiles {change : FileTree → Except FileError FileTree} {w : Workspace}
    {tree : FileTree} (h : change w.tree = .ok tree) :
    (changeFiles change).run w = (.ok (), { w with tree := tree }) := by
  have hget : (get : Work Workspace).run w = (.ok w, w) := rfl
  have hrequire : (require Abort.file (change w.tree)).run w = (.ok tree, w) := by
    rw [h]
    rfl
  rw [changeFiles, run_bind_ok hget, run_bind_ok hrequire]
  rfl

theorem run_makeFolder {w : Workspace} {p : Path} {tree : FileTree}
    (h : w.tree.makeFolder p = .ok tree) :
    (makeFolder p).run w = (.ok (), { w with tree := tree }) :=
  run_changeFiles h

theorem run_writeText {w : Workspace} {p : Path} {s : String} {tree : FileTree}
    (h : w.tree.writeText p s = .ok tree) :
    (writeText p s).run w = (.ok (), { w with tree := tree }) :=
  run_changeFiles h

end Work

variable {d : Document} {folder : Path} {w : Workspace} {tree : FileTree}

/-- **Writing a document** into a folder in which neither of its names is that of a folder. The YAML
file is written in any case. -/
theorem exists_run_writeDocument (hfolder : w.tree.makeFolder folder = .ok tree)
    (hyaml : tree.isFolder (folder.child "openapi.yaml") = false)
    (hjson : tree.isFolder (folder.child "openapi.json") = false) :
    ∃ tree', tree'.Holds (folder.child "openapi.yaml") (Yaml.render (.map d)) ∧
      match Json.render (.map d) with
      | .ok text =>
        (writeDocument d folder).run w =
            (.ok [folder.child "openapi.yaml", folder.child "openapi.json"],
              { w with tree := tree' }) ∧
          tree'.Holds (folder.child "openapi.json") text
      | .error f =>
        (writeDocument d folder).run w = (.error (.stopped (.fault f)), { w with tree := tree' }) ∧
          tree'.lookUp (folder.child "openapi.json") =
            tree.lookUp (folder.child "openapi.json") := by
  -- The folder and the first file do not depend on what the document holds.
  obtain ⟨g, hg⟩ := FileTree.exists_resolve_of_makeFolder hfolder
  obtain ⟨first, hfirst, hheld, hg', hother⟩ :=
    FileTree.exists_writeText_child hg (by decide) (by decide) hyaml (Yaml.render (.map d))
  have hjsonSame := hother "openapi.json" (by decide) (by decide)
  rw [writeDocument, run_bind_ok (Work.run_makeFolder hfolder)]
  dsimp only
  rw [run_bind_ok (Work.run_writeText hfirst)]
  cases hrender : Json.render (.map d) with
  | error f => exact ⟨first, hheld, rfl, hjsonSame⟩
  | ok text =>
    have hjson' : first.isFolder (folder.child "openapi.json") = false := by
      rwa [FileTree.isFolder, hjsonSame]
    -- The second file goes into the same folder under another name, so the first one stays.
    obtain ⟨second, hsecond, hheld', -, hotherSecond⟩ :=
      FileTree.exists_writeText_child hg' (by decide) (by decide) hjson' text
    refine ⟨second, ?_, ?_, hheld'⟩
    · have hyamlSame := hotherSecond "openapi.yaml" (by decide) (by decide)
      rwa [FileTree.Holds, FileTree.resolve_congr hyamlSame]
    · have hrequire : (Work.require (fun f => Abort.stopped (.fault f)) (.ok text)).run
          { w with tree := first } = (.ok text, { w with tree := first }) := rfl
      rw [run_bind_ok hrequire, run_bind_ok (Work.run_writeText hsecond)]
      rfl

/-- **The files that the document of a run ends up in**, if the values of all answers are data. Either
everything in the document has a JSON form and both files are written, or something has none and there
is only the YAML file. -/
theorem run_writeDocument_assistedDocument {service : Service} {client : Client}
    {cancelled : Nat → Bool} {routes : List Route} {heading : Heading} {log : Log}
    (hroutes : ∀ r ∈ routes, r.HasKnownMethod)
    (hd : MakesFromData service client cancelled routes heading log d)
    (hfolder : w.tree.makeFolder folder = .ok tree)
    (hyaml : tree.isFolder (folder.child "openapi.yaml") = false)
    (hjson : tree.isFolder (folder.child "openapi.json") = false) :
    ∃ tree', tree'.Holds (folder.child "openapi.yaml") (Yaml.render (.map d)) ∧
      ((heading.isJson = true ∧ (∀ op ∈ d.operations, op.isJson = true) ∧
          ∃ text, Json.render (.map d) = .ok text ∧
            tree'.Holds (folder.child "openapi.json") text ∧
            (writeDocument d folder).run w =
              (.ok [folder.child "openapi.yaml", folder.child "openapi.json"],
                { w with tree := tree' })) ∨
        (¬(heading.isJson = true ∧ ∀ op ∈ d.operations, op.isJson = true) ∧
          ∃ f, Json.render (.map d) = .error f ∧
            tree'.lookUp (folder.child "openapi.json") =
              tree.lookUp (folder.child "openapi.json") ∧
            (writeDocument d folder).run w =
              (.error (.stopped (.fault f)), { w with tree := tree' }))) := by
  obtain ⟨tree', hheld, hrun⟩ := exists_run_writeDocument (d := d) hfolder hyaml hjson
  refine ⟨tree', hheld, ?_⟩
  have hform := Json.exists_render_iff.trans (isJson_assistedDocument_iff hroutes hd.made)
  cases hrender : Json.render (.map d) with
  | ok text =>
    rw [hrender] at hrun
    obtain ⟨hheading, hoperations⟩ := hform.mp ⟨text, hrender⟩
    exact .inl ⟨hheading, hoperations, text, rfl, hrun.2, hrun.1⟩
  | error f =>
    rw [hrender] at hrun
    refine .inr ⟨fun hjsonForm => ?_, f, rfl, hrun.2, hrun.1⟩
    obtain ⟨text, htext⟩ := hform.mpr hjsonForm
    rw [hrender] at htext
    cases htext

/-- A model that writes a date into an operation: the document is there as YAML and not as JSON. -/
theorem run_writeDocument_assistedDocument_dated :
    let route : Route := { method := "GET", path := "/x", handler := "h" }
    let service : Service := fun _ => .answered [some "/x:\n  get:\n    example: 2024-01-01\n"]
    let docs : Path := { parts := ["docs"] }
    route.HasKnownMethod ∧
    ∃ d, MakesFromData service {} (fun _ => false) [route] {} {} d ∧
      ∃ tree' f, (writeDocument d docs).run { tree := {} } =
          (.error (.stopped (.fault f)), { tree := tree' }) ∧
        tree'.Holds (docs.child "openapi.yaml") (Yaml.render (.map d)) ∧
        tree'.isFile (docs.child "openapi.json") = false := by
  intro route service docs
  have hroute : route.HasKnownMethod := ⟨.get, rfl⟩
  have hheld : ∀ a ∈ answersTo service {} [route] {}, a.isHeld = true := by decide +kernel
  have hmade : (assistedDocument service {} (fun _ => false) [route] {} {}).1.toOption.map
      (fun d => d.operations.all Value.isJson) = some false := by decide +kernel
  obtain ⟨d, hd, hdated⟩ := exists_ok_of_map_toOption hmade
  have hrunHeld : MakesFromData service {} (fun _ => false) [route] {} {} d := ⟨hd, hheld⟩
  let tree : FileTree := ⟨[(["docs"], .folder)]⟩
  have hfolder : FileTree.makeFolder {} docs = .ok tree := rfl
  have hyaml : tree.isFolder (docs.child "openapi.yaml") = false := rfl
  have hjson : tree.isFolder (docs.child "openapi.json") = false := rfl
  obtain ⟨tree', hyamlHeld, ⟨-, hoperations, -⟩ | ⟨-, f, -, hsame, hrun⟩⟩ :=
    run_writeDocument_assistedDocument (w := { tree := {} }) (List.forall_mem_singleton.mpr hroute)
      hrunHeld hfolder hyaml hjson
  · rw [List.all_eq_true.mpr hoperations] at hdated
    cases hdated
  · refine ⟨hroute, d, hrunHeld, tree', f, hrun, hyamlHeld, ?_⟩
    rw [FileTree.isFile, hsame]
    rfl

end CommandLine

/-- An escape for a whole character is held, and so is a backslash that begins no escape; one for half
of a pair is not, nor is a map that contains itself. -/
example :
    ["a: \"\\U0001F680\"", "a: \\uD83D", "a: \"\\uD83D\\uDE80\"", "a: &x\n  b: *x\n"].map Yaml.isHeld =
      [true, true, false, false] := by
  decide +kernel

end RouteAtlas
