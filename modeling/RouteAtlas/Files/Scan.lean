import RouteAtlas.Files.Glob
import RouteAtlas.Route.Extract
import RouteAtlas.Route.Marker

/-!
# Scanning a project

A scan reads every candidate file, passes over those that do not look like route files, and collects
the routes of the others. A file that cannot be read is recorded and does not stop the scan. A path
that no file system takes does: there is nothing recorded about it, and what was found before is lost.
-/

namespace RouteAtlas

/-- Where route files are looked for. -/
def routeFilePatterns : List String := [
  "routes/**/*.js", "routes/**/*.ts", "src/routes/**/*.js", "src/routes/**/*.ts",
  "app/routes/**/*.js", "app/routes/**/*.ts", "server/routes/**/*.js", "server/routes/**/*.ts"]

/-- The route files below a folder; no patterns means the usual ones. -/
def findRouteFiles (t : FileTree) (root : Path) (patterns : List String) :
    Except Glob.PatternError (List Path) := do
  match t.lookUp root with
  | .folder folder =>
    let places ← Glob.find t folder (if patterns.isEmpty then routeFilePatterns else patterns)
    return places.map fun place => { root with parts := root.parts ++ place }
  | _ => return []

/-- A file that could not be read. -/
structure ScanError where
  /-- The file. -/
  filePath : String
  /-- What is wrong with it. -/
  message : String

/-- The outcome of a scan. -/
structure ScanResult where
  /-- The routes, file by file. -/
  routes : List Route := []
  /-- The number of files looked at. -/
  totalFiles : Nat := 0
  /-- The files that could not be read. -/
  errors : List ScanError := []

/-- The number of routes found. -/
def ScanResult.totalRoutes (r : ScanResult) : Nat := r.routes.length

/-- Scans one file. -/
def scanFile (t : FileTree) (file : Path) (result : ScanResult) (console : Console) :
    Except FileError ScanResult × Console :=
  match t.readText file with
  | .error e =>
    if e.isOfFile then
      let error : ScanError := ⟨file.text, "Failed to read file: " ++ e.message⟩
      (.ok { result with errors := result.errors ++ [error] },
        console.warn ("  Error reading " ++ file.text ++ ": " ++ e.message))
    else (.error e, console)
  | .ok source =>
    if looksLikeRoutes source then
      let (routes, console) := discoverRoutes source file.text console
      (.ok { result with routes := result.routes ++ routes }, console)
    else (.ok result, console)

/-- Scans files one after the other, as long as none of them ends the scan. -/
def scanFrom (t : FileTree) : List Path → ScanResult → Console → Except FileError ScanResult × Console
  | [], result, console => (.ok result, console)
  | file :: files, result, console =>
    match scanFile t file result console with
    | (.ok result, console) => scanFrom t files result console
    | (.error e, console) => (.error e, console)

/-- Scans files. -/
def scanFiles (t : FileTree) (files : List Path) (console : Console) :
    Except FileError ScanResult × Console :=
  scanFrom t files { totalFiles := files.length } console

end RouteAtlas
