import ViewCompiler.Compilation.Result
import ViewCompiler.Files.Basic
import ViewCompiler.Log

/-!
# Written files

The files that a result is written to: the generated code, and the page on the
components if there is something on it.
-/

namespace ViewCompiler

structure Artifact where
  location : Location
  text : String
deriving DecidableEq, Repr

namespace CompilationResult

def documentationFile : String := "ComponentDocs.md"

def artifacts (result : CompilationResult) (directory : Location) :
    List Artifact :=
  ⟨directory.join (Location.read result.fileName), result.code⟩ ::
    match result.documentation.filter (!·.isEmpty) with
    | some page => [⟨directory.join { names := [documentationFile] }, page⟩]
    | none => []

def writeLog (result : CompilationResult) (directory : Location) : Log :=
  (result.artifacts directory).map fun artifact =>
    ⟨.info, .files, "Wrote " ++ artifact.location.text⟩

end CompilationResult

namespace Files

/-- Write files one after the other, up to the first that is refused: the files
after it, and the refusal. -/
def writeAll : Files → List Artifact → Files × Option FileError
  | files, [] => (files, none)
  | files, artifact :: rest =>
    match files.write artifact.location artifact.text with
    | .ok files => writeAll files rest
    | .error error => (files, some error)

def writeTo (files : Files) (directory : Location) (artifacts : List Artifact) :
    Files × Option FileError :=
  match files.ensureDirectories directory with
  | (files, none) => files.writeAll artifacts
  | (files, some error) => (files, some error)

/-- Files with the given texts, and the directories on the way to them. -/
def ofTexts (texts : List (Location × String)) : Files :=
  texts.foldl (fun files (location, text) =>
    let directory := { location with names := location.names.dropLast }
    (files.writeTo directory [⟨location, text⟩]).1) {}

end Files

end ViewCompiler
