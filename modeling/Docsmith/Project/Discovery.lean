-- SUMMARY: The source files and pages of a project.
import Docsmith.Project.FileTree
import Docsmith.Project.Glob

/-!
# Discovery

The files of a project are found by walking its folders. A folder whose name
matches a pattern is not entered; a file is left out when its name or its path
below the root matches one.
-/

namespace Docsmith

/-- The patterns that hold when a project gives none. -/
def defaultExcludes : List String := [
  "__pycache__", ".venv", "venv", ".git", "node_modules", "*.pyc", "build", "dist"]

/-- The patterns that hold. -/
def effectiveExcludes (excludes : List String) : List String :=
  if excludes.isEmpty then defaultExcludes else excludes

/-- Some pattern stands for the text. -/
def isExcluded (excludes : List String) (text : String) : Bool :=
  excludes.any fun p => Glob.isMatch p text

/-- What is looked for: the endings of file names. -/
inductive Sought where
  | sources
  | pages

/-- The file name has an ending that is looked for. -/
def Sought.accepts : Sought → String → Bool
  | .sources, name => name.endsWith ".py"
  | .pages, name => name.endsWith ".md" || name.endsWith ".markdown"

/-- A file that is scanned by itself has an extension that is looked for. -/
def Sought.acceptsAlone (s : Sought) (p : Path) : Bool :=
  match s with
  | .sources => p.extension == ".py"
  | .pages => p.extension == ".md" || p.extension == ".markdown"

/-- A file of a project: its path and its bytes. -/
structure ProjectFile where
  path : Path
  bytes : List UInt8

/-- The file is looked for and not excluded. -/
def isWanted (sought : Sought) (excludes : List String) (f : FileTree.Found) : Bool :=
  let name := f.parts.getLast?.getD ""
  sought.accepts name
    && !(isExcluded excludes ("/".intercalate f.parts) || isExcluded excludes name)

/-- The files that are looked for below a root, or the root itself if it is such a file. `disk`
    is the folder that the root is relative to. -/
def findFiles (sought : Sought) (excludes : List String) (disk : FileTree) (root : Path) :
    List ProjectFile :=
  match disk.lookup root.parts with
  | none => []
  | some (.file bs) => if sought.acceptsAlone root then [⟨root, bs⟩] else []
  | some tree =>
    let excludes := effectiveExcludes excludes
    let found := tree.walk (fun n => !isExcluded excludes n) []
    (found.filter (isWanted sought excludes)).map fun f => ⟨root.join f.parts, f.bytes⟩

end Docsmith
