-- SUMMARY: The dotted path that a source file is imported by.
import Docsmith.Fault
import Docsmith.Project.Path

/-!
# Module paths

A source file below a base folder is known by the names that lead to it, joined
by points, without the extension. A package is known by its folder.
-/

namespace Docsmith

/-- A name without the extension of source files. -/
def withoutSourceExtension (name : String) : String :=
  if name.endsWith ".py" then String.ofList (name.toList.take (name.length - 3)) else name

/-- The names that a source file is known by, given those that lead to it. -/
def moduleParts (parts : List String) (last : String) : List String :=
  let last := withoutSourceExtension last
  if last == "__init__" then parts else parts ++ [last]

/-- The module path of a source file. A file outside of the base is known by its own name;
    the base itself has no module path. -/
def modulePath (file base : Path) : Answer String :=
  match file.relativeTo? base with
  | none => .ok file.stem
  | some parts => match parts.getLast? with
    | none => .error .badPosition
    | some last => match moduleParts parts.dropLast last with
      | [] => .ok file.stem
      | names => .ok (".".intercalate names)

end Docsmith
