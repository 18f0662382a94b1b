-- SUMMARY: The functions and classes of a file.
import Docsmith.Source.Tree

/-!
# Definitions

The functions of a file are those at its top level and the methods that stand
directly in its top-level classes.
-/

namespace Docsmith.Source

/-- The functions that stand directly in a body. -/
def functionsOf (body : List Stmt) : List FunctionDef := body.filterMap Stmt.function?

/-- The classes that stand directly in a body. -/
def classesOf (body : List Stmt) : List ClassDef := body.filterMap Stmt.class?

/-- The functions of a file in order, with the names that they are known by. -/
def labelledFunctions : List Stmt → List (String × FunctionDef)
  | [] => []
  | s :: rest =>
    let here := match s.function?, s.class? with
      | some f, _ => [(f.name, f)]
      | none, some c => (functionsOf c.body).map fun m => (c.name ++ "." ++ m.name, m)
      | none, none => []
    here ++ labelledFunctions rest

end Docsmith.Source
