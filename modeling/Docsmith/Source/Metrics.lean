-- SUMMARY: How many paths a function has, and how hard it is to follow.
import Docsmith.Source.Outline

/-!
# Complexity

`FunctionDef.complexity` counts the paths through a function: one, and one more
for every decision. `FunctionDef.cognitiveWeight` charges a branch by how deeply
it is nested in other branches.
-/

namespace Docsmith.Source

/-- The number of paths that a node adds. -/
def Mark.paths : Mark → Nat
  | .branch => 1
  | .context => 1
  | .check => 1
  | .connective n => n - 1
  | .comprehension n => n
  | .call _ => 0
  | .plain => 0

mutual

/-- The number of paths that an outline adds. -/
def Outline.paths : Outline → Nat
  | .mk mark children => mark.paths + pathsOf children

/-- The number of paths that several outlines add. -/
def pathsOf : List Outline → Nat
  | [] => 0
  | o :: os => o.paths + pathsOf os

end

/-- The number of paths through a function. -/
def FunctionDef.complexity (f : FunctionDef) : Nat := 1 + pathsOf f.outlines

/-- The weight of a node inside `depth` branches. -/
def Mark.weight (depth : Nat) : Mark → Nat
  | .branch => 1 + depth
  | .connective n => n - 1
  | _ => 0

/-- The number of branches around the children of a node. -/
def Mark.deeper (depth : Nat) : Mark → Nat
  | .branch => depth + 1
  | _ => depth

mutual

/-- The weight of an outline inside `depth` branches. -/
def Outline.weight (depth : Nat) : Outline → Nat
  | .mk mark children => mark.weight depth + weightOf (mark.deeper depth) children

/-- The weight of several outlines inside `depth` branches. -/
def weightOf (depth : Nat) : List Outline → Nat
  | [] => 0
  | o :: os => o.weight depth + weightOf depth os

end

/-- How hard a function is to follow. -/
def FunctionDef.cognitiveWeight (f : FunctionDef) : Nat := weightOf 0 f.outlines

end Docsmith.Source
