-- SUMMARY: What a function calls.
import Docsmith.Source.Outline
import Docsmith.Text.Order

/-!
# Calls

The calls of a function are the names of all callees anywhere in its definition.
A callee has a name when it is a name or a chain of attributes; what stands
before an attribute and has no name is passed over.
-/

namespace Docsmith.Source

/-- The name, unless it is empty. -/
def nonempty? (name : String) : Option String := if name = "" then none else some name

/-- The name of a callee, where a subscript has the name of what it is applied to. An empty name
    counts as none. -/
def Expr.calledName : Expr → Option String
  | .name id => nonempty? id
  | .attribute value attr =>
    match value.calledName with
    | some n => some (n ++ "." ++ attr)
    | none => nonempty? attr
  | .subscript value _ => value.calledName
  | _ => none

/-- The name of a callee, where a subscript has no name. An empty name counts as none. -/
def Expr.dottedName : Expr → Option String
  | .name id => nonempty? id
  | .attribute value attr =>
    match value.dottedName with
    | some n => some (n ++ "." ++ attr)
    | none => nonempty? attr
  | _ => none

/-- The callee that a mark carries. -/
def Mark.callee? : Mark → Option Expr
  | .call callee => some callee
  | _ => none

mutual

/-- The callees of all calls in an outline. -/
def Outline.callees : Outline → List Expr
  | .mk mark children => mark.callee?.toList ++ calleesOf children

/-- The callees of all calls in several outlines. -/
def calleesOf : List Outline → List Expr
  | [] => []
  | o :: os => o.callees ++ calleesOf os

end

/-- The names of everything that a function calls, in increasing order. -/
def FunctionDef.calls (f : FunctionDef) : List String :=
  Text.sortedDistinct ((calleesOf f.outlines).filterMap Expr.calledName)

/-- The text that stands for the calls of a function in its fingerprint. -/
def FunctionDef.callText (f : FunctionDef) : String :=
  "|".intercalate (Text.sortedDistinct ((calleesOf f.outlines).filterMap Expr.dottedName))

end Docsmith.Source
