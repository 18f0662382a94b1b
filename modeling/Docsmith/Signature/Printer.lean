-- SUMMARY: The signature of a function as it is shown.
import Docsmith.Source.Naming
import Docsmith.Source.Denotation

/-!
# Printing signatures

A signature lists the parameters of a function with their annotations and
defaults, and what it returns. A parameter that can only be given by position is
shown without its default.
-/

namespace Docsmith.Source

mutual

/-- The text of an annotation. -/
def Expr.annotationText : Expr → Printed
  | .constant c => .ok c.value.display
  | .name id => .ok id
  | .attribute value attr => do return (← value.annotationText) ++ "." ++ attr
  | .subscript value index => do
    let v ← value.annotationText
    let i ← index.annotationText
    return v ++ "[" ++ i ++ "]"
  | .tuple elts => do return ", ".intercalate (← annotationTexts elts)
  | .list elts => do return "[" ++ ", ".intercalate (← annotationTexts elts) ++ "]"
  | .binary left .bitOr right => do
    let l ← left.annotationText
    let r ← right.annotationText
    return l ++ " | " ++ r
  | e => e.text

/-- The texts of several annotations. -/
def annotationTexts : List Expr → Except PrintFault (List String)
  | [] => .ok []
  | e :: es => do
    let t ← e.annotationText
    return t :: (← annotationTexts es)

end

/-- The text of a default. -/
def Expr.defaultText : Expr → Printed
  | .constant c => .ok c.value.display
  | .name id => .ok id
  | e => e.text

/-- A parameter with its annotation. -/
def Param.bareText : Param → Printed
  | .mk name none _ => .ok name
  | .mk name (some type) _ => do return name ++ ": " ++ (← type.annotationText)

/-- A parameter with its annotation and default. -/
def Param.fullText : Param → Printed
  | .mk name type none => Param.bareText (.mk name type none)
  | .mk name type (some value) => do
    let t ← Param.bareText (.mk name type none)
    return t ++ "=" ++ (← value.defaultText)

/-- The parts of a signature between its parentheses. -/
def Params.parts : Params → Except PrintFault (List String)
  | .mk positional regular rest named namedRest => do
    let ps ← positional.mapM Param.bareText
    let slash := if positional.isEmpty then [] else ["/"]
    let rs ← regular.mapM Param.fullText
    let star ← match rest with
      | some p => do pure ["*" ++ (← p.bareText)]
      | none => pure (if named.isEmpty then [] else ["*"])
    let ns ← named.mapM Param.fullText
    let last ← match namedRest with
      | some p => do pure ["**" ++ (← p.bareText)]
      | none => pure []
    return ps ++ slash ++ rs ++ star ++ ns ++ last

/-- The signature of a function. -/
def FunctionDef.signature (f : FunctionDef) : Printed := do
  let parts ← f.params.parts
  let inner := "(" ++ ", ".intercalate parts ++ ")"
  match f.returns with
  | none => return inner
  | some e => return inner ++ " -> " ++ (← e.annotationText)

end Docsmith.Source
