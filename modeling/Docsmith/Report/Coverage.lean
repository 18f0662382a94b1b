-- SUMMARY: How completely a project is documented.
import Docsmith.Decimal.Round
import Docsmith.Signature.Reader
import Docsmith.Value.Access
import Docsmith.Value.Order

/-!
# Coverage

Every function, endpoint and class gets a score up to one hundred. Parameters
count as documented when the documentation lists an argument of the same name.
-/

namespace Docsmith.Report

/-- What is checked of a function. -/
structure FunctionChecks where
  hasDocstring : Bool
  argsDocumented : Nat
  argsTotal : Nat
  argsMissing : List String
  hasReturns : Bool
  hasReturnAnnotation : Bool
  hasExamples : Bool

/-- The part of a whole; an empty whole is complete. -/
def ratio (part whole : Nat) : Float := if whole == 0 then 1.0 else part.toFloat / whole.toFloat

/-- The score of a function: documentation and arguments thirty-five each, the returned value
    twenty, examples ten. -/
def FunctionChecks.score (c : FunctionChecks) : Float :=
  let s : Float := if c.hasDocstring then 35.0 else 0.0
  let s := s + 35.0 * ratio c.argsDocumented c.argsTotal
  let s := if c.hasReturns then s + 20.0 else s
  let s := if c.hasExamples then s + 10.0 else s
  Decimal.roundTo 1 s

/-- What is checked of a class. -/
structure ClassChecks where
  hasDocstring : Bool
  hasAttributes : Bool
  methodsDocumented : Nat
  methodsTotal : Nat

/-- The score of a class: documentation forty, attributes twenty-five, methods thirty-five. -/
def ClassChecks.score (c : ClassChecks) : Float :=
  let s : Float := if c.hasDocstring then 40.0 else 0.0
  let s := if c.hasAttributes then s + 25.0 else s
  Decimal.roundTo 1 (s + 35.0 * ratio c.methodsDocumented c.methodsTotal)

/-- A scored item. -/
structure Scored where
  path : Value
  name : Value
  kind : Value
  score : Float
  checks : Value

/-- The parameters of a signature; a missing one has none. -/
def signatureParams (signature : Value) : Answer (List Signature.Param) :=
  if signature.isTrue then do return Signature.params (← signature.asText) else .ok []

/-- A signature shows a returned type. -/
def showsReturn (signature : Value) : Answer Bool :=
  match signature with
  | .str s => .ok (Text.contains ['-', '>'] s.toList)
  | .list xs => .ok (xs.any (·.same (.str "->")))
  | .dict es => .ok (es.any (·.1.same (.str "->")))
  | _ => .error .wrongKind

/-- The names of the documented arguments. -/
def documentedNames (docstring : Value) : Answer (List Value) := do
  (← docstring.itemsOf "args").mapM fun a => do (← a.field "name").asKey

/-- A part of a value that may be missing. -/
def partOf (v : Value) (key : String) : Answer Value := v.getD key .none

/-- Check a function. -/
def functionChecks (f : Value) : Answer FunctionChecks := do
  let docstring ← f.getD "docstring" (.dict [])
  let signature ← f.getD "signature" (.str "")
  let names := ((← signatureParams signature).map (·.name)).eraseDups
  let documented ← documentedNames docstring
  let isDocumented (n : String) : Bool := documented.any (·.same (.str n))
  let hasDocstring := (← partOf docstring "summary").isTrue
  let hasReturns := !(← partOf docstring "returns").isNone
  let hasExamples := (← partOf docstring "examples").isTrue
  return {
    hasDocstring := hasDocstring
    argsDocumented := (names.filter isDocumented).length
    argsTotal := names.length
    argsMissing := Text.sorted (names.filter fun n => !isDocumented n)
    hasReturns := hasReturns
    hasReturnAnnotation := ← showsReturn signature
    hasExamples := hasExamples }

/-- The checks of a function as data. -/
def FunctionChecks.data (c : FunctionChecks) : Value := .object [
  ("has_docstring", .bool c.hasDocstring), ("args_documented", .int c.argsDocumented),
  ("args_total", .int c.argsTotal), ("args_missing", .texts c.argsMissing),
  ("has_returns", .bool c.hasReturns), ("has_return_annotation", .bool c.hasReturnAnnotation),
  ("has_examples", .bool c.hasExamples)]

/-- The path of an item, or else its name. The name must be there in any case. -/
def pathOf (item : Value) : Answer Value := do
  let name ← item.field "name"
  item.getD "full_path" name

/-- Score a function. -/
def scoreFunction (f : Value) : Answer Scored := do
  let checks ← functionChecks f
  let path ← pathOf f
  return ⟨path, ← f.field "name", ← f.getD "doc_type" (.str "function"), checks.score, checks.data⟩

/-- Check a class. -/
def classChecks (c : Value) : Answer ClassChecks := do
  let docstring ← c.getD "docstring" (.dict [])
  let hasDocstring := (← partOf docstring "summary").isTrue
  let hasAttributes := (← partOf docstring "attributes").isTrue
  let methods ← c.getD "methods" (.list [])
  let documented ← (← methods.items).filterM fun m => do
    return (← partOf (← m.getD "docstring" (.dict [])) "summary").isTrue
  return ⟨hasDocstring, hasAttributes, documented.length, ← methods.size⟩

/-- The checks of a class as data. -/
def ClassChecks.data (c : ClassChecks) : Value := .object [
  ("has_docstring", .bool c.hasDocstring), ("has_attributes", .bool c.hasAttributes),
  ("methods_documented", .int c.methodsDocumented), ("methods_total", .int c.methodsTotal)]

/-- Score a class. -/
def scoreClass (c : Value) : Answer Scored := do
  let checks ← classChecks c
  let path ← pathOf c
  return ⟨path, ← c.field "name", .str "class", checks.score, checks.data⟩

/-- The scores of all functions, endpoints and classes, in this order. -/
def scores (data : Value) : Answer (List Scored) := do
  let functions ← (← data.itemsOf "functions").mapM scoreFunction
  let endpoints ← (← data.itemsOf "api_endpoints").mapM scoreFunction
  let classes ← (← data.itemsOf "classes").mapM scoreClass
  return functions ++ endpoints ++ classes

/-- A scored item as data. -/
def Scored.data (s : Scored) : Value := .object [
  ("full_path", s.path), ("name", s.name), ("doc_type", s.kind), ("score", .float s.score),
  ("checks", s.checks)]

/-- The mean score; a project without items has the score zero. -/
def projectScore (items : List Scored) : Value :=
  if items.isEmpty then .int 0
  else
    let total := items.foldl (fun t s => t + s.score) (0.0 : Float)
    .float (Decimal.roundTo 1 (total / items.length.toFloat))

/-- The coverage of a project as data. -/
def coverage (data : Value) : Answer Value := do
  let items ← scores data
  return .object [
    ("project_score", projectScore items), ("total_items", .int items.length),
    ("fully_documented", .int (items.filter fun s => s.score == 100.0).length),
    ("undocumented", .int (items.filter fun s => s.score == 0.0).length),
    ("items", .list (items.map Scored.data))]

end Docsmith.Report
