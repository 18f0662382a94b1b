-- SUMMARY: Who calls what.
import Docsmith.Report.Coverage

/-!
# The call map

For every callee, the paths of the functions, endpoints and methods that call
it, once for every time that it is listed among their calls.
-/

namespace Docsmith.Report

/-- A caller and a callee. -/
structure Call where
  caller : Value
  callee : Value

/-- The calls of an item with a path. -/
def callsOf (caller item : Value) : Answer (List Call) := do
  (← item.itemsOf "calls").mapM fun callee => do return ⟨caller, ← callee.asKey⟩

/-- The path of a method. -/
def methodPath (cls method : Value) : Answer Value := do
  let path ← pathOf cls
  return .str (path.text ++ "." ++ (← method.field "name").text)

/-- The calls of a function. -/
def functionCalls (f : Value) : Answer (List Call) := do callsOf (← pathOf f) f

/-- The calls of a method. -/
def methodCalls (cls method : Value) : Answer (List Call) := do
  callsOf (← methodPath cls method) method

/-- The calls of the methods of a class. -/
def classCalls (cls : Value) : Answer (List Call) := do
  return (← (← cls.itemsOf "methods").mapM (methodCalls cls)).flatten

/-- All calls of a project. -/
def allCalls (data : Value) : Answer (List Call) := do
  let functions ← (← data.itemsOf "functions").mapM functionCalls
  let endpoints ← (← data.itemsOf "api_endpoints").mapM functionCalls
  let classes ← (← data.itemsOf "classes").mapM classCalls
  return functions.flatten ++ endpoints.flatten ++ classes.flatten

/-- Add a call to the callers of its callee. -/
def addCall : List (Value × List Value) → Call → List (Value × List Value)
  | [], c => [(c.callee, [c.caller])]
  | (k, callers) :: rest, c =>
    if k.same c.callee then (k, callers ++ [c.caller]) :: rest else (k, callers) :: addCall rest c

/-- The callers of every callee, both in increasing order. -/
def calledBy (data : Value) : Answer (List (Value × List Value)) := do
  let groups ← Value.sortedBy (·.1) ((← allCalls data).foldl addCall [])
  groups.mapM fun (k, callers) => do return (k, ← Value.sorted callers)

/-- The call map as data. -/
def calledByData (groups : List (Value × List Value)) : Value :=
  .dict (groups.map fun (k, callers) => (k, .list callers))

end Docsmith.Report
