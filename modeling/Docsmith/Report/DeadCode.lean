-- SUMMARY: Functions and methods that nothing calls.
import Docsmith.Report.CallMap

/-!
# Dead code

A function, endpoint or method is reported when neither its name nor its path is
among the callees of the project. Private names, decorated ones and the usual
entry points are not reported, nor are functions whose names start like tests.
-/

namespace Docsmith.Report

/-- Names that are called from outside. -/
def entryPoints : List String := [
  "__init__", "__main__", "main", "__str__", "__repr__", "__eq__", "__hash__", "__len__",
  "__iter__", "__next__", "__enter__", "__exit__", "__call__", "__getattr__", "__setattr__",
  "__delattr__", "__getitem__", "__setitem__", "__contains__", "__bool__"]

/-- The name is private or an entry point. -/
def isEntryName (name : String) : Bool := name.startsWith "_" || entryPoints.contains name

/-- The value is among the callees. -/
def isCalled (callees : List Value) (v : Value) : Answer Bool := do
  let key ← v.asKey
  return callees.any (·.same key)

/-- An unused item as data. -/
def unused (path name kind module : Value) : Value := .object [
  ("full_path", path), ("name", name), ("doc_type", kind), ("module", module)]

/-- A function that nothing calls. -/
def deadFunction? (callees : List Value) (f : Value) : Answer (Option Value) := do
  let name ← f.field "name"
  let path ← f.getD "full_path" name
  let text ← name.asText
  if isEntryName text then return none
  if (← partOf f "decorators").isTrue || text.startsWith "test" then return none
  if ← isCalled callees path then return none
  if ← isCalled callees name then return none
  return some (unused path name (← f.getD "doc_type" (.str "function")) (← f.getD "module" (.str "")))

/-- A method that nothing calls. -/
def deadMethod? (callees : List Value) (cls method : Value) : Answer (Option Value) := do
  let name ← method.field "name"
  if isEntryName (← name.asText) then return none
  if (← partOf method "decorators").isTrue then return none
  let path ← methodPath cls method
  if (← isCalled callees path) || (← isCalled callees name) then return none
  return some (unused path name (.str "method") (← cls.getD "module" (.str "")))

/-- The methods of a class that nothing calls. -/
def deadMethods (callees : List Value) (cls : Value) : Answer (List Value) := do
  return ((← (← cls.itemsOf "methods").mapM (deadMethod? callees cls)).filterMap id)

/-- The functions, endpoints and methods that nothing calls. -/
def deadCode (data : Value) : Answer (List Value) := do
  let callees ← (← (← data.getD "called_by" (.dict [])).items).mapM Value.asKey
  let functions ← (← data.itemsOf "functions").mapM (deadFunction? callees)
  let endpoints ← (← data.itemsOf "api_endpoints").mapM (deadFunction? callees)
  let methods ← (← data.itemsOf "classes").mapM (deadMethods callees)
  return functions.filterMap id ++ endpoints.filterMap id ++ methods.flatten

/-- The notes about open work of all modules. -/
def openWork (data : Value) : Answer (List Value) := do
  return (← (← data.itemsOf "modules").mapM fun m => m.itemsOf "todos").flatten

end Docsmith.Report
