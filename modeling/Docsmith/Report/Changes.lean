-- SUMMARY: What changed between two builds.
import Docsmith.Value.Access
import Docsmith.Value.Order

/-!
# Changes

Functions, endpoints, classes and methods are indexed by their paths; of items
with the same path the last one counts. The two indexes are compared path by
path: an item is new, removed, or has a changed signature or body.
-/

namespace Docsmith.Report

/-- What the index holds about an item. -/
structure IndexEntry where
  signatureHash : Value
  bodyHash : Value
  name : Value
  kind : Value

/-- Items by path, in the order in which the paths came. -/
abbrev Index := Keyed IndexEntry

/-- What the index holds about an item of some kind. -/
def IndexEntry.ofItem (kind : String) (item : Value) : Answer IndexEntry := do
  let signatureHash ← item.getD "signature_hash" (.str "")
  let bodyHash ← item.getD "body_hash" (.str "")
  let name ← item.field "name"
  return ⟨signatureHash, bodyHash, name, ← item.getD "doc_type" (.str kind)⟩

/-- Add an item under its path. -/
def addItem (kind : String) (index : Index) (item : Value) : Answer Index := do
  let e ← IndexEntry.ofItem kind item
  return index.put (← (← item.field "full_path").asKey) e

/-- Add a method of a class under the path of the class and its name. -/
def addMethod (cls : Value) (index : Index) (method : Value) : Answer Index := do
  let path := (← cls.field "full_path").text ++ "." ++ (← method.field "name").text
  return index.put (.str path) (← IndexEntry.ofItem "function" method)

/-- Add a class and its methods. -/
def addClass (index : Index) (cls : Value) : Answer Index := do
  let index ← addItem "class" index cls
  (← cls.itemsOf "methods").foldlM (addMethod cls) index

/-- The index of the data of a build. -/
def indexOf (data : Value) : Answer Index := do
  let index ← (← data.itemsOf "functions").foldlM (addItem "function") []
  let index ← (← data.itemsOf "api_endpoints").foldlM (addItem "api") index
  (← data.itemsOf "classes").foldlM addClass index

/-- The kinds of changes. -/
inductive ChangeKind where
  | new
  | removed
  | signature
  | body
  | signatureAndBody
deriving Repr, DecidableEq

/-- The name of a kind of change. -/
def ChangeKind.name : ChangeKind → String
  | .new => "new"
  | .removed => "removed"
  | .signature => "signature"
  | .body => "body"
  | .signatureAndBody => "signature+body"

/-- A change of the item with a path. -/
structure Change where
  path : Value
  name : Value
  kind : Value
  change : ChangeKind

/-- How an item that is in both indexes changed. -/
def difference? (old new : IndexEntry) : Option ChangeKind :=
  match !old.signatureHash.same new.signatureHash, !old.bodyHash.same new.bodyHash with
  | true, true => some .signatureAndBody
  | true, false => some .signature
  | false, true => some .body
  | false, false => none

/-- How the item with a path changed. -/
def changeAt? (old new : Index) (path : Value) : Option Change :=
  match old.get? path, new.get? path with
  | none, some n => some ⟨path, n.name, n.kind, .new⟩
  | some o, none => some ⟨path, o.name, o.kind, .removed⟩
  | some o, some n => (difference? o n).map fun c => ⟨path, n.name, n.kind, c⟩
  | none, none => none

/-- The paths of both indexes, each of them once. -/
def allPaths (old new : Index) : List Value :=
  old.map (·.1) ++ (new.map (·.1)).filter fun p => (old.get? p).isNone

/-- What changed between the data of two builds, by path. -/
def changes (old new : Value) : Answer (List Change) := do
  let old ← indexOf old
  let new ← indexOf new
  return (← Value.sorted (allPaths old new)).filterMap (changeAt? old new)

/-- A change as data. -/
def Change.data (c : Change) : Value := .object [
  ("full_path", c.path), ("name", c.name), ("doc_type", c.kind), ("change", .str c.change.name)]

end Docsmith.Report
