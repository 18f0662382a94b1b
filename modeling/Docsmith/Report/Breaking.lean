-- SUMMARY: Changes of signatures that break callers.
import Docsmith.Signature.Reader
import Docsmith.Value.Access
import Docsmith.Value.Order

/-!
# Breaking changes

For every function and endpoint of two builds whose signature changed, the
parameters of the two signatures are compared by name. A removed parameter and a
changed type break callers. An added parameter counts as optional: a signature
is read without distinguishing a missing default from an empty one.
-/

namespace Docsmith.Report

/-- What is compared of a function. -/
structure Callable where
  name : Value
  kind : Value
  params : List Signature.Param
  returnType : String
  signatureHash : Value

/-- Put a parameter by its name; a name that is there keeps its place. -/
def putParam : List Signature.Param → Signature.Param → List Signature.Param
  | [], p => [p]
  | q :: qs, p => if q.name == p.name then p :: qs else q :: putParam qs p

/-- The parameters by name. -/
def paramsByName (ps : List Signature.Param) : List Signature.Param := ps.foldl putParam []

/-- The parameter with a name. -/
def param? (ps : List Signature.Param) (name : String) : Option Signature.Param :=
  ps.find? fun p => p.name == name

/-- What is compared of an item. -/
def Callable.ofItem (item : Value) : Answer Callable := do
  let signature ← (← item.getD "signature" (.str "")).asText
  let name ← item.field "name"
  let kind ← item.getD "doc_type" (.str "function")
  let hash ← item.getD "signature_hash" (.str "")
  return ⟨name, kind, paramsByName (Signature.params signature), Signature.returnType signature, hash⟩

/-- Add an item under its path. -/
def addCallable (index : Keyed Callable) (item : Value) : Answer (Keyed Callable) := do
  let c ← Callable.ofItem item
  return index.put (← (← item.field "full_path").asKey) c

/-- The functions and endpoints of a build by path. -/
def callables (data : Value) : Answer (Keyed Callable) := do
  let index ← (← data.itemsOf "functions").foldlM addCallable []
  (← data.itemsOf "api_endpoints").foldlM addCallable index

/-- What changed in a signature. -/
inductive Detail where
  | removed (arg : String)
  | addedOptional (arg : String)
  | typeChanged (arg old new : String)
  | returnChanged (old new : String)
deriving Repr, DecidableEq

/-- The detail breaks callers. -/
def Detail.isBreaking : Detail → Bool
  | .addedOptional _ => false
  | _ => true

/-- The type of a parameter changed, if both signatures give one. -/
def typeChange? (new : List Signature.Param) (p : Signature.Param) : Option Detail :=
  match param? new p.name with
  | none => none
  | some q =>
    if !p.type.isEmpty && !q.type.isEmpty && p.type != q.type then
      some (.typeChanged p.name p.type q.type)
    else none

/-- What changed between two signatures. -/
def details (old new : Callable) : List Detail :=
  let gone := (old.params.filter fun p => (param? new.params p.name).isNone).map fun p =>
    Detail.removed p.name
  let added := (new.params.filter fun p => (param? old.params p.name).isNone).map fun p =>
    Detail.addedOptional p.name
  let returns :=
    if !old.returnType.isEmpty && !new.returnType.isEmpty && old.returnType != new.returnType then
      [Detail.returnChanged old.returnType new.returnType]
    else []
  gone ++ added ++ old.params.filterMap (typeChange? new.params) ++ returns

/-- What changed in the signature of the function with a path. -/
structure SignatureChange where
  path : Value
  name : Value
  kind : Value
  details : List Detail

/-- Some detail breaks callers. -/
def SignatureChange.isBreaking (c : SignatureChange) : Bool := c.details.any Detail.isBreaking

/-- What changed in the signature of an old function. -/
def signatureChange? (new : Keyed Callable) (old : Value × Callable) : Option SignatureChange :=
  match new.get? old.1 with
  | none => none
  | some n =>
    if old.2.signatureHash.same n.signatureHash then none
    else match details old.2 n with
      | [] => none
      | ds => some ⟨old.1, n.name, n.kind, ds⟩

/-- The changed signatures of two builds, by path. -/
def signatureChanges (old new : Value) : Answer (List SignatureChange) := do
  let old ← callables old
  let new ← callables new
  Value.sortedBy (·.path) (old.filterMap (signatureChange? new))

/-- A detail as data. -/
def Detail.data : Detail → Value
  | .removed arg => .object [("type", .str "arg_removed"), ("arg", .str arg), ("breaking", .bool true)]
  | .addedOptional arg => .object [
      ("type", .str "optional_arg_added"), ("arg", .str arg), ("breaking", .bool false)]
  | .typeChanged arg old new => .object [
      ("type", .str "type_changed"), ("arg", .str arg), ("from", .str old), ("to", .str new),
      ("breaking", .bool true)]
  | .returnChanged old new => .object [
      ("type", .str "return_type_changed"), ("from", .str old), ("to", .str new),
      ("breaking", .bool true)]

/-- A changed signature as data. -/
def SignatureChange.data (c : SignatureChange) : Value := .object [
  ("full_path", c.path), ("name", c.name), ("doc_type", c.kind),
  ("is_breaking", .bool c.isBreaking), ("details", .list (c.details.map Detail.data))]

end Docsmith.Report
