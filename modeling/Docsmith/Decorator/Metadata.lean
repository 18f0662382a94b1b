-- SUMMARY: Documentation metadata given by a decorator.
import Docsmith.Source.Denotation

/-!
# Metadata

The first call of `doc` among the decorators of a function gives metadata: its
named arguments with the values that they denote.
-/

namespace Docsmith.Decorator

open Source

/-- The expression names the decorator that gives metadata. -/
def isDoc : Expr → Bool
  | .name "doc" => true
  | .attribute (.name "cacaodocs") "doc" => true
  | _ => false

/-- The values of named arguments; mappings to copy are passed over. -/
def argumentsFrom (found : Entries) : List Keyword → Answer Entries
  | [] => .ok found
  | .mk none _ :: ks => argumentsFrom found ks
  | .mk (some name) value :: ks => do
    let v ← value.value
    argumentsFrom (found.putText name v) ks

/-- The metadata that the decorators give; nothing if none of them does. -/
def metadataOf : List Expr → Answer Entries
  | [] => .ok []
  | .call func _ keywords :: ds => if isDoc func then argumentsFrom [] keywords else metadataOf ds
  | _ :: ds => metadataOf ds

/-- The metadata of a function. -/
def metadata (f : FunctionDef) : Answer Entries := metadataOf f.decorators

end Docsmith.Decorator
