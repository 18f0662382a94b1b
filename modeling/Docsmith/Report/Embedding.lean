-- SUMMARY: Chunks with the vectors that a model gives them.
import Docsmith.Value.Access

/-!
# Embeddings

A model turns the texts of chunks into vectors. Without a model, without chunks,
or when anything about the answer of the model is amiss, there are no embeddings.
-/

namespace Docsmith.Report

/-- What a model answers: nothing because it is not there, a failure, or some value. -/
inductive ModelAnswer where
  | missing
  | failure
  | answer (v : Value)

/-- A chunk with its vector. -/
def embedded (chunk vector : Value) : Answer Value := do
  return .object [
    ("text", ← chunk.field "text"), ("source", ← chunk.field "source"),
    ("type", ← chunk.field "type"), ("embedding", vector)]

/-- Give every chunk the vector at its position; `i` is the position of the first chunk. -/
def embedAll (vectors : Value) (i : Nat) : List Value → Answer (List Value)
  | [] => .ok []
  | c :: cs => do
    let e ← embedded c (← vectors.itemAt i)
    return e :: (← embedAll vectors (i + 1) cs)

/-- The embeddings of chunks that an answer of a model gives. -/
def embeddingsFrom (model : Value) (chunks : List Value) (answer : Value) : Answer Value := do
  let _ ← chunks.mapM fun c => c.field "text"
  let vectors ← answer.getD "embeddings" (.list [])
  if !vectors.isTrue then return .none
  let size ← (← vectors.itemAt 0).size
  let dimensions ← (← answer.getD "meta" (.dict [])).getD "dimensions" (.int size)
  return .object [
    ("model", model), ("dimensions", dimensions),
    ("chunks", .list (← embedAll vectors 0 chunks))]

/-- The embeddings of chunks; a missing value if there are none. -/
def embeddings (model : Value) (chunks : List Value) : ModelAnswer → Value
  | .missing => .none
  | .failure => .none
  | .answer v =>
    if chunks.isEmpty then .none
    else match embeddingsFrom model chunks v with
      | .ok e => e
      | .error _ => .none

end Docsmith.Report
