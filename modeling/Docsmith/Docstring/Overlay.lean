-- SUMMARY: Metadata laid over a documentation text.
import Docsmith.Docstring.Basic
import Docsmith.Text.Letter
import Docsmith.Value.Access
import Docsmith.Value.Whole

/-!
# Metadata

Metadata replaces what a documentation text says, key by key. Every key has a
short form, where a text stands for a description, and a long form, where a
dictionary names the parts. Values of other forms are passed over.
-/

namespace Docsmith.Docstring

/-- The value under a text, or a default. -/
def partD (es : Entries) (key : String) (default : Value) : Value :=
  (es.getText? key).getD default

/-- The argument that an entry describes. -/
def argOfEntry? (entry : Value × Value) : Option Arg :=
  match entry.2 with
  | .str s => some { name := entry.1.text, type := .str "", description := .str s }
  | .dict es => some
    { name := entry.1.text
      type := partD es "type" (.str "")
      description := partD es "description" (.str "")
      default := partD es "default" .none
      required := partD es "required" .none }
  | _ => none

/-- The field of a response that an entry describes. -/
def fieldOfEntry? (entry : Value × Value) : Option Arg :=
  match entry.2 with
  | .str s => some { name := entry.1.text, type := .str "", description := .str s }
  | .dict es => some
    { name := entry.1.text
      type := partD es "type" (.str "")
      description := partD es "description" (.str "") }
  | _ => none

/-- The response that an entry describes. -/
def responseOf? (entry : Value × Value) : Answer (Option Response) :=
  match entry.2 with
  | .str s => do return some { status := ← entry.1.whole, description := .str s }
  | .dict es => do
    let fields ← (partD es "fields" (.dict [])).entries
    let status ← entry.1.whole
    return some
      { status := status
        description := partD es "description" (.str "")
        fields := fields.filterMap fieldOfEntry? }
  | _ => .ok none

/-- The responses that entries describe. -/
def responsesOfEntries : Entries → Answer (List Response)
  | [] => .ok []
  | e :: es => do
    let r ← responseOf? e
    return r.toList ++ (← responsesOfEntries es)

/-- The header that an entry describes. -/
def headerOfEntry? (entry : Value × Value) : Option Header :=
  match entry.2 with
  | .str s => some { name := entry.1.text, description := .str s }
  | .dict es => some
    { name := entry.1.text
      description := partD es "description" (.str "")
      required := (partD es "required" (.bool false)).isTrue
      sample := partD es "example" (.str "") }
  | _ => none

/-- The event field that an entry describes. -/
def payloadFieldOfEntry? (entry : Value × Value) : Option PayloadField :=
  match entry.2 with
  | .str s => some ⟨entry.1.text, .str "", .str s⟩
  | .dict es => some
    ⟨entry.1.text, partD es "type" (.str ""), partD es "description" (.str "")⟩
  | _ => none

/-- The setting that an entry describes. -/
def configFieldOfEntry? (entry : Value × Value) : Option ConfigField :=
  match entry.2 with
  | .str s => some { name := entry.1.text, type := .str "", description := .str s }
  | .dict es => some
    { name := entry.1.text
      type := partD es "type" (.str "")
      description := partD es "description" (.str "")
      default := partD es "default" .none
      required := (partD es "required" (.bool false)).isTrue
      envVar := partD es "env" (.str "") }
  | _ => none

/-- The returned value that a value describes; anything else leaves the old one. -/
def returnOfValue (old : Option Return) : Value → Option Return
  | .str s => some ⟨.str "", .str s⟩
  | .dict es => some ⟨partD es "type" (.str ""), partD es "description" (.str "")⟩
  | _ => old

/-- A value that must be a dictionary to have an effect. -/
def onEntries (v : Value) (f : Entries → Docstring) (d : Docstring) : Docstring :=
  match v with
  | .dict es => f es
  | _ => d

/-- A value that must be a list to have an effect. -/
def onItems (v : Value) (f : List Value → Docstring) (d : Docstring) : Docstring :=
  match v with
  | .list xs => f xs
  | _ => d

/-- What the value under a metadata key does to a documentation text. -/
abbrev Setter := Docstring → Value → Answer Docstring

/-- The metadata keys with what they do. Each one sets a single part. -/
def setters : List (String × Setter) := [
  ("description", fun d v => .ok (if v.isTrue then { d with summary := v.text } else d)),
  ("method", fun d v => .ok { d with method := String.ofList (Text.upper v.text.toList) }),
  ("path", fun d v => .ok { d with path := v.text }),
  ("trigger", fun d v => .ok { d with trigger := v.text }),
  ("doc_type", fun d v => .ok { d with kind := (Kind.ofValue? v).getD d.kind }),
  ("args", fun d v => .ok (onEntries v (fun es => { d with args := es.filterMap argOfEntry? }) d)),
  ("returns", fun d v => .ok { d with returns := returnOfValue d.returns v }),
  ("raises", fun d v => .ok (onEntries v (fun es =>
    { d with raises := es.map fun (k, v) => ⟨k.text, v.text⟩ }) d)),
  ("examples", fun d v => .ok (onItems v (fun xs => { d with examples := xs.map Value.text }) d)),
  ("notes", fun d v => .ok (onItems v (fun xs => { d with notes := xs.map Value.text }) d)),
  ("attributes", fun d v => .ok (onEntries v (fun es =>
    { d with attributes := es.filterMap argOfEntry? }) d)),
  ("path_params", fun d v => .ok (onEntries v (fun es =>
    { d with pathParams := es.filterMap argOfEntry? }) d)),
  ("query_params", fun d v => .ok (onEntries v (fun es =>
    { d with queryParams := es.filterMap argOfEntry? }) d)),
  ("request_body", fun d v => .ok (onEntries v (fun es =>
    { d with requestBody := es.filterMap argOfEntry? }) d)),
  ("responses", fun d v =>
    match v with
    | .dict es => do return { d with responses := ← responsesOfEntries es }
    | _ => .ok d),
  ("headers", fun d v => .ok (onEntries v (fun es =>
    { d with headers := es.filterMap headerOfEntry? }) d)),
  ("payload", fun d v => .ok (onEntries v (fun es =>
    { d with payload := es.filterMap payloadFieldOfEntry? }) d)),
  ("config_fields", fun d v => .ok (onEntries v (fun es =>
    { d with configFields := es.filterMap configFieldOfEntry? }) d))]

/-- Apply those setters whose keys the metadata has, in order. -/
def overlayWith (info : Entries) : List (String × Setter) → Docstring → Answer Docstring
  | [], d => .ok d
  | (key, set) :: rest, d => match info.getText? key with
    | none => overlayWith info rest d
    | some v => do overlayWith info rest (← set d v)

/-- Lay metadata over a documentation text. -/
def overlay (d : Docstring) (info : Entries) : Answer Docstring := overlayWith info setters d

end Docsmith.Docstring
