-- SUMMARY: Taking values apart, with the fault that each wrong use gives.
import Docsmith.Fault
import Docsmith.Text.Lines

/-!
# Access

Documentation data may come from a file that anyone has edited, so every access
can fail: a key may be missing, or a value may be of the wrong kind.
-/

namespace Docsmith.Value

/-- The entries of a value that must be a dictionary, when a part of it is asked for. -/
def entries : Value → Answer Entries
  | .dict es => .ok es
  | _ => .error .noMember

/-- The value under a text, or `none` if it is missing. -/
def find (v : Value) (key : String) : Answer (Option Value) := do
  return (← v.entries).getText? key

/-- The value under a text, or a default if it is missing. -/
def getD (v : Value) (key : String) (default : Value) : Answer Value := do
  return ((← v.entries).getText? key).getD default

/-- The value under a text, which must be there. -/
def field (v : Value) (key : String) : Answer Value :=
  match v with
  | .dict es => match Entries.getText? es key with
    | some x => .ok x
    | Option.none => .error (.missingKey (.str key))
  | _ => .error .wrongKind

/-- The items that a loop over the value visits. -/
def items : Value → Answer (List Value)
  | .list xs => .ok xs
  | .tuple xs => .ok xs
  | .dict es => .ok (es.map (·.1))
  | .str s => .ok (s.toList.map fun c => .str (String.ofList [c]))
  | .bytes bs => .ok (bs.map fun b => .int b.toNat)
  | _ => .error .wrongKind

/-- The items under a text; a missing one has no items. -/
def itemsOf (v : Value) (key : String) : Answer (List Value) := do
  (← v.getD key (.list [])).items

/-- The size of a sequence, a dictionary or a text. -/
def size : Value → Answer Nat
  | .list xs => .ok xs.length
  | .tuple xs => .ok xs.length
  | .dict es => .ok es.length
  | .str s => .ok s.length
  | .bytes bs => .ok bs.length
  | _ => .error .wrongKind

/-- The text that a value must be, when it is joined to other texts. -/
def needText : Value → Answer String
  | .str s => .ok s
  | _ => .error .wrongKind

/-- The text that a value must be, when a part of it is asked for. -/
def asText : Value → Answer String
  | .str s => .ok s
  | _ => .error .noMember

/-- The value, which must be fit to be a key. -/
def asKey (v : Value) : Answer Value := if v.isKey then .ok v else .error .wrongKind

/-- Two sequences of one kind in a row. -/
def append : Value → Value → Answer Value
  | .list xs, .list ys => .ok (.list (xs ++ ys))
  | .tuple xs, .tuple ys => .ok (.tuple (xs ++ ys))
  | .str s, .str t => .ok (.str (s ++ t))
  | _, _ => .error .wrongKind

/-- The value holds a text: as a key, as an item or as a part of a text. -/
def holds (v : Value) (key : String) : Answer Bool :=
  match v with
  | .dict es => .ok (Entries.getText? es key).isSome
  | .list xs | .tuple xs => .ok (xs.any (·.same (.str key)))
  | .str s => .ok (Text.contains key.toList s.toList)
  | _ => .error .wrongKind

/-- The item at a position of a sequence, or the character of a text. -/
def itemAt (v : Value) (i : Nat) : Answer Value :=
  match v with
  | .list xs | .tuple xs => match xs[i]? with
    | some x => .ok x
    | Option.none => .error .badPosition
  | .str s => match s.toList[i]? with
    | some c => .ok (.str (String.ofList [c]))
    | Option.none => .error .badPosition
  | .dict es => match Entries.get? es (.int i) with
    | some x => .ok x
    | Option.none => .error (.missingKey (.int i))
  | _ => .error .wrongKind

end Docsmith.Value
