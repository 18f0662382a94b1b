-- SUMMARY: Sorting values.
import Docsmith.Fault
import Docsmith.Text.Order

/-!
# Order of values

Texts are ordered by code points and numbers by size. Values of different kinds
cannot be sorted together.
-/

namespace Docsmith.Value

/-- The number that a value is, as a fraction of an integer and a positive natural. -/
def fraction? : Value → Option (Int × Nat)
  | .int n => some (n, 1)
  | .bool b => some (if b then 1 else 0, 1)
  | .float x =>
    if x.isNaN || x.isInf then Option.none
    else
      let (neg, v) := Decimal.ofBits x.toBits
      let (num, den) := v.fraction
      some (if neg then -(num : Int) else num, den)
  | _ => Option.none

/-- The text that a value is. -/
def text? : Value → Option String
  | .str s => some s
  | _ => Option.none

/-- The first number is not larger than the second. -/
def fractionLe (a b : Int × Nat) : Bool := a.1 * b.2 ≤ b.1 * a.2

/-- Sort items by keys that are all texts or all numbers. -/
def sortedBy (key : α → Value) (items : List α) : Answer (List α) :=
  if items.length ≤ 1 then .ok items
  else if items.all fun a => (key a).text?.isSome then
    .ok (items.mergeSort fun a b =>
      !decide (((key b).text?.getD "") < ((key a).text?.getD "")))
  else if items.all fun a => (key a).fraction?.isSome then
    .ok (items.mergeSort fun a b =>
      fractionLe ((key a).fraction?.getD (0, 1)) ((key b).fraction?.getD (0, 1)))
  else .error .wrongKind

/-- Sort values. -/
def sorted (vs : List Value) : Answer (List Value) := sortedBy id vs

end Docsmith.Value
