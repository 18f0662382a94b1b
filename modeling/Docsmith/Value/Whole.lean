-- SUMMARY: The whole number that a value stands for.
import Docsmith.Fault
import Docsmith.Text.Digit
import Docsmith.Text.Strip

/-!
# Whole numbers

A number stands for itself without its fraction, and a text for the numeral that
it holds: decimal digits of any script with single underscores between them, a
sign in front, and white space around.
-/

namespace Docsmith.Value

/-- The value of decimal digits with single underscores between them. `found` is the value of
    the digits so far; `isOpen` tells that a digit must follow. -/
def digitsFrom? (found : Nat) (isOpen : Bool) : List Char → Option Nat
  | [] => if isOpen then Option.none else some found
  | c :: cs =>
    if c == '_' then if isOpen then Option.none else digitsFrom? found true cs
    else match Text.decimalValue? c with
      | some d => digitsFrom? (10 * found + d) false cs
      | Option.none => Option.none

/-- The whole number that a text is the numeral of. -/
def numeral? (cs : List Char) : Option Int :=
  match Text.strip cs with
  | '-' :: ds => (digitsFrom? 0 true ds).map fun n => -(n : Int)
  | '+' :: ds => (digitsFrom? 0 true ds).map Int.ofNat
  | ds => (digitsFrom? 0 true ds).map Int.ofNat

/-- The whole number that a value stands for. -/
def whole : Value → Answer Int
  | .int n => .ok n
  | .bool b => .ok (if b then 1 else 0)
  | .float x =>
    match Decimal.truncate? x with
    | some n => .ok n
    | Option.none => .error (if x.isNaN then .noWholePart else .tooLarge)
  | .str s =>
    match numeral? s.toList with
    | some n => .ok n
    | Option.none => .error (.notANumeral (.str s))
  | .bytes bs =>
    match numeral? (bs.map fun b => Char.ofNat b.toNat) with
    | some n => .ok n
    | Option.none => .error (.notANumeral (.bytes bs))
  | _ => .error .wrongKind

end Docsmith.Value
