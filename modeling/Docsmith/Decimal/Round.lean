-- SUMMARY: Rounding to decimal places and to significant digits.
import Docsmith.Decimal.Read
import Docsmith.Decimal.Shortest

/-!
# Rounding

A number is rounded to the nearest decimal with so many places or so many
significant digits. A tie, which only an exact half is, goes to the even one.
-/

namespace Docsmith.Decimal

/-- The natural number nearest to a fraction; a tie goes to the even one. -/
def roundDiv (num den : Nat) : Nat :=
  let q := num / den
  let r := num % den
  if 2 * r < den || (2 * r == den && q % 2 == 0) then q else q + 1

/-- The number with `places` decimal places that is nearest to `x`. -/
def roundTo (places : Nat) (x : Float) : Float :=
  if x.isNaN || x.isInf then x
  else
    let (neg, v) := ofBits x.toBits
    let (num, den) := v.fraction
    let y := nearest (roundDiv (num * Nat.pow 10 places) den) (-places)
    if neg then -y else y

/-- The number with `digits` significant digits that is nearest to `x`. -/
def roundSignificant (digits : Nat) (x : Float) : Float :=
  if x.isNaN || x.isInf || x == 0.0 then x
  else
    let (neg, v) := ofBits x.toBits
    let (num, den) := v.fraction
    let e : Int := v.magnitude - digits
    let y := nearest (roundDiv (num * Nat.pow 10 (-e).toNat) (den * Nat.pow 10 e.toNat)) e
    if neg then -y else y

/-- A number written with `places` decimal places. -/
def fixed (places : Nat) (x : Float) : String :=
  if x.isNaN || x.isInf then number.write x
  else
    let (neg, v) := ofBits x.toBits
    let (num, den) := v.fraction
    let ds := Nat.toDigits 10 (roundDiv (num * Nat.pow 10 places) den)
    let ds := List.replicate (places + 1 - ds.length) '0' ++ ds
    let whole := ds.take (ds.length - places)
    let frac := if places == 0 then [] else '.' :: ds.drop (ds.length - places)
    String.ofList ((if neg then ['-'] else []) ++ whole ++ frac)

end Docsmith.Decimal
