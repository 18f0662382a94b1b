-- SUMMARY: Reading decimal notation as a binary floating-point number.

/-!
# Reading decimals

A decimal `digits · 10^exponent` is rounded to the nearest binary64 number, ties
to even. Exponents far outside the range of binary64 are decided at once.
-/

namespace Docsmith.Decimal

/-- Positive infinity. -/
def infinity : Float := Float.ofBits 0x7FF0000000000000

/-- A quiet not-a-number. -/
def notANumber : Float := Float.ofBits 0x7FF8000000000000

/-- The value of a sequence of decimal digits. -/
def digitsValue (ds : List Char) : Nat :=
  ds.foldl (fun n c => 10 * n + (c.toNat - 48)) 0

/-- The binary64 number nearest to `n · 10^e`. -/
def nearest (n : Nat) (e : Int) : Float :=
  if n == 0 then 0.0
  else
    let size : Int := (Nat.toDigits 10 n).length + e
    if 400 < size then infinity
    else if size < -400 then 0.0
    else match e with
      | .ofNat k => Float.ofScientific n false k
      | .negSucc k => Float.ofScientific n true (k + 1)

/-- Decimal notation cut into whole digits, fraction digits and exponent. -/
structure Numeral where
  whole : List Char
  frac : List Char
  exponent : Int

/-- The number that the notation stands for. -/
def Numeral.value (d : Numeral) : Float :=
  nearest (digitsValue (d.whole ++ d.frac)) (d.exponent - d.frac.length)

/-- Cut an unsigned decimal text; the caller has checked its form. -/
def Numeral.ofChars (cs : List Char) : Numeral :=
  let whole := cs.takeWhile Char.isDigit
  let rest := cs.dropWhile Char.isDigit
  let (frac, rest) := match rest with
    | '.' :: r => (r.takeWhile Char.isDigit, r.dropWhile Char.isDigit)
    | r => ([], r)
  let exponent : Int := match rest with
    | _ :: '-' :: ds => -(digitsValue (ds.takeWhile Char.isDigit) : Int)
    | _ :: '+' :: ds => digitsValue (ds.takeWhile Char.isDigit)
    | _ :: ds => digitsValue (ds.takeWhile Char.isDigit)
    | [] => 0
  ⟨whole, frac, exponent⟩

end Docsmith.Decimal
