-- SUMMARY: Whether a colour is light.
import Docsmith.Text.Digit
import Docsmith.Text.Strip

/-!
# Colours

A colour is given by three or six hexadecimal digits after any number of number
signs. It is light when its luminance is above one half.
-/

namespace Docsmith.Site

/-- The value of a hexadecimal digit; decimal digits of every script count. -/
def hexValue? (c : Char) : Option Nat :=
  if 'a' ≤ c && c ≤ 'f' then some (c.toNat - 87)
  else if 'A' ≤ c && c ≤ 'F' then some (c.toNat - 55)
  else Text.decimalValue? c

/-- The value of hexadecimal digits with single underscores between them. -/
def hexDigitsFrom? (found : Nat) (isOpen : Bool) : List Char → Option Nat
  | [] => if isOpen then none else some found
  | c :: cs =>
    if c == '_' then if isOpen then none else hexDigitsFrom? found true cs
    else match hexValue? c with
      | some d => hexDigitsFrom? (16 * found + d) false cs
      | none => none

/-- The number that hexadecimal digits with a sign stand for. -/
def hexNumber? (cs : List Char) : Option Int :=
  match Text.strip cs with
  | '-' :: ds => (hexDigitsFrom? 0 true ds).map fun n => -(n : Int)
  | '+' :: ds => (hexDigitsFrom? 0 true ds).map Int.ofNat
  | ds => (hexDigitsFrom? 0 true ds).map Int.ofNat

/-- An integer as a floating-point number. -/
def toFloat (n : Int) : Float := if n < 0 then -(n.natAbs.toFloat) else n.natAbs.toFloat

/-- The luminance of a colour with the given parts, between zero and one. -/
def luminance (r g b : Int) : Float :=
  (0.299 * toFloat r + 0.587 * toFloat g + 0.114 * toFloat b) / 255.0

/-- The colour is light; what is no colour is not. -/
def isLight (color : String) : Bool :=
  let cs := color.toList.dropWhile (· == '#')
  let cs := if cs.length == 3 then cs.flatMap fun c => [c, c] else cs
  match hexNumber? (cs.take 2), hexNumber? ((cs.drop 2).take 2), hexNumber? ((cs.drop 4).take 2) with
  | some r, some g, some b => 0.5 < luminance r g b
  | _, _, _ => false

end Docsmith.Site
