-- SUMMARY: Sets of code points.

/-!
# Sets of code points

Small character classes of the Unicode standard are lists of inclusive ranges. Large
ones are given by the lengths of their gaps and runs, in turn, from code point zero on.
-/

namespace Docsmith.Text

/-- An inclusive range of code points. -/
abbrev Range := Nat × Nat

/-- Some range of the list holds the code point. -/
def covers (ranges : List Range) (n : Nat) : Bool :=
  ranges.any fun r => Nat.ble r.1 n && Nat.ble n r.2

/-- The code point is in a run of the set with the given gaps and runs. -/
def fills : List Nat → Nat → Bool
  | gap :: run :: rest, n =>
    Nat.ble gap n && (Nat.blt n (gap + run) || fills rest (n - (gap + run)))
  | _, _ => false

end Docsmith.Text
