-- SUMMARY: One spelling for names that are written with different characters.
import Docsmith.Text.DecompositionTable
import Docsmith.Text.Range

/-!
# Normal form of names

Letters may be written in several ways: an accented letter as one character or as a letter with
a mark, a letter as its wide or bold variant. Names that differ only in this are the same name.
`normalName` takes all characters apart, orders the marks, and combines what can be combined.
-/

namespace Docsmith.Text

/-! ## Taking apart -/

/-- A Hangul syllable as its two or three sounds. -/
def syllableParts? (n : Nat) : Option (List Char) :=
  if 0xAC00 ≤ n && n < 0xD7A4 then
    let i := n - 0xAC00
    let trailing := if i % 28 == 0 then [] else [Char.ofNat (0x11A7 + i % 28)]
    some (Char.ofNat (0x1100 + i / 588) :: Char.ofNat (0x1161 + i / 28 % 21) :: trailing)
  else none

/-- What a table of neighbouring characters, from a code point on, says about a code point. The
    items on a line are divided by blanks. -/
def itemAt? (table : List (Nat × List String)) (n : Nat) : Option String :=
  table.findSome? fun (start, lines) =>
    if start ≤ n then (lines.flatMap (·.splitOn " "))[n - start]? else none

/-- The characters that a character is made of, or that it is a variant of. -/
def decompose (c : Char) : List Char :=
  if c.toNat < 128 then [c]
  else match syllableParts? c.toNat with
    | some parts => parts
    | none => match itemAt? decompositions c.toNat with
      | some "." | none => [c]
      | some parts => parts.toList

/-! ## Ordering the marks -/

/-- The class of a mark; 0 for all other characters. -/
def markClass (c : Char) : Nat :=
  let n := c.toNat
  if n < 0x300 then 0
  else match markClasses.find? fun r => fills r.2 n with
    | some r => r.1
    | none => 0

/-- Put a character behind a reversed text; a mark moves in front of marks of higher classes. -/
def putMark (c : Char) : List Char → List Char
  | [] => [c]
  | d :: out =>
    if markClass c != 0 && markClass c < markClass d then d :: putMark c out else c :: d :: out

/-- The marks after each letter in the order of their classes. -/
def orderMarks (cs : List Char) : List Char := (cs.foldl (fun out c => putMark c out) []).reverse

/-! ## Combining -/

/-- The characters of a text by threes. -/
def byThrees : List Char → List (Char × Char × Char)
  | a :: b :: c :: rest => (a, b, c) :: byThrees rest
  | _ => []

/-- Pairs of characters and the character that each combines to. -/
def listedPairs : List (Char × Char × Char) := byThrees (combinations.flatMap String.toList)

/-- The character that two characters combine to. -/
def combine? (a b : Char) : Option Char :=
  let m := a.toNat
  let n := b.toNat
  if 0x1100 ≤ m && m < 0x1113 && 0x1161 ≤ n && n < 0x1176 then
    some (Char.ofNat (0xAC00 + ((m - 0x1100) * 21 + (n - 0x1161)) * 28))
  else if 0xAC00 ≤ m && m < 0xD7A4 && (m - 0xAC00) % 28 == 0 && 0x11A8 ≤ n && n < 0x11C3 then
    some (Char.ofNat (m + (n - 0x11A7)))
  else (listedPairs.find? fun r => r.1 == a && r.2.1 == b).map fun r => r.2.2

/-- Combine the characters of a text, given the letter before it and, reversed, the marks that
    stand between. A mark reaches the letter when all marks between are of lower classes. -/
def combineAfter (letter : Char) (marks : List Char) : List Char → List Char
  | [] => letter :: marks.reverse
  | c :: cs =>
    let reaches := match marks with
      | [] => true
      | m :: _ => markClass m < markClass c
    match if reaches then combine? letter c else none with
    | some combined => combineAfter combined marks cs
    | none =>
      if markClass c == 0 then letter :: marks.reverse ++ combineAfter c [] cs
      else combineAfter letter (c :: marks) cs

/-- Combine all characters that can be combined. -/
def combineAll : List Char → List Char
  | [] => []
  | c :: cs => combineAfter c [] cs

/-- The one spelling of a name. -/
def normalName (name : String) : String :=
  if name.toList.all fun c => c.toNat < 128 then name
  else String.ofList (combineAll (orderMarks (name.toList.flatMap decompose)))

end Docsmith.Text
