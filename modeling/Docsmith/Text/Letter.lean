-- SUMMARY: Lower, upper and title case, and comparison of letters without regard to case.
import Docsmith.Text.CaseTable

/-!
# Letter case

`lower`, `upper` and `title` are the full mappings of the Unicode standard: one
character may become several, and a capital sigma at the end of a word becomes
the final sigma. `sameLetter` compares two characters without regard to case,
one character against one.
-/

namespace Docsmith.Text

/-- The lower-case partner of a character, when it is a single character. -/
def lowerChar (c : Char) : Char :=
  if c.toNat < 128 then c.toLower
  else match CaseRun.apply? lowerRuns c.toNat with
    | some n => Char.ofNat n
    | none => c

/-- The two characters agree up to letter case. -/
def sameLetter (a b : Char) : Bool :=
  let x := lowerChar a
  let y := lowerChar b
  x == y || match sharedUpper.find? fun e => e.1 == x.toNat with
    | some e => e.2.contains y.toNat
    | none => false

/-- A text begins, up to letter case, with the given word: what follows the word. -/
def dropWord? : List Char → List Char → Option (List Char)
  | [], cs => some cs
  | _ :: _, [] => none
  | w :: ws, c :: cs => if sameLetter w c then dropWord? ws cs else none

/-- The character is a letter that has case. -/
def isCased (c : Char) : Bool :=
  c.isAlpha || (128 ≤ c.toNat && fills casedRuns c.toNat)

/-- The character is skipped when the letters around another character are looked for. -/
def isCaseIgnorable (c : Char) : Bool :=
  ['\'', '.', ':', '^', '\x60'].contains c ||
    (128 ≤ c.toNat && fills caseIgnorableRuns c.toNat)

/-- The first character that is not skipped is a cased letter. -/
def nextIsCased (cs : List Char) : Bool :=
  match cs.dropWhile isCaseIgnorable with
  | [] => false
  | c :: _ => isCased c

/-- The lower-case form of a character, given the text before it (nearest first) and after it. -/
def lowerAt (before : List Char) (c : Char) (after : List Char) : List Char :=
  if c.toNat == 0x3A3 then
    if nextIsCased before && !nextIsCased after then ['ς'] else ['σ']
  else if c.toNat == 0x130 then ['i', Char.ofNat 0x307]
  else [lowerChar c]

/-- The upper-case form of a character. -/
def upperChars (c : Char) : List Char :=
  if c.toNat < 128 then [c.toUpper]
  else match upperSpecial.find? fun e => e.1 == c.toNat with
    | some e => e.2.map Char.ofNat
    | none => match CaseRun.source? lowerRuns c.toNat with
      | some n => [Char.ofNat n]
      | none => [c]

/-- The title-case form of a character. -/
def titleChars (c : Char) : List Char :=
  match titleSpecial.find? fun e => e.1 == c.toNat with
  | some e => e.2.map Char.ofNat
  | none => match CaseRun.apply? titleRuns c.toNat with
    | some n => [Char.ofNat n]
    | none => upperChars c

/-- Lower-case `cs`, whose preceding characters are `before`, nearest first. -/
def lowerFrom (before : List Char) (out : List Char) : List Char → List Char
  | [] => out.reverse
  | c :: cs => lowerFrom (c :: before) ((lowerAt before c cs).reverse ++ out) cs

/-- The text in lower case. -/
def lower (cs : List Char) : List Char := lowerFrom [] [] cs

/-- The text in upper case. -/
def upper (cs : List Char) : List Char := cs.flatMap upperChars

/-- Title-case `cs`: a letter after a cased letter is lowered, any other is raised. -/
def titleFrom (before : List Char) (out : List Char) : List Char → List Char
  | [] => out.reverse
  | c :: cs =>
    let here := match before with
      | b :: _ => if isCased b then lowerAt before c cs else titleChars c
      | [] => titleChars c
    titleFrom (c :: before) (here.reverse ++ out) cs

/-- The text with every word capitalised. -/
def title (cs : List Char) : List Char := titleFrom [] [] cs

end Docsmith.Text
