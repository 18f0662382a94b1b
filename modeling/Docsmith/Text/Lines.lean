-- SUMMARY: Lines, tabulators, joining and cutting of texts.
import Docsmith.Text.Blank

/-!
# Lines

Cutting a text into lines, at a single character or at a longer separator, the
expansion of tabulators, and the inverse: joining pieces.
-/

namespace Docsmith.Text

/-- Put the separator between the pieces. -/
def joinWith (sep : List Char) (pieces : List (List Char)) : List Char :=
  List.flatten (List.intersperse sep pieces)

/-- Join the pieces by line feeds. -/
def unlines (pieces : List (List Char)) : List Char := joinWith ['\n'] pieces

/-- Collect lines; `line` is the reversed line being read, `found` the lines before it. -/
def linesFrom (line : List Char) (found : List (List Char)) : List Char → List (List Char)
  | [] => (if line.isEmpty then found else line.reverse :: found).reverse
  | '\r' :: '\n' :: cs => linesFrom [] (line.reverse :: found) cs
  | c :: cs =>
    if isBreak c then linesFrom [] (line.reverse :: found) cs
    else linesFrom (c :: line) found cs

/-- The lines of a text, without their line breaks. A break at the end of the
    text opens no further line. -/
def lines (cs : List Char) : List (List Char) := linesFrom [] [] cs

/-- Collect the pieces between occurrences of one character. -/
def splitFrom (sep : Char) (piece : List Char) (found : List (List Char)) :
    List Char → List (List Char)
  | [] => (piece.reverse :: found).reverse
  | c :: cs =>
    if c == sep then splitFrom sep [] (piece.reverse :: found) cs
    else splitFrom sep (c :: piece) found cs

/-- The pieces between occurrences of one character: one more than there are occurrences. -/
def splitAtChar (sep : Char) (cs : List Char) : List (List Char) := splitFrom sep [] [] cs

/-- What follows the word at the start of the text. -/
def dropExact? : List Char → List Char → Option (List Char)
  | [], cs => some cs
  | _ :: _, [] => none
  | w :: ws, c :: cs => if w == c then dropExact? ws cs else none

/-- The text starts with the word. -/
def startsWith (word cs : List Char) : Bool := (dropExact? word cs).isSome

/-- The text ends with the word. -/
def endsWith (word cs : List Char) : Bool := (dropExact? word.reverse cs.reverse).isSome

/-- Collect the pieces between occurrences of a word; `skip` counts the characters of the
    last occurrence that are still to be passed over. -/
def piecesFrom (word : List Char) (piece : List Char) (found : List (List Char)) :
    Nat → List Char → List (List Char)
  | _, [] => (piece.reverse :: found).reverse
  | skip + 1, _ :: cs => piecesFrom word piece found skip cs
  | 0, c :: cs =>
    if startsWith word (c :: cs) then
      piecesFrom word [] (piece.reverse :: found) (word.length - 1) cs
    else piecesFrom word (c :: piece) found 0 cs

/-- The pieces between the occurrences of a nonempty word, found from the left without
    overlap. -/
def pieces (word cs : List Char) : List (List Char) := piecesFrom word [] [] 0 cs

/-- Put `new` for every occurrence of the nonempty word `old`. -/
def replace (old new cs : List Char) : List Char := joinWith new (pieces old cs)

/-- The word occurs in the text. -/
def contains (word : List Char) : List Char → Bool
  | [] => word.isEmpty
  | c :: cs => startsWith word (c :: cs) || contains word cs

/-- Unify line breaks; `out` is the reversed text before. -/
def unifyBreaksFrom (out : List Char) : List Char → List Char
  | [] => out.reverse
  | '\r' :: '\n' :: cs => unifyBreaksFrom ('\n' :: out) cs
  | c :: cs => unifyBreaksFrom ((if c == '\r' then '\n' else c) :: out) cs

/-- Carriage returns, alone or before a line feed, become line feeds. -/
def unifyBreaks (cs : List Char) : List Char := unifyBreaksFrom [] cs

/-- Expand tabulators; `column` is the column of the next character. -/
def expandTabsFrom (width column : Nat) (out : List Char) : List Char → List Char
  | [] => out.reverse
  | c :: cs =>
    if c == '\t' then
      let n := width - column % width
      expandTabsFrom width (column + n) (List.replicate n ' ' ++ out) cs
    else if c == '\n' || c == '\r' then expandTabsFrom width 0 (c :: out) cs
    else expandTabsFrom width (column + 1) (c :: out) cs

/-- Replace every tabulator by the blanks up to the next multiple of `width`. -/
def expandTabs (width : Nat) (cs : List Char) : List Char := expandTabsFrom width 0 [] cs

end Docsmith.Text
