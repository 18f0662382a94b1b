-- SUMMARY: Removing characters at the ends of a text, and splitting it into words.
import Docsmith.Text.Blank

/-!
# Stripping and words

Removing white space, or any other class of characters, from the ends of a
text; and the words of a text, which are its maximal runs without white space.
-/

namespace Docsmith.Text

/-- Drop the characters of a class from the end. -/
def dropEndWhile (p : Char → Bool) (cs : List Char) : List Char :=
  (cs.reverse.dropWhile p).reverse

/-- Drop the characters of a class from both ends. -/
def stripWhile (p : Char → Bool) (cs : List Char) : List Char :=
  dropEndWhile p (cs.dropWhile p)

/-- Drop white space at the start. -/
def stripStart (cs : List Char) : List Char := cs.dropWhile isBlank

/-- Drop white space at the end. -/
def stripEnd (cs : List Char) : List Char := dropEndWhile isBlank cs

/-- Drop white space at both ends. -/
def strip (cs : List Char) : List Char := stripWhile isBlank cs

/-- Collect the words of a text; `word` is the reversed run being read. -/
def wordsFrom (word : List Char) (found : List (List Char)) : List Char → List (List Char)
  | [] => (if word.isEmpty then found else word.reverse :: found).reverse
  | c :: cs =>
    if isBlank c then
      if word.isEmpty then wordsFrom [] found cs else wordsFrom [] (word.reverse :: found) cs
    else wordsFrom (c :: word) found cs

/-- The maximal runs without white space. -/
def words (cs : List Char) : List (List Char) := wordsFrom [] [] cs

end Docsmith.Text
