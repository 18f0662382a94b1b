-- SUMMARY: Notes in comments about work that is left to do.
import Docsmith.Text.Letter
import Docsmith.Text.Lines
import Docsmith.Text.Strip
import Docsmith.Text.Word

/-!
# Open work

A comment that starts with one of four words is a note about open work. The words
are recognised in any letter case, and a line has at most one note.
-/

namespace Docsmith

/-- A note about open work. -/
structure Todo where
  tag : String
  text : String
  filePath : String
  lineNumber : Nat
  module : String
deriving Repr, DecidableEq

namespace Todo

/-- The words that open a note. -/
def tags : List (List Char) := ["TODO", "FIXME", "HACK", "XXX"].map String.toList

/-- A tag at the start of a text and what follows it. The tag must not run on as a word. -/
def tag? (cs : List Char) : Option (List Char × List Char) :=
  tags.findSome? fun w => match Text.dropWord? w cs with
    | some r => if r.head?.any Text.isWord then none else some (cs.take w.length, r)
    | none => none

/-- The tag and the text of the first note in a line. -/
def find? : List Char → Option (List Char × List Char)
  | [] => none
  | c :: cs =>
    if c == '#' then
      match tag? (Text.stripStart cs) with
      | some (tag, r) =>
        some (Text.upper tag, Text.strip (r.dropWhile fun c => c == ':' || Text.isBlank c))
      | none => find? cs
    else find? cs

/-- The notes of lines that are numbered from `n`. -/
def ofLines (filePath module : String) : Nat → List (List Char) → List Todo
  | _, [] => []
  | n, l :: ls => match find? l with
    | some (tag, text) =>
      ⟨String.ofList tag, String.ofList text, filePath, n, module⟩ :: ofLines filePath module (n + 1) ls
    | none => ofLines filePath module (n + 1) ls

/-- The notes of a source text. -/
def ofSource (source filePath module : String) : List Todo :=
  ofLines filePath module 1 (Text.lines source.toList)

end Todo

end Docsmith
