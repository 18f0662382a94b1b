-- SUMMARY: The text that documents a definition.
import Docsmith.Source.Tree
import Docsmith.Text.Lines
import Docsmith.Text.Strip

/-!
# Documentation texts

A text that stands alone at the start of a body documents what the body belongs
to. Its margin is removed: the indentation common to all lines but the first, and
empty lines at both ends.
-/

namespace Docsmith.Source

/-- The body without the text that documents it. -/
def withoutDocumentation : List Stmt → List Stmt
  | .expr (.constant (.str _ _)) :: rest => rest
  | body => body

/-- The least of the given numbers. -/
def least : List Nat → Option Nat
  | [] => none
  | n :: ns => match least ns with
    | none => some n
    | some m => some (min n m)

/-- The white space in front of the first other character; a blank line has none. -/
def indentation? (line : List Char) : Option Nat :=
  let rest := Text.stripStart line
  if rest.isEmpty then none else some (line.length - rest.length)

/-- Drop empty lines at the end. -/
def dropEmptyEnd (ls : List (List Char)) : List (List Char) :=
  (ls.reverse.dropWhile List.isEmpty).reverse

/-- Remove the margin of a text. -/
def withoutMargin (cs : List Char) : List Char :=
  match Text.splitAtChar '\n' (Text.expandTabs 8 cs) with
  | [] => []
  | first :: rest =>
    let margin := (least (rest.filterMap indentation?)).getD 0
    let lines := Text.stripStart first :: rest.map (List.drop margin)
    Text.unlines ((dropEmptyEnd lines).dropWhile List.isEmpty)

/-- The text that documents what the body belongs to; nothing is the empty text. -/
def documentationOf : List Stmt → String
  | .expr (.constant (.str s _)) :: _ => String.ofList (withoutMargin s.toList)
  | _ => ""

end Docsmith.Source
