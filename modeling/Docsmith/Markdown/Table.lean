-- SUMMARY: Tables in running text.
import Docsmith.Text.Lines
import Docsmith.Text.Strip

/-!
# Tables

A table is a header line, a line of hyphens that may align columns, and further
lines, with bars between the cells and perhaps at the ends of lines.
-/

namespace Docsmith.Markdown

/-- How a column is aligned. -/
inductive Align where
  | left
  | right
  | center
deriving Repr, DecidableEq

/-- The word for an alignment. -/
def Align.word : Align → String
  | .left => "left"
  | .right => "right"
  | .center => "center"

/-- A table. -/
structure Table where
  aligns : List (Option Align)
  header : List (List Char)
  rows : List (List (List Char))

/-- Without blanks at the ends. -/
def trim (cs : List Char) : List Char := Text.stripWhile (· == ' ') cs

/-- The line ends with a bar that is not escaped. -/
def endsWithBar (cs : List Char) : Bool :=
  match cs.reverse with
  | '|' :: r => (r.takeWhile (· == '\\')).length % 2 == 0
  | _ => false

/-- Cut at bars; those that are escaped or inside code do not count. -/
def cellsFrom (cell : List Char) (ticks : Nat) : List Char → List (List Char)
  | [] => [cell.reverse]
  | '\\' :: c :: cs => cellsFrom (c :: '\\' :: cell) ticks cs
  | c :: cs =>
    if c == '|' && ticks == 0 then cell.reverse :: cellsFrom [] 0 cs
    else
      let ticks := if c != '`' then ticks
        else if 0 < ticks then ticks - 1
        else if cs.contains '`' then 1 else 0
      cellsFrom (c :: cell) ticks cs

/-- The cells of a line; `bordered` says that bars at the ends are borders. -/
def cells (bordered : Bool) (line : List Char) : List (List Char) :=
  if bordered then
    let line := match line with
      | '|' :: r => r
      | r => r
    cellsFrom [] 0 (if endsWithBar line then line.dropLast else line)
  else cellsFrom [] 0 line

/-- How a cell of the line of hyphens aligns its column. -/
def alignOf (cell : List Char) : Option Align :=
  let cell := trim cell
  match cell.head? == some ':', cell.getLast? == some ':' with
  | true, true => some .center
  | true, false => some .left
  | false, true => some .right
  | false, false => none

/-- The table that a block of lines is. -/
def table? (block : List Char) : Option Table :=
  let lines := (Text.splitAtChar '\n' block).map trim
  match lines with
  | header :: rule :: rows =>
    let bordered := header.head? == some '|' || endsWithBar header
    let names := cells bordered header
    let hasBar (l : List Char) : Bool := l.head? == some '|' || endsWithBar l
    let isTable := 1 < names.length || (bordered && (rule :: rows).all hasBar)
    let marks := cells bordered rule
    if isTable && marks.length == names.length && marks.flatten.all ("|:- ".toList.contains ·) then
      some ⟨marks.map alignOf, names.map trim, rows.map fun r => (cells bordered r).map trim⟩
    else none
  | _ => none

end Docsmith.Markdown
