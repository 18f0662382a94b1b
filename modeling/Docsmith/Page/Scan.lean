-- SUMMARY: Pages of running text.
import Docsmith.Catalog.Basic
import Docsmith.Project.FileTree
import Docsmith.Text.Digit
import Docsmith.Text.Letter
import Docsmith.Text.Strip
import Docsmith.Value.Whole

/-!
# Pages

A page is titled by its first main heading, or else by the name of its file. Its
place among the pages is the number that its file name holds, if the name starts
with a digit.
-/

namespace Docsmith.Page

/-- The title that a file name gives. -/
def titleOfStem (stem : List Char) : List Char :=
  Text.title (stem.map fun c => if c == '_' || c == '-' then ' ' else c)

/-- The title of a page: its first line that starts with a number sign and a blank, or else
    its file name. -/
def title (stem content : List Char) : List Char :=
  match (Text.splitAtChar '\n' content).find? (Text.startsWith ['#', ' ']) with
  | some line => Text.strip (line.drop 2)
  | none => titleOfStem stem

/-- The text in lower case, with hyphens for blanks. -/
def sluggish (cs : List Char) : List Char :=
  Text.lower (cs.map fun c => if c == ' ' then '-' else c)

/-- The short name of a page: its path below the base without the extension. A page that is
    not below the base goes by its own name. -/
def slug (file base : Path) : List Char :=
  match file.relativeTo? base with
  | some (p :: ps) =>
    let rel : Path := ⟨"", p :: ps⟩
    sluggish ((rel.withoutExtension.text.toList).map fun c => if c == '\\' then '/' else c)
  | _ => sluggish file.stem.toList

/-- The place of a page: the number that the digits of its file name form, if the name starts
    with a digit and all its digits are decimal. -/
def order (stem : List Char) : Int :=
  if stem.head?.any Text.isDigit then (Value.numeral? (stem.filter Text.isDigit)).getD 0 else 0

/-- A text shown as it is. -/
def preformatted (content : String) : String := "<pre>" ++ content ++ "</pre>"

/-- Scan a page; `render` turns its text into the shown content. -/
def scan (render : String → String) (file base : Path) (bytes : List UInt8) : PageDoc :=
  let content := readText bytes
  { title := String.ofList (title file.stem.toList content.toList)
    slug := String.ofList (slug file base)
    content := render content
    filePath := file.text
    order := order file.stem.toList }

end Docsmith.Page
