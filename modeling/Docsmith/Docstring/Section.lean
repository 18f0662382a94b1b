-- SUMMARY: Cutting a documentation text into summary and sections.
import Docsmith.Docstring.Item
import Docsmith.Text.Digit

/-!
# Sections

A documentation text is a summary followed by sections. A section starts at a
line that holds a known heading and a colon, a response at a line such as
`Response (404):`. What stands before the first of them is the description.
-/

namespace Docsmith.Docstring

/-! ## Margins -/

/-- The white space in front of a line that is not blank. -/
def indent? (l : Line) : Option Nat :=
  if isBlankLine l then none else some (l.length - (Text.stripStart l).length)

/-- The least of some numbers; zero if there are none. -/
def leastIndent : List Nat → Nat
  | [] => 0
  | n :: ns => ns.foldl min n

/-- Remove the indentation that all lines but the first share. -/
def dedent : List Line → List Line
  | [] => []
  | first :: rest =>
    let margin := leastIndent (rest.filterMap indent?)
    Text.strip first :: rest.map fun l => if isBlankLine l then [] else l.drop margin

/-- The lines of a documentation text without their margin. There is always at least one. -/
def dedentedLines (text : List Char) : List Line :=
  match dedent (Text.lines (Text.expandTabs 4 text)) with
  | [] => [[]]
  | ls => ls

/-! ## Headings -/

/-- The headings of sections. -/
def headings : List String := [
  "Args", "Arguments", "Attributes", "Returns", "Return", "Yields", "Yield", "Raises",
  "Raise", "Exceptions", "Examples", "Example", "Notes", "Note", "See Also", "References",
  "Warnings", "Warning", "Todo", "Path Params", "Path Parameters", "Query Params",
  "Query Parameters", "Request Body", "Body", "Headers", "Payload", "Trigger", "Fields",
  "Config", "Configuration"]

/-- The heading of a section that a project defines, if its name is a text. -/
def customHeading? (s : CustomSection) : Option String :=
  match s.name with
  | .str name => some name
  | _ => none

/-- The headings together with those of the kinds that a project defines. -/
def headingsWith (kinds : List CustomKind) : List (List Char) :=
  (headings ++ (kinds.flatMap (·.sections)).filterMap customHeading?).map String.toList

/-- What a heading line opens. -/
inductive Heading where
  | named (name : Line)
  | response (status : Nat)

/-- The text is a colon and white space. -/
def isColonOnly : List Char → Bool
  | ':' :: r => r.all Text.isBlank
  | _ => false

/-- The heading, as it is written, that the text holds before a final colon. -/
def headingAt? (known : List (List Char)) (cs : List Char) : Option Line :=
  known.findSome? fun h => match Text.dropWord? h cs with
    | some r => if isColonOnly r then some (cs.take h.length) else none
    | none => none

/-- The heading of a section. The most blanks possible are passed over in front of it. -/
def sectionName? (known : List (List Char)) : Line → Option Line
  | [] => headingAt? known []
  | c :: cs =>
    if Text.isBlank c then sectionName? known cs <|> headingAt? known (c :: cs)
    else headingAt? known (c :: cs)

/-- The value of three decimal digits and what follows them. -/
def status? : List Char → Option (Nat × List Char)
  | a :: b :: c :: r => do
    let a ← Text.decimalValue? a
    let b ← Text.decimalValue? b
    let c ← Text.decimalValue? c
    return (100 * a + 10 * b + c, r)
  | _ => none

/-- The status of the response that a line opens. -/
def responseStatus? (l : Line) : Option Nat := do
  let r ← Text.dropWord? "Response".toList (Text.stripStart l)
  match Text.stripStart r with
  | '(' :: r =>
    let (n, r) ← status? r
    match r with
    | ')' :: r => if isColonOnly (Text.stripStart r) then return n else none
    | _ => none
  | _ => none

/-- What a line opens, if it is a heading. -/
def heading? (known : List (List Char)) (l : Line) : Option Heading :=
  match responseStatus? l with
  | some n => some (.response n)
  | none => (sectionName? known l).map .named

/-! ## Summary and sections -/

/-- The line ends the summary: it is blank or a heading. -/
def endsSummary (known : List (List Char)) (l : Line) : Bool :=
  isBlankLine l || (heading? known l).isSome

/-- The lines of the summary, and the lines after it without the blank line that ends it. -/
def splitSummary (known : List (List Char)) : List Line → List Line × List Line
  | [] => ([], [])
  | l :: ls =>
    if isBlankLine l then ([], ls)
    else if (heading? known l).isSome then ([], l :: ls)
    else
      let (summary, rest) := splitSummary known ls
      (l :: summary, rest)

/-- A heading and the lines up to the next one. -/
structure Block where
  heading : Heading
  lines : List Line

/-- The lines before the first heading, and the blocks. -/
def splitBlocks (known : List (List Char)) : List Line → List Line × List Block
  | [] => ([], [])
  | l :: ls =>
    let (before, blocks) := splitBlocks known ls
    match heading? known l with
    | some h => ([], ⟨h, before⟩ :: blocks)
    | none => (l :: before, blocks)

/-- A section: its name, empty for the description, and its lines. -/
structure Section where
  name : Line
  lines : List Line

/-- The section that a block is. -/
def Block.section? (b : Block) : Option Section :=
  match b.heading with
  | .named name => if name.isEmpty && b.lines.isEmpty then none else some ⟨name, b.lines⟩
  | .response _ => none

/-- The response that a block is: status and lines. -/
def Block.response? (b : Block) : Option (Nat × List Line) :=
  match b.heading with
  | .named _ => none
  | .response n => some (n, b.lines)

/-- The sections of some lines, the description first. Lines that are all blank have none. -/
def sectionsOf (known : List (List Char)) (ls : List Line) : List Section :=
  if ls.all isBlankLine then []
  else
    let (before, blocks) := splitBlocks known ls
    let description := if before.isEmpty then [] else [⟨[], before⟩]
    description ++ blocks.filterMap Block.section?

/-- The responses of some lines: status and lines. -/
def responsesOf (known : List (List Char)) (ls : List Line) : List (Nat × List Line) :=
  if ls.all isBlankLine then []
  else (splitBlocks known ls).2.filterMap Block.response?

end Docsmith.Docstring
