-- SUMMARY: The blocks of a document.
import Docsmith.Markdown.Inline
import Docsmith.Markdown.Table

/-!
# Blocks

A document is cut at empty lines into blocks, which become headings, lists,
quotations, code, tables, rules and paragraphs. Items of lists and quotations hold
blocks themselves. Text that is indented below an item belongs to the item.
-/

namespace Docsmith.Markdown

/-- An element of the document: its tag, its running text and the elements in it. -/
inductive Element where
  | node (tag : String) (text : List Char) (children : List Element)
  | table (t : Table)

namespace Element

/-- The tag of an element. -/
def tag : Element → String
  | .node t _ _ => t
  | .table _ => "table"

/-- The elements inside. -/
def children : Element → List Element
  | .node _ _ cs => cs
  | .table _ => []

/-- The last element inside. -/
def last? (e : Element) : Option Element := e.children.getLast?

/-- Add an element at the end. -/
def add (e child : Element) : Element :=
  match e with
  | .node t s cs => .node t s (cs ++ [child])
  | .table t => .table t

/-- Change the last element inside. -/
def mapLast (f : Element → Element) : Element → Element
  | .node t s cs => match cs.getLast? with
    | some c => .node t s (cs.dropLast ++ [f c])
    | none => .node t s cs
  | .table t => .table t

/-- Change the element that is reached by going to the last element so many times. -/
def mapDeep (f : Element → Element) : Nat → Element → Element
  | 0, e => f e
  | n + 1, e => e.mapLast (mapDeep f n)

/-- The element is a list. -/
def isList (e : Element) : Bool := e.tag == "ul" || e.tag == "ol"

/-- Put the running text of an element into a paragraph. -/
def loosened : Element → Element
  | .node t s cs => if s.isEmpty then .node t s cs else .node t [] (.node "p" s [] :: cs)
  | .table t => .table t

end Element

/-- Where blocks are read: at the top, in a tight list, in a loose list, in a quotation, or in
    text that has lost its indentation. -/
inductive Place where
  | top
  | tight
  | loose
  | quote
  | detabbed
deriving Repr, DecidableEq

/-- The blanks of one level of indentation. -/
def indent : List Char := [' ', ' ', ' ', ' ']

/-! ## Lines -/

/-- The mark of a list item at the start of a line: whether it is numbered, and the rest. -/
def itemMark? (line : List Char) : Option (Bool × List Char) :=
  let blanks := (line.takeWhile (· == ' ')).length
  let body := line.dropWhile (· == ' ')
  let after : Option (Bool × List Char) := match body with
    | c :: r =>
      if c == '*' || c == '+' || c == '-' then some (false, r)
      else
        let digits := body.takeWhile Char.isDigit
        match body.drop digits.length with
        | '.' :: r => if digits.isEmpty then none else some (true, r)
        | _ => none
    | [] => none
  match after with
  | some (ordered, r) =>
    if blanks ≤ 3 && r.head? == some ' ' then some (ordered, r.dropWhile (· == ' ')) else none
  | none => none

/-- The line is an item of a list one level deeper. -/
def isDeepItem (line : List Char) : Bool :=
  Text.startsWith indent line && (itemMark? (line.drop 4)).isSome

/-- The items of a block of list lines, the last one first. -/
def itemsFrom (found : List (List Char)) : List (List Char) → List (List Char)
  | [] => found
  | line :: lines => match itemMark? line, found with
    | some (_, text), _ => itemsFrom (text :: found) lines
    | none, item :: rest =>
      if isDeepItem line && !Text.startsWith indent item then
        itemsFrom (line :: item :: rest) lines
      else itemsFrom ((item ++ '\n' :: line) :: rest) lines
    | none, [] => itemsFrom [line] lines

/-- Take away so many levels of indentation from the lines that have them. -/
def looseDetab (levels : Nat) (block : List Char) : List Char :=
  let blanks := List.replicate (4 * levels) ' '
  Text.unlines ((Text.splitAtChar '\n' block).map fun l =>
    if Text.startsWith blanks l then l.drop (4 * levels) else l)

/-- The indented lines at the start without their indentation, and the other lines. -/
def detabLines : List (List Char) → List (List Char) × List (List Char)
  | [] => ([], [])
  | l :: ls =>
    if Text.startsWith indent l then
      let (a, b) := detabLines ls
      (l.drop 4 :: a, b)
    else if (Text.strip l).isEmpty then
      let (a, b) := detabLines ls
      ([] :: a, b)
    else ([], l :: ls)

/-- The line is a rule: three or more equal marks with at most two blanks between them. -/
def isRule (line : List Char) : Bool :=
  let blanks := (line.takeWhile (· == ' ')).length
  let body := Text.dropEndWhile (· == ' ') (line.drop blanks)
  let marks := body.filter (· != ' ')
  let rec gapsFit (gap : Nat) : List Char → Bool
    | [] => true
    | c :: cs => if c == ' ' then gap < 2 && gapsFit (gap + 1) cs else gapsFit 0 cs
  blanks ≤ 3 && 3 ≤ marks.length && gapsFit 0 body
    && (marks.all (· == '-') || marks.all (· == '_') || marks.all (· == '*'))

/-- The quoted text of a line, if the line is quoted. -/
def quoted? (line : List Char) : Option (List Char) :=
  let blanks := (line.takeWhile (· == ' ')).length
  match line.drop blanks with
  | '>' :: ' ' :: r => if blanks ≤ 3 then some r else none
  | '>' :: r => if blanks ≤ 3 then some r else none
  | _ => none

/-- Without number signs at the end that no backslash precedes. -/
def dropClosingHashes (cs : List Char) : List Char :=
  let kept := Text.dropEndWhile (· == '#') cs
  if kept.getLast? == some '\\' then kept ++ ['#'] else kept

/-- The level and the text of a heading line. -/
def heading? (line : List Char) : Option (Nat × List Char) :=
  let marks := min 6 (line.takeWhile (· == '#')).length
  if marks == 0 then none else some (marks, Text.strip (dropClosingHashes (line.drop marks)))

/-- The line underlines a heading: its level. -/
def underline? (line : List Char) : Option Nat :=
  let body := Text.dropEndWhile (· == ' ') line
  if body.isEmpty || !body.all (fun c => c == '=' || c == '-') then none
  else some (if body.head? == some '=' then 1 else 2)

/-- Cut before the first line for which a test gives something: the lines before, what the test
    gave, and the lines after. -/
def cutLines? (test : List Char → Option α) :
    List (List Char) → Option (List (List Char) × α × List (List Char))
  | [] => none
  | l :: ls => match test l with
    | some a => some ([], a, ls)
    | none => (cutLines? test ls).map fun (before, a, after) => (l :: before, a, after)

/-- Elements that stand on their own, so that text starting with one is HTML already. -/
def blockTags : List String :=
  ["address", "article", "aside", "blockquote", "body", "center", "dd", "details", "dialog", "dir",
   "div", "dl", "dt", "fieldset", "figcaption", "figure", "footer", "form", "frameset", "h1", "h2",
   "h3", "h4", "h5", "h6", "head", "header", "hgroup", "hr", "html", "iframe", "legend", "li", "link",
   "main", "math", "menu", "meta", "nav", "noframes", "noscript", "ol", "output", "p", "param", "pre",
   "progress", "script", "section", "style", "summary", "table", "tbody", "td", "template", "tfoot",
   "th", "thead", "title", "tr", "ul", "video"]

/-- The block is HTML: it starts with an element that stands on its own, or with a comment, and
    ends with a tag. -/
def isHtml (block : List Char) : Bool :=
  match block with
  | '<' :: cs =>
    let name := (match cs with
      | '/' :: r => r
      | r => r).takeWhile Char.isAlphanum
    (Text.startsWith "!--".toList cs || blockTags.contains (String.ofList (name.map Char.toLower)))
      && (Text.stripEnd block).getLast? == some '>'
  | _ => false

/-- Cut a text into blocks at empty lines. -/
def blocksOf (cs : List Char) : List (List Char) := Text.pieces ['\n', '\n'] cs

/-! ## Blocks -/

/-- The tags of the last elements, from the outside in. -/
def lastTags : Nat → Element → List String
  | 0, _ => []
  | n + 1, e => match e.last? with
    | some c => c.tag :: lastTags n c
    | none => []

/-- How far indented text reaches into lists: the levels of indentation that are used up, and the
    number of steps to last elements. -/
def reach (levels used steps : Nat) : List String → Nat × Nat
  | [] => (used, steps)
  | t :: ts =>
    if levels ≤ used then (used, steps)
    else if t == "ul" || t == "ol" then reach levels (used + 1) (steps + 1) ts
    else if t == "li" then reach levels used (steps + 1) ts
    else (used, steps)

/-- The number of full levels of indentation of a block. -/
def levelsOf (block : List Char) : Nat := (block.takeWhile (· == ' ')).length / 4

/-- Add a piece of code: code right after code continues it. -/
def addCode (parent : Element) (code : List Char) : Element :=
  match parent.last? with
  | some (.node "pre" old _) => parent.mapLast fun _ => .node "pre" (old ++ '\n' :: code ++ ['\n']) []
  | _ => parent.add (.node "pre" (code ++ ['\n']) [])

/-- Add empty lines to code that may go on. -/
def addFiller (parent : Element) (filler : List Char) : Element :=
  match parent.last? with
  | some (.node "pre" old _) => parent.mapLast fun _ => .node "pre" (old ++ filler) []
  | _ => parent

/-- Add a paragraph; in a tight list its text belongs to the item itself. -/
def addParagraph (place : Place) (parent : Element) (block : List Char) : Element :=
  let text := Text.stripStart block
  if text.isEmpty then parent
  else match place, parent with
    | .tight, .node t s [] => .node t (if s.isEmpty then text else s ++ '\n' :: text) []
    | _, parent => parent.add (.node "p" text [])

/-- The lines as a block in front of other blocks, unless there are none. -/
def pushLines (lines : List (List Char)) (blocks : List (List Char)) : List (List Char) :=
  if lines.isEmpty then blocks else Text.unlines lines :: blocks

/-- Read blocks into an element. -/
def readBlocks : Nat → Place → Element → List (List Char) → Element
  | 0, _, parent, _ => parent
  | _ + 1, _, parent, [] => parent
  | fuel + 1, place, parent, block :: rest =>
    let lines := Text.splitAtChar '\n' block
    let indented := Text.startsWith indent block
    let inItem := parent.tag == "li"
    let afterList := parent.last?.any Element.isList
    if block.isEmpty then readBlocks fuel place (addFiller parent ['\n', '\n']) rest
    else if block.head? == some '\n' then
      let parent := addFiller parent ['\n']
      readBlocks fuel place parent (if block.length == 1 then rest else block.drop 1 :: rest)
    else if indented && place != .detabbed && (inItem || afterList) then
      let start := if place == .tight then 1 else 0
      let (used, steps) := reach (levelsOf block) start 0 (lastTags fuel parent)
      let text := looseDetab used block
      let into (e : Element) : Element :=
        if e.tag == "li" then readBlocks fuel .detabbed e [text]
        else if e.last?.any (·.tag == "li") then
          e.mapLast fun li => readBlocks fuel .detabbed li.loosened (blocksOf text)
        else e.add (readBlocks fuel .detabbed (.node "li" [] []) [text])
      let parent :=
        if inItem then
          if afterList then parent.mapLast fun l => readBlocks fuel .detabbed l [text]
          else readBlocks fuel .detabbed parent [text]
        else parent.mapDeep into steps
      readBlocks fuel place parent rest
    else if indented then
      let (code, others) := detabLines lines
      let parent := addCode parent (Text.stripEnd (Text.unlines code))
      readBlocks fuel place parent (pushLines others rest)
    else if place == .top && isHtml block then
      readBlocks fuel place (parent.add (.node "html" (Text.stripEnd block) [])) rest
    else match table? block with
    | some t => readBlocks fuel place (parent.add (.table t)) rest
    | none => match cutLines? heading? lines with
    | some (before, (level, text), after) =>
      let parent := readBlocks fuel place parent (pushLines before [])
      let parent := parent.add (.node ("h" ++ toString level) text [])
      readBlocks fuel place parent (pushLines after rest)
    | none => match (lines.drop 1).head?.bind underline? with
    | some level =>
      let parent := parent.add (.node ("h" ++ toString level) (Text.strip (lines.headD [])) [])
      readBlocks fuel place parent (pushLines (lines.drop 2) rest)
    | none => match cutLines? (fun l => if isRule l then some () else none) lines with
    | some (before, _, after) =>
      let parent := readBlocks fuel place parent (pushLines before [])
      readBlocks fuel place (parent.add (.node "hr" [] [])) (pushLines after rest)
    | none => match itemMark? (lines.headD []) with
    | some (ordered, _) =>
      let items := (itemsFrom [] lines).reverse
      let addItem (l : Element) (item : List Char) : Element :=
        if Text.startsWith indent item then l.mapLast fun li => readBlocks fuel .tight li [item]
        else l.add (readBlocks fuel .tight (.node "li" [] []) [item])
      let parent :=
        if afterList then parent.mapLast fun l =>
          let l := l.mapLast Element.loosened
          let l := l.add (readBlocks fuel .loose (.node "li" [] []) (items.take 1))
          (items.drop 1).foldl addItem l
        else if parent.isList then items.foldl addItem parent
        else parent.add (items.foldl addItem (.node (if ordered then "ol" else "ul") [] []))
      readBlocks fuel place parent rest
    | none => match cutLines? quoted? lines with
    | some (before, first, after) =>
      let parent := readBlocks fuel place parent (pushLines before [])
      let text := Text.unlines (first :: after.map fun l => (quoted? l).getD l)
      let parent := match parent.last? with
        | some (.node "blockquote" _ _) =>
          parent.mapLast fun q => readBlocks fuel .quote q (blocksOf text)
        | _ => parent.add (readBlocks fuel .quote (.node "blockquote" [] []) (blocksOf text))
      readBlocks fuel place parent rest
    | none => readBlocks fuel place (addParagraph place parent block) rest

end Docsmith.Markdown
