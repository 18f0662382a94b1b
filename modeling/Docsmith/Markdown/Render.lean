-- SUMMARY: Documents as HTML.
import Docsmith.Markdown.Block
import Docsmith.Text.AsciiParts

/-!
# Documents as HTML

Fenced code is set aside first, then the blocks of a document are read and
written as HTML. Headings get identifiers made of their texts; one that is taken
gets a number.
-/

namespace Docsmith.Markdown

/-! ## Fenced code -/

/-- Marks around the number of a piece that is set aside. -/
def aside (n : Nat) : List Char := '\x02' :: (toString n).toList ++ ['\x03']

/-- The number of the piece that a text stands for. -/
def aside? : List Char → Option Nat
  | '\x02' :: cs => if cs.getLast? == some '\x03' then (String.ofList cs.dropLast).toNat? else none
  | _ => none

/-- The fence and the language of a line that opens fenced code. -/
def openingFence? (line : List Char) : Option (List Char × List Char) :=
  match line with
  | c :: _ =>
    let fence := line.takeWhile (· == c)
    if (c != '`' && c != '~') || fence.length < 3 then none
    else
      let rest := Text.stripWhile (· == ' ') (line.drop fence.length)
      let language := match rest with
        | '.' :: r => r
        | r => r
      if language.all fun d => Text.isWord d || "#.+-".toList.contains d then some (fence, language)
      else none
  | [] => none

/-- The line closes code with a fence. -/
def closesFence (fence line : List Char) : Bool :=
  Text.dropEndWhile (· == ' ') line == fence

/-- A piece of code as HTML. -/
def codeHtml (language code : List Char) : List Char :=
  let text := (escapedCode (Text.stripWhile (· == '\n') code)).flatMap fun c =>
    if c == '"' then "&quot;".toList else [c]
  let kind := if language.isEmpty then [] else " class=\"language-".toList ++ language ++ ['"']
  "<pre class=\"codehilite\"><code".toList ++ kind ++ ['>'] ++ text ++ "\n</code></pre>\n".toList

/-- A document with its fenced code set aside. -/
structure Prepared where
  lines : List (List Char)
  pieces : List (List Char)

/-- Set fenced code aside; both lists grow at their heads. -/
def setAside : Nat → Prepared → List (List Char) → Prepared
  | 0, p, ls => { p with lines := ls.reverse ++ p.lines }
  | _ + 1, p, [] => p
  | fuel + 1, p, l :: ls =>
    match openingFence? l with
    | none => setAside fuel { p with lines := l :: p.lines } ls
    | some (fence, language) =>
      let code := ls.takeWhile fun k => !closesFence fence k
      if code.length == ls.length then setAside fuel { p with lines := l :: p.lines } ls
      else
        let html := codeHtml language (Text.unlines (code ++ [[]]))
        setAside fuel
          ⟨[] :: aside p.pieces.length :: [] :: p.lines, p.pieces ++ [html]⟩ (ls.drop (code.length + 1))

/-! ## Identifiers -/

/-- The identifier that a text gives: its ASCII letters in lower case, with hyphens between the
    words. -/
def slugOf (cs : List Char) : List Char :=
  let kept := (cs.flatMap Text.asciiParts).filter fun c => Text.isWord c || Text.isBlank c || c == '-'
  let lowered := (Text.strip kept).map Char.toLower
  let rec joined (gap : Bool) : List Char → List Char
    | [] => []
    | c :: cs =>
      if Text.isBlank c || c == '-' then if gap then joined true cs else '-' :: joined true cs
      else c :: joined false cs
  joined false lowered

/-- The name and the number of an identifier that ends in an underscore and digits. -/
def numbered? (id : List Char) : Option (List Char × Nat) :=
  let digits := (id.reverse.takeWhile Char.isDigit).reverse
  let front := id.take (id.length - digits.length)
  if digits.isEmpty || front.getLast? != some '_' then none
  else (String.ofList digits).toNat?.map fun n => (front.dropLast, n)

/-- The first free identifier from one on: its number is raised until it is free. -/
def freeId (taken : List (List Char)) : Nat → List Char → List Char
  | 0, id => id
  | fuel + 1, id =>
    if id.isEmpty || taken.contains id then
      let next := match numbered? id with
        | some (name, n) => name ++ '_' :: (toString (n + 1)).toList
        | none => id ++ ['_', '1']
      freeId taken fuel next
    else id

/-- A heading in the order of the document. -/
structure Heading where
  level : Nat
  id : List Char
  html : List Char

/-! ## HTML -/

/-- A cell of a table. -/
def cellHtml (tag : String) (align : Option Align) (cell : List Char) : List Char :=
  let style := match align with
    | some a => " style=\"text-align: " ++ a.word ++ ";\""
    | none => ""
  ("<" ++ tag ++ style ++ ">").toList ++ inline cell ++ ("</" ++ tag ++ ">\n").toList

/-- A row of a table; missing cells are empty. -/
def rowHtml (tag : String) (aligns : List (Option Align)) (row : List (List Char)) : List Char :=
  let padded := row ++ List.replicate aligns.length []
  "<tr>\n".toList ++ ((aligns.zip padded).flatMap fun (a, c) => cellHtml tag a c) ++ "</tr>\n".toList

/-- A table. -/
def tableHtml (t : Table) : List Char :=
  let rows := if t.rows.isEmpty then rowHtml "td" (t.aligns.map fun _ => none) []
    else t.rows.flatMap (rowHtml "td" t.aligns)
  "<table>\n<thead>\n".toList ++ rowHtml "th" t.aligns t.header ++ "</thead>\n<tbody>\n".toList
    ++ rows ++ "</tbody>\n</table>".toList

/-- The level of a heading tag. -/
def levelOf? (tag : String) : Option Nat :=
  match tag.toList with
  | ['h', d] => if '1' ≤ d && d ≤ '6' then some (d.toNat - '0'.toNat) else none
  | _ => none

/-- Headings as a list of links; headings that are deeper than the one before form a list in its
    item. -/
def linksHtml : Nat → List Heading → List Char
  | 0, _ => []
  | _ + 1, [] => []
  | fuel + 1, h :: hs =>
    let deeper := hs.takeWhile fun k => h.level < k.level
    let inner := if deeper.isEmpty then []
      else "<ul>\n".toList ++ linksHtml fuel deeper ++ "</ul>\n".toList
    "<li><a href=\"#".toList ++ escapedValue h.id ++ "\">".toList ++ escaped (plainText h.html)
      ++ "</a>".toList ++ inner ++ "</li>\n".toList ++ linksHtml fuel (hs.drop deeper.length)

/-- The table of contents. -/
def contentsHtml (hs : List Heading) : List Char :=
  "<div class=\"toc\">\n".toList
    ++ (if hs.isEmpty then [] else "<ul>\n".toList ++ linksHtml (hs.length + 1) hs ++ "</ul>\n".toList)
    ++ "</div>".toList

/-- What is written: the HTML so far and the headings so far. -/
structure Written where
  html : List Char := []
  headings : List Heading := []

/-- Write more HTML. -/
def Written.add (w : Written) (cs : List Char) : Written := { w with html := w.html ++ cs }

/-- A heading with its identifier. -/
def Written.heading (w : Written) (level : Nat) (text : List Char) : Written :=
  let html := inline text
  let id := freeId (w.headings.map (·.id)) (w.headings.length + 2) (slugOf (plainText html))
  let tag := "h" ++ toString level
  { html := w.html ++ ("<" ++ tag ++ " id=\"").toList ++ escapedValue id ++ ['"', '>'] ++ html
      ++ ("</" ++ tag ++ ">").toList
    headings := w.headings ++ [⟨level, id, html⟩] }

mutual

/-- Write an element; `contents` takes the place of the paragraph that asks for it. -/
def writeElement (contents : List Char) (pieces : List (List Char)) (w : Written) :
    Element → Written
  | .table t => w.add (tableHtml t)
  | .node tag text children =>
    if tag == "hr" then w.add "<hr />".toList
    else if tag == "pre" then w.add (codeHtml [] text)
    else if tag == "html" then w.add text
    else match levelOf? tag, aside? (Text.strip text) with
      | some level, _ => w.heading level text
      | none, some n => w.add ((pieces[n]?).getD [])
      | none, none =>
        let opened := w.add (("<" ++ tag ++ ">").toList ++ inline text
          ++ if text.isEmpty && !children.isEmpty then ['\n'] else [])
        if tag == "p" && Text.strip text == "[TOC]".toList then w.add contents
        else (writeElements contents pieces opened children).add ("</" ++ tag ++ ">").toList

/-- Write elements, each with a line break after it. -/
def writeElements (contents : List Char) (pieces : List (List Char)) (w : Written) :
    List Element → Written
  | [] => w
  | e :: es =>
    writeElements contents pieces ((writeElement contents pieces w e).add ['\n']) es

end

/-- The lines of a document without tabs and without blanks on empty lines; two empty lines end
    it. -/
def normalized (cs : List Char) : List (List Char) :=
  let plain := cs.filter fun c => c != '\x02' && c != '\x03'
  let lines := Text.splitAtChar '\n' (Text.expandTabs 4 (Text.unifyBreaks plain ++ ['\n', '\n']))
  lines.take 1 ++ (lines.drop 1).map fun l => if l.all (· == ' ') then [] else l

/-- A document as HTML. -/
def render (document : String) : String :=
  let lines := normalized document.toList
  let prepared := setAside (lines.length + 1) ⟨[], []⟩ lines
  let text := Text.unlines prepared.lines.reverse
  let root := readBlocks (2 * text.length + 2) .top (.node "div" [] []) (blocksOf text)
  let headings := (writeElements [] prepared.pieces {} root.children).headings
  let written := writeElements (contentsHtml headings) prepared.pieces {} root.children
  String.ofList (Text.strip written.html)

end Docsmith.Markdown
