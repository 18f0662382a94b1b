-- SUMMARY: Running text with emphasis, code and links.
import Docsmith.Text.Lines
import Docsmith.Text.Strip
import Docsmith.Text.Word

/-!
# Running text

Running text is turned into HTML from left to right. Code, escapes, links,
images, tags and emphasis are recognised; anything else is text, in which only
the characters that HTML reserves are written as entities.
-/

namespace Docsmith.Markdown

/-! ## Entities -/

/-- The text starts with an entity, after its ampersand. -/
def startsEntity (cs : List Char) : Bool :=
  let body := cs.takeWhile (· != ';')
  let isHex (c : Char) : Bool := c.isDigit || ('a' ≤ c.toLower && c.toLower ≤ 'f')
  body.length < cs.length && match body with
    | '#' :: 'x' :: d :: ds => (d :: ds).all isHex
    | '#' :: d :: ds => (d :: ds).all Char.isDigit
    | c :: r => (c :: r).all Char.isAlphanum
    | [] => false

/-- Write reserved characters as entities; entities stay. -/
def escaped : List Char → List Char
  | [] => []
  | c :: cs =>
    (if c == '&' then if startsEntity cs then ['&'] else "&amp;".toList
    else if c == '<' then "&lt;".toList
    else if c == '>' then "&gt;".toList
    else [c]) ++ escaped cs

/-- Write reserved characters inside a quoted value as entities. -/
def escapedValue (cs : List Char) : List Char :=
  (escaped cs).flatMap fun c => if c == '"' then "&quot;".toList else [c]

/-- Write all reserved characters of code as entities. -/
def escapedCode (cs : List Char) : List Char :=
  cs.flatMap fun c =>
    if c == '&' then "&amp;".toList
    else if c == '<' then "&lt;".toList
    else if c == '>' then "&gt;".toList
    else [c]

/-- An element with some content that is HTML already. -/
def wrapped (tag : String) (content : List Char) : List Char :=
  ("<" ++ tag ++ ">").toList ++ content ++ ("</" ++ tag ++ ">").toList

/-! ## Pieces -/

/-- Cut at the first place where a word starts, after at least `least` characters. -/
def cutAt? (word : List Char) (least : Nat) : List Char → Option (List Char × List Char)
  | [] => none
  | c :: cs =>
    match if least == 0 then Text.dropExact? word (c :: cs) else none with
    | some rest => some ([], rest)
    | none => (cutAt? word (least - 1) cs).map fun (a, b) => (c :: a, b)

/-- A code span after its opening ticks: its content and what follows. -/
def codeSpan? (ticks : Nat) : List Char → Option (List Char × List Char)
  | [] => none
  | c :: cs =>
    if c != '`' then (codeSpan? ticks cs).map fun (a, b) => (c :: a, b)
    else
      let run := (c :: cs).takeWhile (· == '`')
      if run.length == ticks then some ([], (c :: cs).drop ticks)
      else (codeSpan? ticks cs).map fun (a, b) => (c :: a, b)

/-- The content of brackets after the opening one, and what follows the closing one. -/
def bracketed? (depth : Nat) : List Char → Option (List Char × List Char)
  | [] => none
  | '\\' :: c :: cs => (bracketed? depth cs).map fun (a, b) => ('\\' :: c :: a, b)
  | c :: cs =>
    if c == ']' && depth == 0 then some ([], cs)
    else
      let depth := if c == '[' then depth + 1 else if c == ']' then depth - 1 else depth
      (bracketed? depth cs).map fun (a, b) => (c :: a, b)

/-- The content of parentheses after the opening one, and what follows the closing one;
    `quote` is the quotation mark of an open title. -/
def parenthesized? (depth : Nat) (quote : Option Char) : List Char → Option (List Char × List Char)
  | [] => none
  | c :: cs =>
    if quote.isNone && c == ')' && depth == 0 then some ([], cs)
    else
      let quote := match quote with
        | some q => if c == q then none else some q
        | none => if c == '"' then some c else none
      let depth := if quote.isSome then depth
        else if c == '(' then depth + 1 else if c == ')' then depth - 1 else depth
      (parenthesized? depth quote cs).map fun (a, b) => (c :: a, b)

/-- A target with its title. -/
structure Target where
  address : List Char
  title : Option (List Char)

/-- Read the target of a link: an address, perhaps in angle brackets, and a title in quotation
    marks. -/
def Target.ofText (cs : List Char) : Target :=
  let cs := Text.strip cs
  let address := cs.takeWhile fun c => !Text.isBlank c
  let rest := Text.strip (cs.dropWhile fun c => !Text.isBlank c)
  let title := match rest with
    | '"' :: r => if r.getLast? == some '"' then some r.dropLast else none
    | '\'' :: r => if r.getLast? == some '\'' then some r.dropLast else none
    | _ => none
  let plain := if title.isNone then cs else address
  let plain := match plain with
    | '<' :: r => if r.getLast? == some '>' then r.dropLast else plain
    | _ => plain
  ⟨plain, title⟩

/-- The title of a target as an attribute. -/
def Target.titleAttribute (t : Target) : List Char :=
  match t.title with
  | some s => " title=\"".toList ++ escapedValue s ++ ['"']
  | none => []

/-- A link around content. -/
def link (t : Target) (content : List Char) : List Char :=
  "<a href=\"".toList ++ escapedValue t.address ++ ['"'] ++ t.titleAttribute ++ ['>'] ++ content
    ++ "</a>".toList

/-- An image. -/
def image (t : Target) (alt : List Char) : List Char :=
  "<img alt=\"".toList ++ escapedValue alt ++ "\" src=\"".toList ++ escapedValue t.address ++ ['"']
    ++ t.titleAttribute ++ " />".toList

/-- A tag or a comment after its opening angle bracket: its text, with the closing one, and what
    follows. -/
def tag? (cs : List Char) : Option (List Char × List Char) :=
  match Text.dropExact? "!--".toList cs with
  | some r => (cutAt? "-->".toList 0 r).map fun (a, b) =>
      ("!--".toList ++ a ++ "-->".toList, b)
  | none =>
    let name := match cs with
      | '/' :: r => r
      | r => r
    let body := cs.takeWhile fun c => c != '<' && c != '>'
    match cs.drop body.length with
    | '>' :: rest =>
      if name.head?.any Char.isAlpha && !(body.takeWhile (· != ' ')).contains '@' then
        some (body ++ ['>'], rest)
      else none
    | _ => none

/-- The address in angle brackets is that of a page. -/
def isAddress (cs : List Char) : Bool :=
  ["http://", "https://", "ftp://", "ftps://"].any fun s =>
    Text.startsWith s.toList (cs.map Char.toLower)

/-- Characters that a backslash makes plain. -/
def escapable : List Char := "\\`*_\x7b\x7d[]()>#+-.!|".toList

/-! ## Emphasis -/

/-- Emphasised pieces: elements from the outside in, their content, and further content of the
    outer element. -/
structure Emphasis where
  outer : String
  inner : Option String := none
  first : List Char
  second : List Char := []
  rest : List Char

/-- Emphasis that starts with three asterisks, given what follows them. -/
def tripleEmphasis? (cs : List Char) : Option Emphasis :=
  let emFirst : Option Emphasis := do
    let (a, r) ← cutAt? ['*'] 1 cs
    let (b, r) ← cutAt? ['*', '*'] 0 r
    return ⟨"strong", some "em", a, b, r⟩
  let strongFirst : Option Emphasis := do
    let (a, r) ← cutAt? ['*', '*'] 1 cs
    let (b, r) ← cutAt? ['*'] 0 r
    return ⟨"em", some "strong", a, b, r⟩
  emFirst <|> strongFirst

/-- Emphasis with asterisks. -/
def starEmphasis? (cs : List Char) : Option Emphasis :=
  let triple := do tripleEmphasis? (← Text.dropExact? ['*', '*', '*'] cs)
  let double := do
    let (a, r) ← cutAt? ['*', '*'] 1 (← Text.dropExact? ['*', '*'] cs)
    return { outer := "strong", first := a, rest := r : Emphasis }
  let single := do
    let (a, r) ← cutAt? ['*'] 1 (← Text.dropExact? ['*'] cs)
    if a.contains '*' then none else return { outer := "em", first := a, rest := r : Emphasis }
  triple <|> double <|> single

/-- The closing underscores stand before no letter. -/
def closesWord (r : List Char) : Bool := !(r.head?.any Text.isWord)

/-- Emphasis with underscores, given what follows them. -/
def underEmphasis? (width : Nat) (outer : String) (cs : List Char) : Option Emphasis := do
  if cs.head? == some '_' then none
  let (a, r) ← cutAt? (List.replicate width '_') 1 cs
  if closesWord r && a.getLast? != some '_' then
    return { outer := outer, first := a, rest := r : Emphasis }
  else none

/-- Emphasis at a place, after some character. -/
def emphasis? (before : Option Char) : List Char → Option Emphasis
  | '*' :: cs => starEmphasis? ('*' :: cs)
  | '_' :: '_' :: cs => if before.any Text.isWord then none else underEmphasis? 2 "strong" cs
  | '_' :: cs => if before.any Text.isWord then none else underEmphasis? 1 "em" cs
  | _ => none

/-- A run of marks with blanks on both sides, which are plain text. -/
def loneMarks? (before : Option Char) (cs : List Char) : Option (List Char × List Char) :=
  match cs with
  | c :: _ =>
    if c != '*' && c != '_' then none
    else
      let run := cs.takeWhile (· == c)
      let rest := cs.drop run.length
      if before.all Text.isBlank && rest.head?.all Text.isBlank && run.length ≤ 3 then some (run, rest)
      else none
  | [] => none

/-! ## The whole text -/

/-- Turn running text into HTML; `before` is the character in front. -/
def inlineFrom : Nat → Option Char → List Char → List Char
  | 0, _, cs => escaped cs
  | _ + 1, _, [] => []
  | fuel + 1, before, c :: cs =>
    let plain := escaped [c] ++ inlineFrom fuel (some c) cs
    if c == '\\' then
      match cs with
      | d :: r => if escapable.contains d then escaped [d] ++ inlineFrom fuel (some d) r else plain
      | [] => plain
    else if c == '`' then
      let ticks := ((c :: cs).takeWhile (· == '`')).length
      match codeSpan? ticks ((c :: cs).drop ticks) with
      | some (code, rest) =>
        if code.isEmpty then plain
        else wrapped "code" (escapedCode (Text.strip code)) ++ inlineFrom fuel (some '`') rest
      | none => List.replicate ticks '`' ++ inlineFrom fuel (some '`') ((c :: cs).drop ticks)
    else if c == ' ' && Text.startsWith [' ', '\n'] cs then
      "<br />\n".toList ++ inlineFrom fuel (some '\n') (cs.drop 2)
    else if c == '!' && cs.head? == some '[' then
      match bracketed? 0 (cs.drop 1) with
      | some (alt, '(' :: r) => match parenthesized? 0 none r with
        | some (t, rest) => image (Target.ofText t) alt ++ inlineFrom fuel (some ')') rest
        | none => plain
      | _ => plain
    else if c == '[' then
      match bracketed? 0 cs with
      | some (content, '(' :: r) => match parenthesized? 0 none r with
        | some (t, rest) =>
          link (Target.ofText t) (inlineFrom fuel none content) ++ inlineFrom fuel (some ')') rest
        | none => plain
      | _ => plain
    else if c == '<' then
      match tag? cs with
      | some (body, rest) =>
        let html := if isAddress body then link ⟨body.dropLast, none⟩ (escaped body.dropLast)
          else '<' :: body
        html ++ inlineFrom fuel (some '>') rest
      | none => plain
    else if c == '&' then
      (if startsEntity cs then ['&'] else "&amp;".toList) ++ inlineFrom fuel (some c) cs
    else match loneMarks? before (c :: cs) with
      | some (run, rest) => run ++ inlineFrom fuel (some c) rest
      | none => match emphasis? before (c :: cs) with
        | some e =>
          let first := inlineFrom fuel none e.first
          let second := inlineFrom fuel none e.second
          let inner := match e.inner with
            | some t => wrapped t first
            | none => first
          wrapped e.outer (inner ++ second) ++ inlineFrom fuel (some c) e.rest
        | none => plain

/-- Turn running text into HTML. -/
def inline (cs : List Char) : List Char := inlineFrom cs.length none cs

/-- HTML without its tags, and with the characters that entities stand for. -/
def plainText (html : List Char) : List Char :=
  let rec strip (inTag : Bool) : List Char → List Char
    | [] => []
    | c :: cs =>
      if inTag then strip (c != '>') cs
      else if c == '<' then strip true cs
      else c :: strip false cs
  [("&lt;", "<"), ("&gt;", ">"), ("&quot;", "\""), ("&amp;", "&")].foldl
    (fun cs (old, new) => Text.replace old.toList new.toList cs) (strip false html)

end Docsmith.Markdown
