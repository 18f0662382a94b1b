-- SUMMARY: Documentation as pieces of plain text.
import Docsmith.Report.Coverage
import Docsmith.Text.Letter

/-!
# Chunks

The documentation is cut into chunks of plain text, one for every function,
endpoint and class, and one or more for every page. A page of more than two
thousand characters is cut at the ends of sentences.
-/

namespace Docsmith.Report

/-- A chunk: its text, what it is about, and the kind of that. -/
structure Chunk where
  text : String
  source : Value
  kind : String

/-- Lines joined; each must be a text. -/
def joinLines (parts : List Value) : Answer String := do
  return "\n".intercalate (← parts.mapM Value.needText)

/-- A line for something that has a name, a type and a description. -/
def describedLine (label : String) (item : Value) : Answer Value := do
  let name ← item.field "name"
  let type ← item.getD "type" (.str "")
  let description ← item.getD "description" (.str "")
  return .str ("  " ++ label ++ " " ++ name.text ++ ": " ++ type.text ++ " - " ++ description.text)

/-- The summary and the description, as far as they are there. -/
def introduction (docstring : Value) : Answer (List Value) := do
  let summary ← partOf docstring "summary"
  let description ← partOf docstring "description"
  return [summary, description].filter Value.isTrue

/-- The line about the returned value. -/
def returnLine (docstring : Value) : Answer (List Value) := do
  let r ← partOf docstring "returns"
  if r.isTrue then
    let type ← r.getD "type" (.str "")
    let description ← r.getD "description" (.str "")
    return [.str ("  returns: " ++ type.text ++ " - " ++ description.text)]
  else return []

/-- The chunk of a function. -/
def functionChunk (f : Value) : Answer Chunk := do
  let docstring ← f.getD "docstring" (.dict [])
  let title := "Function: " ++ (← f.field "name").text
  let signature ← partOf f "signature"
  let title ← if signature.isTrue then do pure (title ++ (← signature.needText)) else pure title
  let intro ← introduction docstring
  let args ← (← docstring.itemsOf "args").mapM (describedLine "param")
  let returns ← returnLine docstring
  let examples := (← docstring.itemsOf "examples").map fun e => Value.str ("  example: " ++ e.text)
  let text ← joinLines (.str title :: (intro ++ args ++ returns ++ examples))
  return ⟨text, ← pathOf f, "function"⟩

/-- The chunk of an endpoint. -/
def endpointChunk (e : Value) : Answer Chunk := do
  let docstring ← e.getD "docstring" (.dict [])
  let method ← docstring.getD "http_method" (.str "")
  let path ← docstring.getD "path" (.str "")
  let route := method.text ++ " " ++ path.text
  let intro ← introduction docstring
  let pathParams ← docstring.getD "path_params" (.list [])
  let params ← (← pathParams.append (← docstring.getD "query_params" (.list []))).items
  let lines ← params.mapM (describedLine "param")
  let text ← joinLines (.str ("API: " ++ route) :: (intro ++ lines))
  let source ← if method.isTrue then pure (.str route) else pathOf e
  return ⟨text, source, "api"⟩

/-- The line about a method. -/
def methodLine (m : Value) : Answer Value := do
  let docstring ← m.getD "docstring" (.dict [])
  let name ← m.field "name"
  return .str ("  method " ++ name.text ++ ": " ++ (← docstring.getD "summary" (.str "")).text)

/-- The chunk of a class. -/
def classChunk (c : Value) : Answer Chunk := do
  let docstring ← c.getD "docstring" (.dict [])
  let title := "Class: " ++ (← c.field "name").text
  let intro ← introduction docstring
  let attributes ← (← docstring.itemsOf "attributes").mapM (describedLine "attr")
  let methods ← (← c.itemsOf "methods").mapM methodLine
  let text ← joinLines (.str title :: (intro ++ attributes ++ methods))
  return ⟨text, ← pathOf c, "class"⟩

/-! ## Pages -/

/-- Put a blank for every tag: from an opening angle bracket to the next closing one, with
    something in between. `skip` counts the characters of a tag that are still to be passed
    over. -/
def withoutTagsFrom : Nat → List Char → List Char
  | _, [] => []
  | skip + 1, _ :: cs => withoutTagsFrom skip cs
  | 0, c :: cs =>
    if c == '<' then
      match cs.takeWhile (· != '>'), cs.dropWhile (· != '>') with
      | t :: tag, _ :: _ => ' ' :: withoutTagsFrom ((t :: tag).length + 1) cs
      | _, _ => c :: withoutTagsFrom 0 cs
    else c :: withoutTagsFrom 0 cs

/-- The words of a page without its tags, with single blanks between them. -/
def cleanText (content : List Char) : List Char :=
  Text.joinWith [' '] (Text.words (withoutTagsFrom 0 content))

/-- The largest number of characters that a page may have without being cut. -/
def maxChunk : Nat := 2000

/-- Cut sentences into chunk texts; `current` is the text of the chunk being filled, and
    `further` the heading of those after it. -/
def sentenceChunks (further current : List Char) : List (List Char) → List (List Char)
  | [] => if (Text.strip current).isEmpty then [] else [Text.strip current]
  | s :: ss =>
    if maxChunk < current.length + s.length then
      Text.strip current :: sentenceChunks further (further ++ s ++ ['.', ' ']) ss
    else sentenceChunks further (current ++ s ++ ['.', ' ']) ss

/-- The texts of the chunks of a page. -/
def pageTexts (title clean : List Char) : List (List Char) :=
  let first := "Page: ".toList ++ title ++ ['\n']
  let further := "Page: ".toList ++ title ++ " (cont.)\n".toList
  if clean.length ≤ maxChunk then [first ++ clean]
  else sentenceChunks further first (Text.pieces ['.', ' '] clean)

/-- The chunks of a page. -/
def pageChunks (page : Value) : Answer (List Chunk) := do
  let content ← (← page.getD "content" (.str "")).needText
  let clean := cleanText content.toList
  if clean.isEmpty then return []
  let title ← page.field "title"
  return (pageTexts title.text.toList clean).map fun t => ⟨String.ofList t, title, "page"⟩

/-- The chunks of a project. -/
def chunks (data : Value) : Answer (List Chunk) := do
  let functions ← (← data.itemsOf "functions").mapM functionChunk
  let endpoints ← (← data.itemsOf "api_endpoints").mapM endpointChunk
  let classes ← (← data.itemsOf "classes").mapM classChunk
  let pages ← (← data.itemsOf "pages").mapM pageChunks
  return functions ++ endpoints ++ classes ++ pages.flatten

/-- A chunk as data. -/
def Chunk.data (c : Chunk) : Value := .object [
  ("text", .str c.text), ("source", c.source), ("type", .str c.kind)]

end Docsmith.Report
