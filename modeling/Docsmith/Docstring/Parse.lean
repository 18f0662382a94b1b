-- SUMMARY: Taking a documentation text apart.
import Docsmith.Docstring.Directive
import Docsmith.Docstring.Section

/-!
# Reading documentation texts

`Docstring.parse` removes the margin of a text, takes its directives out, cuts it into summary
and sections and reads every section by its heading. A section with a heading
that has no meaning of its own is kept as text.
-/

namespace Docsmith.Docstring

/-- The text of some lines without white space at its ends. -/
def contentOf (ls : List Line) : List Char := Text.strip (Text.unlines ls)

/-- The lines of a stripped text. -/
def strippedLines (ls : List Line) : List Line := Text.splitAtChar '\n' (contentOf ls)

/-- The stripped lines that are not blank, on one line. -/
def oneLine (ls : List Line) : Line :=
  Text.joinWith [' '] ((ls.filter (!isBlankLine ·)).map Text.strip)

/-- The type and the description that the first line of a return section gives. -/
def typedReturn? (first : Line) : Option (Line × Line) :=
  match first.takeWhile (· != ':'), first.dropWhile (· != ':') with
  | c :: type, _ :: r => some (Text.strip (c :: type), Text.strip r)
  | _, _ => none

/-- What a section says about the returned value. -/
def returnOf (ls : List Line) : Option Return :=
  if (contentOf ls).isEmpty then none
  else match strippedLines ls with
    | [] => none
    | first :: rest => match typedReturn? (Text.strip first) with
      | some (type, text) =>
        let more := oneLine rest
        let description :=
          if more.isEmpty then text
          else if text.isEmpty then more
          else text ++ ' ' :: more
        some ⟨textValue type, textValue description⟩
      | none => some ⟨.str "", textValue (oneLine (first :: rest))⟩

/-- The examples of a section: all lines from the first that is not blank. -/
def examplesOf (ls : List Line) : List String :=
  match ls.dropWhile isBlankLine with
  | [] => []
  | ls => [String.ofList (Text.unlines ls)]

/-- The notes of a section. -/
def notesOf (ls : List Line) : List String :=
  match contentOf ls with
  | [] => []
  | cs => [String.ofList cs]

/-- The response that some lines describe. -/
def responseOf (status : Nat) (ls : List Line) : Response :=
  { status := status
    description := textValue (oneLine (ls.takeWhile fun l => (Item.ofLine? l).isNone))
    fields := (items ls).map Item.field }

/-- The description with a further part. -/
def addDescription (text : String) (part : List Char) : String :=
  if part.isEmpty then text
  else if text.isEmpty then String.ofList part
  else text ++ "\n\n" ++ String.ofList part

/-- Put a custom section: a name that is there keeps its place. -/
def putSection : List (String × String) → String → String → List (String × String)
  | [], name, content => [(name, content)]
  | (n, c) :: rest, name, content =>
    if n == name then (n, content) :: rest else (n, c) :: putSection rest name content

/-- Read a section into the record. -/
def addSection (d : Docstring) (s : Section) : Docstring :=
  let name := String.ofList (Text.lower s.name)
  if ["args", "arguments"].contains name then { d with args := argsOf s.lines }
  else if name == "attributes" then { d with attributes := argsOf s.lines }
  else if ["returns", "return", "yields", "yield"].contains name then
    { d with returns := returnOf s.lines }
  else if ["raises", "raise", "exceptions"].contains name then { d with raises := raisesOf s.lines }
  else if ["examples", "example"].contains name then { d with examples := examplesOf s.lines }
  else if ["notes", "note"].contains name then { d with notes := notesOf s.lines }
  else if ["path params", "path parameters"].contains name then
    { d with pathParams := argsOf s.lines }
  else if ["query params", "query parameters"].contains name then
    { d with queryParams := argsOf s.lines }
  else if ["request body", "body"].contains name then { d with requestBody := argsOf s.lines }
  else if name == "headers" then { d with headers := headersOf s.lines }
  else if name == "payload" then { d with payload := payloadOf s.lines }
  else if ["fields", "config", "configuration"].contains name then
    { d with configFields := configFieldsOf s.lines }
  else if s.name.isEmpty then { d with description := addDescription d.description (contentOf s.lines) }
  else
    let content := String.ofList (contentOf s.lines)
    { d with customSections := putSection d.customSections (String.ofList s.name) content }

/-- The optional text, empty if it is missing. -/
def textOf (l : Option Line) : String := String.ofList (l.getD [])

/-- The record before any section is read: the summary and the directives. A directive decides
    about the kind, then the hint. -/
def Body.record (hint : Option Kind) (summary : List Line) (body : Body) : Docstring :=
  { summary := String.ofList (Text.joinWith [' '] (summary.map Text.strip))
    kind := (body.kind <|> hint).getD .function
    method := textOf body.directives.method
    path := textOf body.directives.path
    trigger := textOf body.directives.trigger }

/-- Read the sections and the responses of some lines into the record. -/
def addSections (known : List (List Char)) (d : Docstring) (ls : List Line) : Docstring :=
  { (sectionsOf known ls).foldl addSection d with
    responses := (responsesOf known ls).map fun (n, ls) => responseOf n ls }

/-- Take a documentation text apart. The project may define further kinds. An empty text has an
    empty record. -/
def parse (kinds : List CustomKind) (hint : Option Kind) (text : String) : Docstring :=
  if text.isEmpty then {}
  else
    let known := headingsWith kinds
    let body := Body.ofLines kinds (dedentedLines text.toList)
    let (summary, rest) := splitSummary known body.lines
    addSections known (body.record hint summary) rest

end Docsmith.Docstring
