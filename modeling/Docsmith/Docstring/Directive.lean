-- SUMMARY: Directive lines of a documentation text.
import Docsmith.Docstring.Item

/-!
# Directives

A line `Type: name` sets the kind of a documentation text; `Method:`, `Path:`
and `Trigger:` describe endpoints and events. Each is recognised in any letter
case, and only the first line of each sort counts; the line is taken out.
-/

namespace Docsmith.Docstring

/-- What follows a word and a colon. -/
def afterWord? (word : String) (l : Line) : Option (List Char) := do
  let r ← Text.dropWord? word.toList (Text.stripStart l)
  match Text.stripStart r with
  | ':' :: r => return r
  | _ => none

/-- A directive whose value is one word. -/
def wordDirective? (word : String) (l : Line) : Option Line := do
  let value := Text.strip (← afterWord? word l)
  if value.isEmpty || !value.all Text.isWord then none else return value

/-- A directive whose value is any text; something must follow the colon. -/
def textDirective? (word : String) (l : Line) : Option Line := do
  let r ← afterWord? word l
  if r.isEmpty then none else return Text.strip r

/-- The kind that a line sets, if it is a directive with a known name. -/
def kindOfLine? (kinds : List CustomKind) (l : Line) : Option Kind := do
  let name := String.ofList (Text.lower (← wordDirective? "Type" l))
  Kind.ofName? name <|> if kinds.any (·.name == name) then some .custom else none

/-- Take out the first line on which a reader succeeds. -/
def takeFirst (read : Line → Option α) : List Line → Option α × List Line
  | [] => (none, [])
  | l :: ls => match read l with
    | some a => (some a, ls)
    | none =>
      let (a, rest) := takeFirst read ls
      (a, l :: rest)

/-- The directives of a documentation text apart from its kind. -/
structure Directives where
  method : Option Line
  path : Option Line
  trigger : Option Line

/-- Take out the directives for a method, a path and a trigger. -/
def takeDirectives (ls : List Line) : Directives × List Line :=
  let (method, ls) := takeFirst (wordDirective? "Method") ls
  let (path, ls) := takeFirst (textDirective? "Path") ls
  let (trigger, ls) := takeFirst (textDirective? "Trigger") ls
  (⟨method.map Text.upper, path, trigger⟩, ls)

/-- A documentation text without its directives: what they say, and the lines that are left. -/
structure Body where
  kind : Option Kind
  directives : Directives
  lines : List Line

/-- Take the directives out of some lines, the one for the kind first. -/
def Body.ofLines (kinds : List CustomKind) (ls : List Line) : Body :=
  let (kind, ls) := takeFirst (kindOfLine? kinds) ls
  let (directives, ls) := takeDirectives ls
  ⟨kind, directives, ls⟩

end Docsmith.Docstring
