-- SUMMARY: Item lines of a section and the records made from them.
import Docsmith.Docstring.Basic
import Docsmith.Text.Letter
import Docsmith.Text.Lines
import Docsmith.Text.Strip
import Docsmith.Text.Word

/-!
# Items

An item line is indented by at least four blanks and reads `name: text` or
`name (note): text`, where the name may have one or two stars in front. Lines
that are no item lines continue the item before them. One reader finds the items
of a section; arguments, headers, event fields and settings are made from them.
-/

namespace Docsmith.Docstring

/-- A line of a documentation text. -/
abbrev Line := List Char

/-- The line holds white space only. -/
def isBlankLine (l : Line) : Bool := l.all Text.isBlank

/-- An item line: its name, the note in parentheses (empty if there is none), and its text. -/
structure Item where
  name : Line
  note : Line
  text : Line

/-- The note in parentheses, which is not empty, and what follows it. -/
def note? (cs : List Char) : Option (Line × List Char) :=
  match cs.takeWhile (· != ')'), cs.dropWhile (· != ')') with
  | c :: note, ')' :: r => some (c :: note, r)
  | _, _ => none

/-- The stars in front of a name, at most two, and what follows them. -/
def stars : List Char → List Char × List Char
  | '*' :: '*' :: r => (['*', '*'], r)
  | '*' :: r => (['*'], r)
  | r => ([], r)

/-- The note and the text that follow the name of an item. -/
def noteAndText? (cs : List Char) : Option (Line × Line) := do
  let (note, r) ← match Text.stripStart cs with
    | '(' :: r => note? r
    | r => some ([], r)
  match Text.stripStart r with
  | ':' :: text => return (note, Text.stripStart text)
  | _ => none

/-- Read an item line. -/
def Item.ofLine? (l : Line) : Option Item := do
  let margin := l.takeWhile Text.isBlank
  if margin.length < 4 then none
  else
    let (front, r) := stars (l.dropWhile Text.isBlank)
    let name := r.takeWhile Text.isWord
    if name.isEmpty then none
    else
      let (note, text) ← noteAndText? (r.dropWhile Text.isWord)
      return ⟨front ++ name, note, text⟩

/-- An item with the lines that continue it. -/
structure Entry where
  item : Item
  more : List Line

/-- The lines that continue the item in front of them: those before the next item, without
    the blank ones. -/
def continuation (ls : List Line) : List Line :=
  (ls.takeWhile fun l => (Item.ofLine? l).isNone).filter (!isBlankLine ·)

/-- The items of some lines with the lines that continue them. Lines before the first item,
    and blank lines, belong to no item. -/
def entries : List Line → List Entry
  | [] => []
  | l :: ls =>
    match Item.ofLine? l with
    | none => entries ls
    | some item => ⟨item, continuation ls⟩ :: entries ls

/-- The items of some lines without the lines that continue them. -/
def items (ls : List Line) : List Item := ls.filterMap Item.ofLine?

/-- The text of an item and the lines that continue it, on one line. -/
def Entry.description (e : Entry) : Line :=
  let first := if e.item.text.isEmpty then [] else [e.item.text]
  Text.strip (Text.joinWith [' '] (first ++ e.more.map Text.strip))

/-- Text as a value. -/
def textValue (cs : List Char) : Value := .str (String.ofList cs)

/-! ## Arguments -/

/-- The word that marks something as required. -/
def requiredWord : List Char := "required".toList

/-- What follows the word for required and the comma and blanks in front of it. -/
def dropRequired? (cs : List Char) : Option (List Char) :=
  let r := match cs with
    | ',' :: r => r
    | r => r
  Text.dropWord? requiredWord (Text.stripStart r)

/-- Drop every occurrence of the word for required, with the comma and blanks in front. -/
def withoutRequired : Nat → List Char → List Char
  | 0, cs => cs
  | _ + 1, [] => []
  | fuel + 1, c :: cs =>
    match dropRequired? (c :: cs) with
    | some r => withoutRequired fuel r
    | none => c :: withoutRequired fuel cs

/-- The text speaks of something required. -/
def saysRequired (cs : List Char) : Bool := Text.contains requiredWord (Text.lower cs)

/-- The type and the default that a note gives: the default follows an equals sign. -/
def typeAndDefault (note : Line) : Line × Option Line :=
  match note.dropWhile (· != '=') with
  | _ :: value => (Text.strip (note.takeWhile (· != '=')), some (Text.strip value))
  | [] => (note, none)

/-- The argument that an item describes. -/
def Entry.arg (e : Entry) : Arg :=
  let (type, default) := typeAndDefault e.item.note
  let required := saysRequired type
  let type := if required then withoutRequired (type.length + 1) type else type
  { name := String.ofList e.item.name
    type := textValue (Text.strip type)
    description := textValue e.description
    default := (default.map textValue).getD .none
    required := if required then .bool true else .none }

/-- The arguments that a section describes. -/
def argsOf (ls : List Line) : List Arg := (entries ls).map Entry.arg

/-! ## Headers and event fields -/

/-- The header that an item describes. -/
def Item.header (i : Item) : Header :=
  { name := String.ofList i.name
    description := textValue (Text.strip i.text)
    required := saysRequired i.note }

/-- The headers that a section describes. -/
def headersOf (ls : List Line) : List Header := (items ls).map Item.header

/-- The event field that an item describes. -/
def Item.payloadField (i : Item) : PayloadField :=
  ⟨String.ofList i.name, textValue i.note, textValue i.text⟩

/-- The event fields that a section describes. -/
def payloadOf (ls : List Line) : List PayloadField := (items ls).map Item.payloadField

/-- The field of a response that an item describes. -/
def Item.field (i : Item) : Arg :=
  { name := String.ofList i.name, type := textValue i.note, description := textValue i.text }

/-! ## Settings -/

/-- One part of the note of a setting. -/
inductive SettingPart where
  | required
  | env (name : Line)
  | default (value : Line)
  | type (part : Line)

/-- Read a part of the note of a setting; the key words are recognised in any letter case. -/
def SettingPart.ofChars (part : Line) : SettingPart :=
  let low := Text.lower part
  if low == requiredWord then .required
  else if Text.startsWith "env=".toList low then .env (Text.strip (part.drop 4))
  else if Text.startsWith "default=".toList low then .default (Text.strip (part.drop 8))
  else .type part

/-- The parts of the note of a setting; an empty note has none. -/
def settingParts (note : Line) : List SettingPart :=
  if note.isEmpty then []
  else (Text.splitAtChar ',' note).map fun p => SettingPart.ofChars (Text.strip p)

/-- The setting that an item describes. Of repeated parts the last one counts. -/
def Entry.configField (e : Entry) : ConfigField :=
  let parts := settingParts e.item.note
  let types := parts.filterMap fun | .type p => some p | _ => none
  let envs := parts.filterMap fun | .env v => some v | _ => none
  let defaults := parts.filterMap fun | .default v => some v | _ => none
  { name := String.ofList e.item.name
    type := textValue (Text.strip (Text.joinWith [',', ' '] types))
    description := textValue e.description
    default := (defaults.getLast?.map textValue).getD .none
    required := parts.any fun | .required => true | _ => false
    envVar := textValue (envs.getLast?.getD []) }

/-- The settings that a section describes. -/
def configFieldsOf (ls : List Line) : List ConfigField := (entries ls).map Entry.configField

/-! ## Exceptions -/

/-- The exception that an item describes. -/
def Entry.raise (e : Entry) : Raise :=
  ⟨String.ofList e.item.name, String.ofList e.description⟩

/-- A line with a colon names an exception even when it is no item line. -/
def exceptionName? (l : Line) : Option Line :=
  let s := Text.strip l
  if s.contains ':' then some (Text.strip (s.takeWhile (· != ':'))) else none

/-- The exceptions that a section describes. Until an exception is named, a line with a
    colon that is no item line names one; its description is what continues it. -/
def raisesOf : List Line → List Raise
  | [] => []
  | l :: ls =>
    match Item.ofLine? l with
    | some _ => (entries (l :: ls)).map Entry.raise
    | none =>
      match exceptionName? l with
      | none => raisesOf ls
      | some name =>
        let description := Text.strip (Text.joinWith [' '] ((continuation ls).map Text.strip))
        ⟨String.ofList name, String.ofList description⟩ :: (entries ls).map Entry.raise

end Docsmith.Docstring
