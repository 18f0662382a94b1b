-- SUMMARY: Kinds of documentation that a project defines in its settings.
import Docsmith.Docstring.Basic
import Docsmith.Text.Letter
import Docsmith.Text.Lines
import Docsmith.Value.Access

/-!
# Kinds that a project defines

The settings name kinds of documentation, each with a label, an icon and
sections. A section is given by its name alone or by a dictionary; anything else
among the sections is passed over.
-/

namespace Docsmith.Settings

/-- The section that an item stands for. -/
def sectionOf? : Value → Option CustomSection
  | .str name => some { name := .str name }
  | .dict es => some {
      name := (Entries.getText? es "name").getD (.str "")
      format := (Entries.getText? es "format").getD (.str "text") }
  | _ => none

/-- The label of a kind that has none: its name with blanks for underscores, as a title. -/
def defaultLabel (name : String) : String :=
  String.ofList (Text.title (Text.replace ['_'] [' '] name.toList))

/-- The kind with a name and a definition. -/
def kindOf (name : String) (definition : Value) : Answer CustomKind := do
  let sections := (← definition.itemsOf "sections").filterMap sectionOf?
  let label ← definition.getD "label" (.str (defaultLabel name))
  return ⟨name, label, ← definition.getD "icon" (.str "file"), sections⟩

/-- The kinds that settings define. -/
def kindsOf (definitions : Value) : Answer (List CustomKind) := do
  (← definitions.entries).mapM fun (name, definition) => do kindOf (← name.asText) definition

/-- A section as data. -/
def sectionData (s : CustomSection) : Value := .object [("name", s.name), ("format", s.format)]

/-- A kind as data. -/
def kindData (k : CustomKind) : Value := .object [
  ("name", .str k.name), ("label", k.label), ("icon", k.icon),
  ("sections", .list (k.sections.map sectionData))]

end Docsmith.Settings
