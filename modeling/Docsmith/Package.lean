-- SUMMARY: What can be imported from the documentation package.
import Docsmith.Fault
import Docsmith.Release

/-!
# The package

The package that documented projects import offers a decorator for metadata and,
from its parts, the tools and records of the generator.
-/

namespace Docsmith.Package

/-- Something that the package offers: its name, the part of the package that it comes from,
    and whether it is listed among the public names. -/
structure Export where
  name : String
  home : String
  isListed : Bool := true

/-- The full name of a part of the package. -/
def partName (part : String) : String := siteName ++ "." ++ part

/-- The parts of the package. -/
def parts : List String := ["builder", "cli", "config", "parser", "plugin", "scanner", "types"]

/-- The records that the package offers. -/
def records : List String := [
  "DocType", "ModuleDoc", "ClassDoc", "FunctionDoc", "MethodDoc", "PageDoc", "ParsedDocstring",
  "ArgDoc", "ReturnDoc", "RaiseDoc", "ResponseDoc", "HeaderDoc", "PayloadFieldDoc",
  "ConfigFieldDoc", "CustomDocTypeDef", "CustomSectionDef", "DocumentationData"]

/-- What the package offers. -/
def exports : List Export := [
  ⟨"doc", siteName, true⟩, ⟨"__getattr__", siteName, false⟩,
  ⟨"Scanner", partName "scanner", true⟩, ⟨"scan_directory", partName "scanner", true⟩,
  ⟨"DocstringParser", partName "parser", true⟩, ⟨"load_config", partName "config", true⟩,
  ⟨"create_default_config", partName "config", true⟩, ⟨"build_docs", partName "builder", true⟩,
  ⟨"plug", partName "plugin", true⟩]
  ++ records.map fun name => ⟨name, partName "types", true⟩

/-- The name of the attribute that tells where something comes from. -/
def homeAttribute : String := "__module__"

/-- Names in the package that are plain texts, and those that are lists. -/
def plainNames : List (String × String) := [
  ("__version__", "str"), ("__doc__", "str"), ("__name__", "str"), ("__package__", "str"),
  ("__file__", "str"), ("__all__", "list"), ("__path__", "list")]

/-- Where a name of the package comes from. -/
def find (name : String) : Answer Export :=
  match exports.find? (·.name == name) with
  | some e => .ok e
  | none =>
    if parts.contains name then
      .error (.unknownMember ("module " ++ Value.quote (partName name)) homeAttribute)
    else match plainNames.find? (·.1 == name) with
      | some (_, kind) => .error (.unknownMember (Value.quote kind ++ " object") homeAttribute)
      | none => .error (.unknownMember ("module " ++ Value.quote siteName) name)

/-- Mark something with metadata: it stays what it is. -/
def mark (_info : Entries) (v : α) : α := v

end Docsmith.Package
