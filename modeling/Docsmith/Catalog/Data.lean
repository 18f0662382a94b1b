-- SUMMARY: The catalog as data.
import Docsmith.Catalog.Basic
import Docsmith.Docstring.Data

/-!
# The catalog as data

The records of the catalog as they stand in the finished documentation.
-/

namespace Docsmith

/-- The data of a routine after its documentation, as far as functions and methods share it. -/
def Routine.tailData (r : Routine) : List (String × Value) := [
  ("source", .str r.source), ("line_number", .int r.lineNumber),
  ("decorators", .texts r.decorators), ("calls", .texts r.calls),
  ("doc_type", .str r.kind.name), ("signature_hash", .str r.signatureHash),
  ("body_hash", .str r.bodyHash), ("complexity", .int r.complexity),
  ("is_deprecated", .bool r.isDeprecated), ("deprecation_message", .str r.deprecationMessage),
  ("deprecation_since", .str r.deprecationSince), ("category", .str r.category),
  ("version", .str r.version), ("hidden", .bool r.hidden)]

/-- A method as data. -/
def MethodDoc.data (m : MethodDoc) : Value := .object ([
  ("name", .str m.name), ("module", .str m.module), ("signature", .str m.signature),
  ("docstring", m.docstring.data), ("is_async", .bool m.isAsync),
  ("is_classmethod", .bool m.isClassMethod), ("is_staticmethod", .bool m.isStaticMethod),
  ("is_property", .bool m.isProperty)] ++ m.tailData)

/-- A function as data. -/
def FunctionDoc.data (f : FunctionDoc) : Value := .object ([
  ("name", .str f.name), ("module", .str f.module), ("full_path", .str f.fullPath),
  ("signature", .str f.signature), ("docstring", f.docstring.data),
  ("is_async", .bool f.isAsync)] ++ f.tailData)

/-- A class as data. -/
def ClassDoc.data (c : ClassDoc) : Value := .object [
  ("name", .str c.name), ("module", .str c.module), ("full_path", .str c.fullPath),
  ("docstring", c.docstring.data), ("bases", .texts c.bases),
  ("methods", .list (c.methods.map MethodDoc.data)), ("source", .str c.source),
  ("line_number", .int c.lineNumber), ("decorators", .texts c.decorators),
  ("doc_type", .str Kind.objectClass.name), ("signature_hash", .str c.signatureHash),
  ("body_hash", .str c.bodyHash)]

/-- A note about open work as data. -/
def Todo.data (t : Todo) : Value := .object [
  ("tag", .str t.tag), ("text", .str t.text), ("file_path", .str t.filePath),
  ("line_number", .int t.lineNumber), ("module", .str t.module)]

/-- A module as data. -/
def ModuleDoc.data (m : ModuleDoc) : Value := .object [
  ("name", .str m.name), ("full_path", .str m.fullPath), ("file_path", .str m.filePath),
  ("docstring", .str m.docstring), ("classes", .list (m.classes.map ClassDoc.data)),
  ("functions", .list (m.functions.map FunctionDoc.data)),
  ("todos", .list (m.todos.map Todo.data))]

/-- A page as data. -/
def PageDoc.data (p : PageDoc) : Value := .object [
  ("title", .str p.title), ("slug", .str p.slug), ("content", .str p.content),
  ("file_path", .str p.filePath), ("order", .int p.order)]

end Docsmith
