-- SUMMARY: Scanning a source file.
import Docsmith.Catalog.Basic
import Docsmith.Decorator.Deprecation
import Docsmith.Decorator.Endpoint
import Docsmith.Decorator.Metadata
import Docsmith.Docstring.Overlay
import Docsmith.Docstring.Parse
import Docsmith.Project.FileTree
import Docsmith.Project.ModulePath
import Docsmith.Signature.Printer
import Docsmith.Source.Definitions
import Docsmith.Source.Fingerprint
import Docsmith.Source.Metrics
import Docsmith.Source.Parse

/-!
# Scanning

A source file is read, and every function and class at its top level is
documented. What its decorators say about a function comes before what its
documentation text says. A file that is no program has an empty record.
-/

namespace Docsmith

open Source

/-- An answer that hangs on the text of some expression. -/
def printing (r : Except PrintFault α) : Answer α := r.mapError .unprintable

/-- A source file being scanned: the kinds of documentation it may use, the path of its
    module, and its text. -/
structure Scan where
  kinds : List CustomKind
  module : String
  source : List Char

/-- The text of a definition. -/
def Scan.segment (s : Scan) (span : Span) : String :=
  String.ofList ((s.source.drop span.start).take (span.stop - span.start))

/-- What decorators say about the deprecation of a function, over what else is known. -/
def overrideDeprecation (info : Entries) (d : Decorator.Deprecation) : Decorator.Deprecation :=
  match info.getText? "deprecated" with
  | none => d
  | some (.str s) => if s.isEmpty then { d with deprecated := false }
    else { d with deprecated := true, since := s }
  | some v => { d with deprecated := v.isTrue }

/-- The kind that metadata asks for, if it names one. -/
def kindOfMetadata? (info : Entries) : Option Kind :=
  (info.getText? "doc_type").bind Kind.ofValue?

/-- Fill in the method and the path of an endpoint where the documentation gives none. -/
def fillEndpoint (e : Decorator.Endpoint) (d : Docstring) : Docstring :=
  { d with
    method := if d.method.isEmpty then e.method else d.method
    path := if d.path.isEmpty then e.path else d.path }

/-- The documentation of a function: the text, filled in from its decorators, under its
    metadata. -/
def Scan.docstring (s : Scan) (f : FunctionDef) (info : Entries) : Answer Docstring := do
  let endpoint ← printing (Decorator.endpoint? f)
  let kind : Kind := (kindOfMetadata? info).getD (if endpoint.isSome then .api else .function)
  let parsed := Docstring.parse s.kinds (some kind) (documentationOf f.body)
  let filled := match endpoint with
    | some e => if kind = Kind.api then fillEndpoint e parsed else parsed
    | none => parsed
  filled.overlay info

/-- Document a function or a method. -/
def Scan.routine (s : Scan) (f : FunctionDef) : Answer Routine := do
  let decorators ← printing (f.decorators.mapM Expr.decoratorName)
  let info ← Decorator.metadata f
  let docstring ← s.docstring f info
  let signature ← printing f.signature
  let deprecation := overrideDeprecation info (Decorator.deprecation f (documentationOf f.body))
  let signatureText ← printing f.signatureText
  let statements ← printing f.statementTexts
  let body ← printing f.bodyText
  return {
    name := f.name
    module := s.module
    signature := signature
    docstring := docstring
    isAsync := f.isAsync
    source := s.segment f.span
    lineNumber := f.span.line
    decorators := decorators
    calls := f.calls
    kind := docstring.kind
    signatureHash := Digest.short signatureText
    bodyHash := Digest.short body
    statementHashes := statements.map Digest.short
    callHash := Digest.short f.callText
    complexity := f.complexity
    cognitiveWeight := f.cognitiveWeight
    isDeprecated := deprecation.deprecated
    deprecationMessage := deprecation.message
    deprecationSince := deprecation.since
    category := (Docstring.partD info "category" (.str "")).text
    version := (Docstring.partD info "version" (.str "")).text
    hidden := (Docstring.partD info "hidden" (.bool false)).isTrue }

/-- Document a function. -/
def Scan.functionDoc (s : Scan) (f : FunctionDef) : Answer FunctionDoc := do
  return { toRoutine := ← s.routine f, fullPath := s.module ++ "." ++ f.name }

/-- A decorator that belongs to a property. -/
def marksProperty (name : String) : Bool :=
  name == "property" || [".setter", ".getter", ".deleter"].any fun w =>
    Text.contains w.toList name.toList

/-- Document a method. -/
def Scan.methodDoc (s : Scan) (f : FunctionDef) : Answer MethodDoc := do
  let r ← s.routine f
  return {
    toRoutine := r
    isClassMethod := r.decorators.contains "classmethod"
    isStaticMethod := r.decorators.contains "staticmethod"
    isProperty := r.decorators.any marksProperty }

/-- Document a class. -/
def Scan.classDoc (s : Scan) (c : ClassDef) : Answer ClassDoc := do
  let docstring := Docstring.parse s.kinds (some .objectClass) (documentationOf c.body)
  let bases ← printing (c.bases.mapM Expr.shownName)
  let decorators ← printing (c.decorators.mapM Expr.decoratorName)
  let methods ← (functionsOf c.body).mapM s.methodDoc
  let signatureText ← printing c.signatureText
  return {
    name := c.name
    module := s.module
    fullPath := s.module ++ "." ++ c.name
    docstring := docstring
    bases := bases
    methods := methods
    source := s.segment c.span
    lineNumber := c.span.line
    decorators := decorators
    signatureHash := Digest.short signatureText
    bodyHash := Digest.short c.bodyText }

/-- The classes and functions of a file. -/
structure Definitions where
  classes : List ClassDoc
  functions : List FunctionDoc

/-- Document the definitions of a file in order. -/
def Scan.definitions (s : Scan) : List Stmt → Answer Definitions
  | [] => .ok ⟨[], []⟩
  | stmt :: rest =>
    match stmt.class?, stmt.function? with
    | some c, _ => do
      let doc ← s.classDoc c
      let ds ← s.definitions rest
      return { ds with classes := doc :: ds.classes }
    | none, some f => do
      let doc ← s.functionDoc f
      let ds ← s.definitions rest
      return { ds with functions := doc :: ds.functions }
    | none, none => s.definitions rest

/-- Document a source file. -/
def scanModule (kinds : List CustomKind) (file base : Path) (bytes : List UInt8) :
    Answer ModuleDoc := do
  let source := readText bytes
  match parse source with
  | .error .nulByte => throw (.notAProgram .nulByte)
  | .error _ =>
    return {
      name := file.stem
      fullPath := ← modulePath file base
      filePath := file.text
      docstring := "" }
  | .ok body =>
    let path ← modulePath file base
    let ds ← Scan.definitions ⟨kinds, path, source.toList⟩ body
    return {
      name := file.stem
      fullPath := path
      filePath := file.text
      docstring := documentationOf body
      classes := ds.classes
      functions := ds.functions
      todos := Todo.ofSource source file.text path }

end Docsmith
