-- SUMMARY: Texts that stand for a definition, and their digests.
import Docsmith.Digest.Sha256
import Docsmith.Source.Calls
import Docsmith.Source.Documentation
import Docsmith.Source.Dump
import Docsmith.Source.Printer.Stmt

/-!
# Fingerprints

Two versions of a definition are compared by the digests of texts that stand for
its signature, its body and its calls. The documentation text is not part of a
body. The body of a class is spelled out as trees, that of a function is printed.
-/

namespace Docsmith.Source

/-- The text that stands for the signature of a function. -/
def FunctionDef.signatureText (f : FunctionDef) : Printed := do
  let params ← f.params.text
  let returns ← match f.returns with
    | none => .ok []
    | some e => (fun t => [t]) <$> e.text
  let decorators ← f.decorators.mapM Expr.text
  return "|".intercalate ([f.name, params] ++ returns ++ decorators)

/-- The texts of the statements of a function. -/
def FunctionDef.statementTexts (f : FunctionDef) : Except PrintFault (List String) :=
  (withoutDocumentation f.body).mapM Stmt.text

/-- The text that stands for the body of a function. -/
def FunctionDef.bodyText (f : FunctionDef) : Printed := do
  return "\n".intercalate (← f.statementTexts)

/-- The text that stands for the signature of a class. -/
def ClassDef.signatureText (c : ClassDef) : Printed := do
  let bases ← c.bases.mapM Expr.text
  let decorators ← c.decorators.mapM Expr.text
  return "|".intercalate (c.name :: (bases ++ decorators))

/-- The text that stands for the body of a class. -/
def ClassDef.bodyText (c : ClassDef) : String :=
  "\n".intercalate ((withoutDocumentation c.body).map Stmt.dump)

end Docsmith.Source
