-- SUMMARY: Names of base classes and decorators.
import Docsmith.Source.Printer.Expr

/-!
# Names of expressions

A base class or a decorator is shown by its dotted name where it has one. A
subscript is shown with dots for its index. Any other expression is shown by its
canonical text.
-/

namespace Docsmith.Source

/-- The name that a base class is shown by. -/
def Expr.shownName : Expr → Printed
  | .name id => .ok id
  | .attribute value attr => do return (← value.shownName) ++ "." ++ attr
  | .subscript value _ => do return (← value.shownName) ++ "[...]"
  | e => e.text

/-- The name that a decorator is shown by: that of its callee if it is a call. -/
def Expr.decoratorName : Expr → Printed
  | .name id => .ok id
  | .attribute value attr => do return (← value.shownName) ++ "." ++ attr
  | .call func _ _ => func.decoratorName
  | e => e.text

end Docsmith.Source
