-- SUMMARY: Syntax trees reduced to what counts for measuring them.
import Docsmith.Source.Tree

/-!
# Outlines

The outline of a piece of source keeps the shape of its tree. Each node carries
only the mark that a measure looks at: a branch, a block, a connective with the
number of its operands, a call with its callee, and so on.
-/

namespace Docsmith.Source

/-- What a node of a tree is, as far as measures are concerned. -/
inductive Mark where
  /-- A choice or a loop: one more path, and one more level of nesting. -/
  | branch
  /-- A `with` block. -/
  | context
  /-- An assertion. -/
  | check
  /-- A connective with the number of its operands. -/
  | connective (operands : Nat)
  /-- A comprehension with the number of its clauses. -/
  | comprehension (clauses : Nat)
  /-- A call of the given expression. -/
  | call (callee : Expr)
  /-- Anything else. -/
  | plain

/-- A tree of marks. -/
inductive Outline where
  | mk (mark : Mark) (children : List Outline)

/-- The outline of a node that no measure looks at. -/
def Outline.plain (children : List Outline) : Outline := .mk .plain children

mutual

/-- The outline of an expression. -/
def Expr.outline : Expr → Outline
  | .boolOp _ values => .mk (.connective values.length) (outlines values)
  | .named target value => .plain [target.outline, value.outline]
  | .binary left _ right => .plain [left.outline, right.outline]
  | .unary _ operand => .plain [operand.outline]
  | .lambda params body => .plain (params.outlines ++ [body.outline])
  | .ifElse test body orelse => .mk .branch [test.outline, body.outline, orelse.outline]
  | .dict items => .plain (outlinesOfItems items)
  | .set elts => .plain (outlines elts)
  | .listComp elt clauses =>
    .mk (.comprehension clauses.length) (elt.outline :: outlinesOfClauses clauses)
  | .setComp elt clauses =>
    .mk (.comprehension clauses.length) (elt.outline :: outlinesOfClauses clauses)
  | .dictComp key value clauses =>
    .mk (.comprehension clauses.length) (key.outline :: value.outline :: outlinesOfClauses clauses)
  | .generator elt clauses =>
    .mk (.comprehension clauses.length) (elt.outline :: outlinesOfClauses clauses)
  | .await value => .plain [value.outline]
  | .yield value => .plain (outline? value)
  | .yieldFrom value => .plain [value.outline]
  | .compare left rest => .plain (left.outline :: outlinesOfComparands rest)
  | .call func args keywords =>
    .mk (.call func) (func.outline :: (outlines args ++ outlinesOfKeywords keywords))
  | .formatted value _ spec => .plain (value.outline :: outline? spec)
  | .joined values => .plain (outlines values)
  | .constant _ => .plain []
  | .attribute value _ => .plain [value.outline]
  | .subscript value index => .plain [value.outline, index.outline]
  | .starred value => .plain [value.outline]
  | .name _ => .plain []
  | .list elts => .plain (outlines elts)
  | .tuple elts => .plain (outlines elts)
  | .slice lower upper step => .plain (outline? lower ++ outline? upper ++ outline? step)

/-- The outline of an expression that may be missing. -/
def outline? : Option Expr → List Outline
  | none => []
  | some e => [e.outline]

/-- The outlines of several expressions. -/
def outlines : List Expr → List Outline
  | [] => []
  | e :: es => e.outline :: outlines es

/-- The outlines of the entries of a dictionary display. -/
def outlinesOfItems : List DictItem → List Outline
  | [] => []
  | .pair key value :: items => key.outline :: value.outline :: outlinesOfItems items
  | .spread value :: items => value.outline :: outlinesOfItems items

/-- The outlines of the right operands of comparisons. -/
def outlinesOfComparands : List Comparand → List Outline
  | [] => []
  | .mk _ right :: rest => right.outline :: outlinesOfComparands rest

/-- The outlines of the clauses of a comprehension. -/
def outlinesOfClauses : List Clause → List Outline
  | [] => []
  | .mk _ target iter conditions :: rest =>
    .plain (target.outline :: iter.outline :: outlines conditions) :: outlinesOfClauses rest

/-- The outlines of named arguments. -/
def outlinesOfKeywords : List Keyword → List Outline
  | [] => []
  | .mk _ value :: rest => .plain [value.outline] :: outlinesOfKeywords rest

/-- The outlines of the annotations and defaults of parameters. -/
def outlinesOfParams : List Param → List Outline
  | [] => []
  | .mk _ type value :: ps => .plain (outline? type ++ outline? value) :: outlinesOfParams ps

/-- The outline of a parameter that may be missing. -/
def outlineOfParam? : Option Param → List Outline
  | none => []
  | some (.mk _ type value) => [.plain (outline? type ++ outline? value)]

/-- The outlines of a parameter list. -/
def Params.outlines : Params → List Outline
  | .mk positional regular rest named namedRest =>
    outlinesOfParams positional ++ outlinesOfParams regular ++ outlineOfParam? rest
      ++ outlinesOfParams named ++ outlineOfParam? namedRest

end

mutual

/-- The outline of a pattern. -/
def Pattern.outline : Pattern → Outline
  | .value e => .plain [e.outline]
  | .singleton _ => .plain []
  | .sequence items => .plain (outlinesOfPatterns items)
  | .mapping keys items _ => .plain (outlines keys ++ outlinesOfPatterns items)
  | .record cls items _ named =>
    .plain (cls.outline :: (outlinesOfPatterns items ++ outlinesOfPatterns named))
  | .star _ => .plain []
  | .capture inner _ => .plain (outlineOfPattern? inner)
  | .choice items => .plain (outlinesOfPatterns items)

/-- The outline of a pattern that may be missing. -/
def outlineOfPattern? : Option Pattern → List Outline
  | none => []
  | some p => [p.outline]

/-- The outlines of several patterns. -/
def outlinesOfPatterns : List Pattern → List Outline
  | [] => []
  | p :: ps => p.outline :: outlinesOfPatterns ps

end

/-- The outline of an item of a `with` statement. -/
def WithItem.outline (i : WithItem) : Outline := .plain (i.context.outline :: outline? i.target)

mutual

/-- The outline of a statement. -/
def Stmt.outline : Stmt → Outline
  | .function _ _ _ params body decorators returns =>
    .plain (params.outlines ++ outlinesOfBody body ++ outlines decorators ++ outline? returns)
  | .classDef _ _ bases keywords body decorators =>
    .plain (outlines bases ++ outlinesOfKeywords keywords ++ outlinesOfBody body
      ++ outlines decorators)
  | .ret value => .plain (outline? value)
  | .delete targets => .plain (outlines targets)
  | .assign targets value => .plain (outlines targets ++ [value.outline])
  | .augAssign target _ value => .plain [target.outline, value.outline]
  | .annAssign target type value _ => .plain (target.outline :: type.outline :: outline? value)
  | .forLoop _ target iter body orelse =>
    .mk .branch (target.outline :: iter.outline :: (outlinesOfBody body ++ outlinesOfBody orelse))
  | .whileLoop test body orelse =>
    .mk .branch (test.outline :: (outlinesOfBody body ++ outlinesOfBody orelse))
  | .ifElse test body orelse =>
    .mk .branch (test.outline :: (outlinesOfBody body ++ outlinesOfBody orelse))
  | .withBlock isAsync items body =>
    .mk (if isAsync then .plain else .context) (items.map WithItem.outline ++ outlinesOfBody body)
  | .matchOn subject cases => .plain (subject.outline :: outlinesOfCases cases)
  | .raise exc cause => .plain (outline? exc ++ outline? cause)
  | .tryBlock _ body handlers orelse final =>
    .plain (outlinesOfBody body ++ outlinesOfHandlers handlers ++ outlinesOfBody orelse
      ++ outlinesOfBody final)
  | .assert test message => .mk .check (test.outline :: outline? message)
  | .importNames _ => .plain []
  | .importFrom _ _ _ => .plain []
  | .global _ => .plain []
  | .nonlocal _ => .plain []
  | .expr value => .plain [value.outline]
  | .pass => .plain []
  | .breakLoop => .plain []
  | .continueLoop => .plain []

/-- The outlines of the statements of a body. -/
def outlinesOfBody : List Stmt → List Outline
  | [] => []
  | s :: ss => s.outline :: outlinesOfBody ss

/-- The outlines of the handlers of a `try` statement; each is a branch. -/
def outlinesOfHandlers : List Handler → List Outline
  | [] => []
  | .mk type _ body :: hs =>
    .mk .branch (outline? type ++ outlinesOfBody body) :: outlinesOfHandlers hs

/-- The outlines of the cases of a `match` statement. -/
def outlinesOfCases : List MatchCase → List Outline
  | [] => []
  | .mk pattern guard body :: cs =>
    .plain (pattern.outline :: (outline? guard ++ outlinesOfBody body)) :: outlinesOfCases cs

end

/-- The children of the outline of a function. -/
def FunctionDef.outlines (f : FunctionDef) : List Outline :=
  f.params.outlines ++ outlinesOfBody f.body ++ Source.outlines f.decorators ++ outline? f.returns

end Docsmith.Source
