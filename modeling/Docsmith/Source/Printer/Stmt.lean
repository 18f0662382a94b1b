-- SUMMARY: The canonical text of a statement.
import Docsmith.Source.Printer.Expr

/-!
# Printing statements

A statement is printed as lines, four blanks to a level. A definition inside
another statement is set off by an empty line. A text that opens a body is
printed as documentation, between triple quotes.
-/

namespace Docsmith.Source

/-- Lines, or why there are none. -/
abbrev PrintedLines := Except PrintFault (List String)

/-- A line at a level of nesting. -/
def lineAt (level : Nat) (text : String) : String :=
  String.ofList (List.replicate (4 * level) ' ') ++ text

/-- The text that opens a body, with its mark. -/
def openingText? : List Stmt → Option (String × Bool)
  | .expr (.constant (.str s marked)) :: _ => some (s, marked)
  | _ => none

/-- An optional expression after some words. -/
def printAfter (words : String) : Option Expr → Printed
  | none => .ok ""
  | some e => (words ++ ·) <$> e.text

/-- An imported name. -/
def Alias.print (a : Alias) : String :=
  match a.bound with
  | none => a.name
  | some b => a.name ++ " as " ++ b

/-- An item of a `with` statement. -/
def WithItem.print (i : WithItem) : Printed := do
  return (← i.context.text) ++ (← printAfter " as " i.target)

/-- The text of a constant pattern. -/
def Constant.pattern (c : Constant) : String := c.print false

mutual

/-- The text of a pattern whose surroundings bind with strength `outer`. -/
def Pattern.print (outer : Strength) : Pattern → Printed
  | .value e => e.text
  | .singleton c => .ok c.pattern
  | .sequence items => do
    return "[" ++ ", ".intercalate (← printPatterns Strength.test items) ++ "]"
  | .mapping keys items rest => do
    let ts ← printEntries keys items
    let last := match rest with
      | none => []
      | some n => ["**" ++ n]
    return "\x7b" ++ ", ".intercalate (ts ++ last) ++ "\x7d"
  | .record cls items names named => do
    let c ← cls.print false Strength.atom
    let ts ← printPatterns Strength.test items
    let ns ← printNamed names named
    return c ++ "(" ++ ", ".intercalate (ts ++ ns) ++ ")"
  | .star name => .ok ("*" ++ name.getD "_")
  | .capture inner name => do
    match name with
    | none => return "_"
    | some n =>
      match inner with
      | none => return n
      | some p => return wrap outer Strength.test ((← p.print Strength.bitOr) ++ " as " ++ n)
  | .choice items => do
    return wrap outer Strength.bitOr
      (" | ".intercalate (← printPatterns Strength.bitOr.next items))

/-- The texts of several patterns. -/
def printPatterns (outer : Strength) : List Pattern → Except PrintFault (List String)
  | [] => .ok []
  | p :: ps => do
    let t ← p.print outer
    return t :: (← printPatterns outer ps)

/-- The texts of the entries of a mapping pattern. -/
def printEntries : List Expr → List Pattern → Except PrintFault (List String)
  | k :: ks, p :: ps => do
    let t ← k.text
    let v ← p.print Strength.test
    return (t ++ ": " ++ v) :: (← printEntries ks ps)
  | _, _ => .ok []

/-- The texts of the named arguments of a class pattern. -/
def printNamed : List String → List Pattern → Except PrintFault (List String)
  | n :: ns, p :: ps => do
    let v ← p.print Strength.test
    return (n ++ "=" ++ v) :: (← printNamed ns ps)
  | _, _ => .ok []

end

/-- Decorator lines. -/
def printDecorators (level : Nat) (ds : List Expr) : PrintedLines :=
  ds.mapM fun d => do return lineAt level ("@" ++ (← d.text))

/-- A text in triple quotes, as documentation is written. -/
def documentation (level : Nat) (s : String) (marked : Bool) : String :=
  lineAt level ((if marked then "u" else "") ++ String.ofList (Quote.write Quote.multi s.toList))

mutual

/-- The lines of a statement at a level of nesting; `branch` is the word that opens a
    conditional statement. -/
def Stmt.print (level : Nat) (branch : String) : Stmt → PrintedLines
  | .function isAsync _ name params body decorators returns => do
    let ds ← printDecorators level decorators
    let ps ← params.text
    let r ← printAfter " -> " returns
    let head := (if isAsync then "async def " else "def ") ++ name ++ "(" ++ ps ++ ")" ++ r ++ ":"
    let b ← printBody (level + 1) true body
    return "" :: ds ++ lineAt level head :: b
  | .classDef _ name bases keywords body decorators => do
    let ds ← printDecorators level decorators
    let bs ← printAll false Strength.test bases
    let ks ← printKeywords false keywords
    let inner := bs ++ ks
    let args := if inner.isEmpty then "" else "(" ++ ", ".intercalate inner ++ ")"
    let b ← printBody (level + 1) true body
    return "" :: ds ++ lineAt level ("class " ++ name ++ args ++ ":") :: b
  | .ret value => do return [lineAt level ("return" ++ (← printAfter " " value))]
  | .delete targets => do
    return [lineAt level ("del " ++ ", ".intercalate (← printAll false Strength.test targets))]
  | .assign targets value => do
    let ts ← printAll false Strength.tuple targets
    return [lineAt level (String.join (ts.map (· ++ " = ")) ++ (← value.text))]
  | .augAssign target op value => do
    return [lineAt level ((← target.text) ++ " " ++ op.sign ++ "= " ++ (← value.text))]
  | .annAssign target type value bare => do
    let t ← target.text
    let isName := match target with | .name _ => true | _ => false
    let t := if !bare && isName then "(" ++ t ++ ")" else t
    return [lineAt level (t ++ ": " ++ (← type.text) ++ (← printAfter " = " value))]
  | .forLoop isAsync target iter body orelse => do
    let head := (if isAsync then "async for " else "for ") ++ (← target.print false Strength.tuple)
      ++ " in " ++ (← iter.text) ++ ":"
    let b ← printBody (level + 1) false body
    return lineAt level head :: b ++ (← printElse level "else:" orelse)
  | .whileLoop test body orelse => do
    let head := "while " ++ (← test.text) ++ ":"
    let b ← printBody (level + 1) false body
    return lineAt level head :: b ++ (← printElse level "else:" orelse)
  | .ifElse test body orelse => do
    let head := branch ++ " " ++ (← test.text) ++ ":"
    let b ← printBody (level + 1) false body
    let rest ← printOrelse level orelse
    return lineAt level head :: b ++ rest
  | .withBlock isAsync items body => do
    let is ← items.mapM WithItem.print
    let head := (if isAsync then "async with " else "with ") ++ ", ".intercalate is ++ ":"
    return lineAt level head :: (← printBody (level + 1) false body)
  | .matchOn subject cases => do
    let head := "match " ++ (← subject.text) ++ ":"
    return lineAt level head :: (← printCases (level + 1) cases)
  | .raise exc cause => do
    match exc with
    | none => return [lineAt level "raise"]
    | some e => return [lineAt level ("raise " ++ (← e.text) ++ (← printAfter " from " cause))]
  | .tryBlock isGroup body handlers orelse final => do
    let b ← printBody (level + 1) false body
    let hs ← printHandlers level isGroup handlers
    let e ← printElse level "else:" orelse
    let f ← printElse level "finally:" final
    return lineAt level "try:" :: b ++ hs ++ e ++ f
  | .assert test message => do
    return [lineAt level ("assert " ++ (← test.text) ++ (← printAfter ", " message))]
  | .importNames names => .ok [lineAt level ("import " ++ ", ".intercalate (names.map Alias.print))]
  | .importFrom module names depth =>
    let dots := String.ofList (List.replicate depth '.')
    .ok [lineAt level ("from " ++ dots ++ module.getD "" ++ " import "
      ++ ", ".intercalate (names.map Alias.print))]
  | .global names => .ok [lineAt level ("global " ++ ", ".intercalate names)]
  | .nonlocal names => .ok [lineAt level ("nonlocal " ++ ", ".intercalate names)]
  | .expr value => do return [lineAt level (← value.print false Strength.yield)]
  | .pass => .ok [lineAt level "pass"]
  | .breakLoop => .ok [lineAt level "break"]
  | .continueLoop => .ok [lineAt level "continue"]

/-- The lines of a body; `documented` tells whether a text at its start is documentation. -/
def printBody (level : Nat) (documented : Bool) : List Stmt → PrintedLines
  | [] => .ok []
  | s :: ss => do
    let first ← match documented, openingText? [s] with
      | true, some (t, marked) => .ok [documentation level t marked]
      | _, _ => s.print level "if"
    return first ++ (← printBody level false ss)

/-- The lines of a further branch, if it is there. -/
def printElse (level : Nat) (head : String) : List Stmt → PrintedLines
  | [] => .ok []
  | s :: ss => do
    let first ← s.print (level + 1) "if"
    return lineAt level head :: first ++ (← printBody (level + 1) false ss)

/-- The lines of the other branch of a conditional statement: a single conditional statement
    continues the first one. -/
def printOrelse (level : Nat) : List Stmt → PrintedLines
  | [] => .ok []
  | s :: ss => do
    let chained := match s, ss with
      | .ifElse _ _ _, [] => true
      | _, _ => false
    if chained then s.print level "elif"
    else
      let first ← s.print (level + 1) "if"
      return lineAt level "else:" :: first ++ (← printBody (level + 1) false ss)

/-- The lines of the handlers of a `try` statement. -/
def printHandlers (level : Nat) (isGroup : Bool) : List Handler → PrintedLines
  | [] => .ok []
  | .mk type name body :: hs => do
    let t ← printAfter " " type
    let n := match name with
      | none => ""
      | some n => " as " ++ n
    let head := (if isGroup then "except*" else "except") ++ t ++ n ++ ":"
    let b ← printBody (level + 1) false body
    return lineAt level head :: b ++ (← printHandlers level isGroup hs)

/-- The lines of the cases of a `match` statement. -/
def printCases (level : Nat) : List MatchCase → PrintedLines
  | [] => .ok []
  | .mk pattern guard body :: cs => do
    let p ← pattern.print Strength.test
    let g ← printAfter " if " guard
    let b ← printBody (level + 1) false body
    return lineAt level ("case " ++ p ++ g ++ ":") :: b ++ (← printCases level cs)

end

/-- The canonical text of a statement that stands alone. -/
def Stmt.text (s : Stmt) : Printed := do
  match ← s.print 0 "if" with
  | "" :: ls => return "\n".intercalate ls
  | ls => return "\n".intercalate ls

end Docsmith.Source
