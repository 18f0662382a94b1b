-- SUMMARY: Reading a whole source file, or a single expression.
import Docsmith.Source.Grammar.Stmt
import Docsmith.Text.Lines

/-!
# Reading source texts

`parse` reads a file as a list of statements, `parseExpr` a text as one
expression. A text that is no program is reported by the furthest token that any
rule looked at: when that token opens or closes a block, the indentation is at
fault.
-/

namespace Docsmith.Source

open Rule Grammar

/-- What is reported when no rule applies and `far` is the furthest token looked at. -/
def faultAt (ts : List Token) (far : Nat) : Fault :=
  match ts.find? fun t => t.index == far with
  | some t => if t.kind == .indent || t.kind == .dedent then .indentation else .malformed
  | none => .malformed

/-- Apply a rule to a text. -/
def apply (rule : Rule α) (cs : List Char) : Except Fault α :=
  let ts := tokens cs
  match rule ⟨ts, 0, 0⟩ with
  | .read a _ => .ok a
  | .stuck far => .error (faultAt ts far)
  | .fault why => .error why

/-- The text ends in a line feed. -/
def endLine (cs : List Char) : List Char :=
  if cs.getLast? == some '\n' then cs else cs ++ ['\n']

/-- The rule for a file, for texts of up to `size` characters. -/
def file (size : Nat) : Rule (List Stmt) := do
  let b := rules size
  let body ← statements b (block b size) size .finish
  let _ ← expectKind .finish
  return body

/-- Read a file. -/
def parseChars (cs : List Char) : Except Fault (List Stmt) :=
  let text := endLine (Text.unifyBreaks cs)
  if cs.contains '\x00' then .error .nulByte else apply (file (text.length + 2)) text

/-- Read a file. -/
def parse (source : String) : Except Fault (List Stmt) := parseChars source.toList

/-- The rule for a text that is one expression. -/
def single (size : Nat) : Rule Expr := do
  let e ← tupleOf (rules size).expression
  let _ ← many do
    let t ← peek
    if t.kind == .newline then
      advance
      return some ()
    else return none
  let _ ← expectKind .finish
  return e

/-- Read an expression. -/
def parseExpr (source : String) : Except Fault Expr :=
  let text := Text.unifyBreaks source.toList
  if text.contains '\x00' then .error .nulByte else apply (single (text.length + 2)) text

end Docsmith.Source
