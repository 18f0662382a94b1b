-- SUMMARY: The canonical text of an expression.
import Docsmith.Decimal.Shortest
import Docsmith.Source.Printer.Quote
import Docsmith.Source.Tree

/-!
# Printing expressions

Every expression has one canonical text. Parentheses follow from the strength
with which the surroundings bind: an expression is put into parentheses when its
surroundings bind more tightly than it does itself. Fields of formatted texts
may not hold a backslash, so a few expressions have no text.
-/

namespace Docsmith.Source

/-- Why an expression has no text. -/
inductive PrintFault where
  /-- A field of a formatted text would hold a backslash. -/
  | backslashInField
  /-- A formatted text holds something other than plain text and fields. -/
  | strayPart
deriving Repr, DecidableEq

/-- A text, or why there is none. -/
abbrev Printed := Except PrintFault String

/-- Strengths of binding, from the loosest to the tightest. -/
abbrev Strength := Nat

namespace Strength

def named : Strength := 1
def tuple : Strength := 2
def yield : Strength := 3
def test : Strength := 4
def or : Strength := 5
def and : Strength := 6
def not : Strength := 7
def compare : Strength := 8
def bitOr : Strength := 9
def bitXor : Strength := 10
def bitAnd : Strength := 11
def shift : Strength := 12
def sum : Strength := 13
def product : Strength := 14
def factor : Strength := 15
def power : Strength := 16
def await : Strength := 17
def atom : Strength := 18

/-- The next tighter strength; nothing is tighter than an atom. -/
def next (s : Strength) : Strength := if s < atom then s + 1 else s

end Strength

/-- The sign of an operator with one operand. -/
def UnaryOp.sign : UnaryOp → String
  | .invert => "~"
  | .not => "not "
  | .plus => "+"
  | .minus => "-"

/-- How tightly an operator with one operand binds. -/
def UnaryOp.strength : UnaryOp → Strength
  | .not => Strength.not
  | _ => Strength.factor

/-- The sign of an operator with two operands. -/
def BinaryOp.sign : BinaryOp → String
  | .add => "+"
  | .sub => "-"
  | .mult => "*"
  | .matMult => "@"
  | .div => "/"
  | .mod => "%"
  | .pow => "**"
  | .shiftLeft => "<<"
  | .shiftRight => ">>"
  | .bitOr => "|"
  | .bitXor => "^"
  | .bitAnd => "&"
  | .floorDiv => "//"

/-- How tightly an operator with two operands binds. -/
def BinaryOp.strength : BinaryOp → Strength
  | .add | .sub => Strength.sum
  | .mult | .matMult | .div | .mod | .floorDiv => Strength.product
  | .pow => Strength.power
  | .shiftLeft | .shiftRight => Strength.shift
  | .bitOr => Strength.bitOr
  | .bitXor => Strength.bitXor
  | .bitAnd => Strength.bitAnd

/-- The word of a connective. -/
def BoolOp.word : BoolOp → String
  | .and => "and"
  | .or => "or"

/-- How tightly a connective binds. -/
def BoolOp.strength : BoolOp → Strength
  | .and => Strength.and
  | .or => Strength.or

/-- The sign of a comparison. -/
def CompareOp.sign : CompareOp → String
  | .eq => "=="
  | .notEq => "!="
  | .lt => "<"
  | .ltE => "<="
  | .gt => ">"
  | .gtE => ">="
  | .is => "is"
  | .isNot => "is not"
  | .isIn => "in"
  | .notIn => "not in"

/-- A number that no literal denotes is written by one that overflows to infinity. -/
def overflowing (text : String) : String :=
  let replaced := Text.replace "inf".toList "1e309".toList text.toList
  String.ofList (Text.replace "nan".toList "(1e309-1e309)".toList replaced)

/-- The text of a constant. With `quiet` set, texts avoid backslashes. -/
def Constant.print (quiet : Bool) : Constant → String
  | .none => "None"
  | .bool true => "True"
  | .bool false => "False"
  | .int n => toString n
  | .float x => overflowing (Decimal.number.write x)
  | .imaginary x => overflowing (Decimal.component.write x ++ "j")
  | .str s marked =>
    let body := if quiet then Quote.write Quote.all s.toList else Text.quoted s.toList
    (if marked then "u" else "") ++ String.ofList body
  | .bytes bs => String.ofList (Text.quotedBytes bs)
  | .ellipsis => "..."

/-- Put a text into parentheses when the surroundings bind more tightly. -/
def wrap (outer own : Strength) (text : String) : String :=
  if own < outer then "(" ++ text ++ ")" else text

/-- Texts between commas; a single one is followed by a comma. -/
def commas : List String → String
  | [t] => t ++ ","
  | ts => ", ".intercalate ts

/-- Double the braces of a text. -/
def doubleBraces (cs : List Char) : List Char :=
  cs.flatMap fun c => if c == '\x7b' || c == '\x7d' then [c, c] else [c]

/-- An integer constant needs a blank before a point. -/
def Expr.isInteger : Expr → Bool
  | .constant (.int _) | .constant (.bool _) => true
  | _ => false

/-- The items of a tuple that needs no parentheses in a subscript. -/
def Expr.tupleSize : Expr → Nat
  | .tuple es => es.length
  | _ => 0

/-- The expression is plain text inside a formatted text. -/
def Expr.isPlain : Expr → Bool
  | .constant _ => true
  | _ => false

/-- A field of a formatted text, given the text of its expression. -/
def field (t : String) (conversion : Option Char) (spec : Option String) : Printed :=
  if t.contains '\\' then .error .backslashInField
  else
    let gap := if t.startsWith "\x7b" then " " else ""
    let mark := match conversion with
      | none => ""
      | some c => "!" ++ String.singleton c
    let format := match spec with
      | none => ""
      | some f => ":" ++ f
    .ok ("\x7b" ++ gap ++ t ++ mark ++ format ++ "\x7d")

/-- The name of a parameter. -/
def Param.name : Param → String
  | .mk n _ _ => n

mutual

/-- The text of an expression whose surroundings bind with strength `outer`. With `quiet` set,
    text literals avoid backslashes. -/
def Expr.print (quiet : Bool) (outer : Strength) : Expr → Printed
  | .boolOp op values => do
    let ts ← printRising quiet op.strength values
    return wrap outer op.strength ((" " ++ op.word ++ " ").intercalate ts)
  | .named target value => do
    let t ← target.print quiet Strength.atom
    let v ← value.print quiet Strength.atom
    return wrap outer Strength.named (t ++ " := " ++ v)
  | .binary left op right => do
    let s := op.strength
    let (ls, rs) := if op = .pow then (s.next, s) else (s, s.next)
    let l ← left.print quiet ls
    let r ← right.print quiet rs
    return wrap outer s (l ++ " " ++ op.sign ++ " " ++ r)
  | .unary op operand => do
    let t ← operand.print quiet op.strength
    return wrap outer op.strength (op.sign ++ t)
  | .lambda params body => do
    let ps ← params.print quiet
    let t ← body.print quiet Strength.test
    return wrap outer Strength.test
      ("lambda" ++ (if ps.isEmpty then "" else " " ++ ps) ++ ": " ++ t)
  | .ifElse test body orelse => do
    let b ← body.print quiet Strength.test.next
    let t ← test.print quiet Strength.test.next
    let e ← orelse.print quiet Strength.test
    return wrap outer Strength.test (b ++ " if " ++ t ++ " else " ++ e)
  | .dict items => do
    let ts ← printItems quiet items
    return "\x7b" ++ ", ".intercalate ts ++ "\x7d"
  | .set elts => do
    let ts ← printAll quiet Strength.test elts
    return if ts.isEmpty then "\x7b*()\x7d" else "\x7b" ++ ", ".intercalate ts ++ "\x7d"
  | .listComp elt clauses => do
    return "[" ++ (← elt.print quiet Strength.test) ++ (← printClauses quiet clauses) ++ "]"
  | .setComp elt clauses => do
    return "\x7b" ++ (← elt.print quiet Strength.test) ++ (← printClauses quiet clauses) ++ "\x7d"
  | .dictComp key value clauses => do
    let k ← key.print quiet Strength.test
    let v ← value.print quiet Strength.test
    return "\x7b" ++ k ++ ": " ++ v ++ (← printClauses quiet clauses) ++ "\x7d"
  | .generator elt clauses => do
    return "(" ++ (← elt.print quiet Strength.test) ++ (← printClauses quiet clauses) ++ ")"
  | .await value => do
    return wrap outer Strength.await ("await " ++ (← value.print quiet Strength.atom))
  | .yield value => do
    match value with
    | none => return wrap outer Strength.yield "yield"
    | some e => return wrap outer Strength.yield ("yield " ++ (← e.print quiet Strength.atom))
  | .yieldFrom value => do
    return wrap outer Strength.yield ("yield from " ++ (← value.print quiet Strength.atom))
  | .compare left rest => do
    let l ← left.print quiet Strength.compare.next
    return wrap outer Strength.compare (l ++ (← printComparands quiet rest))
  | .call func args keywords => do
    let f ← func.print quiet Strength.atom
    let as ← printAll quiet Strength.test args
    let ks ← printKeywords quiet keywords
    return f ++ "(" ++ ", ".intercalate (as ++ ks) ++ ")"
  | .formatted value conversion spec => do
    let t ← value.print true Strength.or
    match spec with
    | none => field t conversion none
    | some e => field t conversion (some (← e.printInner))
  | .joined values => do
    if quiet then
      let parts ← printParts values
      return "f" ++ String.ofList (Quote.write Quote.all (parts.flatMap (·.1)))
    else return "f" ++ String.ofList (Quote.join (← printParts values))
  | .constant c => return c.print quiet
  | .attribute value attr => do
    let v ← value.print quiet Strength.atom
    return v ++ (if value.isInteger then " ." else ".") ++ attr
  | .subscript value index => do
    let v ← value.print quiet Strength.atom
    let i ← index.print quiet (if index.tupleSize == 0 then Strength.test else Strength.tuple)
    return v ++ "[" ++ i ++ "]"
  | .starred value => do
    return "*" ++ (← value.print quiet Strength.bitOr)
  | .name id => return id
  | .list elts => do
    return "[" ++ ", ".intercalate (← printAll quiet Strength.test elts) ++ "]"
  | .tuple elts => do
    let ts ← printAll quiet Strength.test elts
    return if ts.isEmpty then "()" else wrap outer Strength.tuple (commas ts)
  | .slice lower upper step => do
    let l ← match lower with
      | none => .ok ""
      | some e => e.print quiet Strength.test
    let u ← match upper with
      | none => .ok ""
      | some e => e.print quiet Strength.test
    let s ← match step with
      | none => .ok ""
      | some e => (":" ++ ·) <$> e.print quiet Strength.test
    return l ++ ":" ++ u ++ s

/-- The text of an expression inside a formatted text: plain text with doubled braces, or a
    field. -/
def Expr.printInner : Expr → Printed
  | .joined values => do
    return String.ofList ((← printParts values).flatMap (·.1))
  | .constant (.str s _) => return String.ofList (doubleBraces s.toList)
  | .formatted value conversion spec => do
    let t ← value.print true Strength.or
    match spec with
    | none => field t conversion none
    | some e => field t conversion (some (← e.printInner))
  | _ => .error .strayPart

/-- The parts of a formatted text, each with whether it is plain text. -/
def printParts : List Expr → Except PrintFault (List (List Char × Bool))
  | [] => .ok []
  | e :: es => do
    let t ← e.printInner
    return (t.toList, e.isPlain) :: (← printParts es)

/-- The texts of several expressions. -/
def printAll (quiet : Bool) (outer : Strength) : List Expr → Except PrintFault (List String)
  | [] => .ok []
  | e :: es => do
    let t ← e.print quiet outer
    return t :: (← printAll quiet outer es)

/-- The texts of the operands of a connective: each binds more tightly than the one before. -/
def printRising (quiet : Bool) (s : Strength) : List Expr → Except PrintFault (List String)
  | [] => .ok []
  | e :: es => do
    let t ← e.print quiet s.next
    return t :: (← printRising quiet s.next es)

/-- The text of the comparisons after the first operand. -/
def printComparands (quiet : Bool) : List Comparand → Printed
  | [] => .ok ""
  | .mk op right :: rest => do
    let t ← right.print quiet Strength.compare.next
    return " " ++ op.sign ++ " " ++ t ++ (← printComparands quiet rest)

/-- The texts of the entries of a dictionary display. -/
def printItems (quiet : Bool) : List DictItem → Except PrintFault (List String)
  | [] => .ok []
  | .pair key value :: items => do
    let k ← key.print quiet Strength.test
    let v ← value.print quiet Strength.test
    return (k ++ ": " ++ v) :: (← printItems quiet items)
  | .spread value :: items => do
    let v ← value.print quiet Strength.bitOr
    return ("**" ++ v) :: (← printItems quiet items)

/-- The text of the clauses of a comprehension. -/
def printClauses (quiet : Bool) : List Clause → Printed
  | [] => .ok ""
  | .mk isAsync target iter conditions :: rest => do
    let t ← target.print quiet Strength.tuple
    let i ← iter.print quiet Strength.test.next
    let cs ← printAll quiet Strength.test.next conditions
    return (if isAsync then " async for " else " for ") ++ t ++ " in " ++ i
      ++ String.join (cs.map (" if " ++ ·)) ++ (← printClauses quiet rest)

/-- The texts of named arguments. -/
def printKeywords (quiet : Bool) : List Keyword → Except PrintFault (List String)
  | [] => .ok []
  | .mk name value :: rest => do
    let v ← value.print quiet Strength.test
    let t := match name with
      | none => "**" ++ v
      | some n => n ++ "=" ++ v
    return t :: (← printKeywords quiet rest)

/-- The text of a parameter with its annotation and default. -/
def Param.print (quiet : Bool) : Param → Printed
  | .mk n type value => do
    let a ← match type with
      | none => .ok ""
      | some e => (": " ++ ·) <$> e.print quiet Strength.test
    let d ← match value with
      | none => .ok ""
      | some e => ("=" ++ ·) <$> e.print quiet Strength.test
    return n ++ a ++ d

/-- The texts of several parameters. -/
def printParams (quiet : Bool) : List Param → Except PrintFault (List String)
  | [] => .ok []
  | p :: ps => do
    let t ← p.print quiet
    return t :: (← printParams quiet ps)

/-- The text of a parameter list. -/
def Params.print (quiet : Bool) : Params → Printed
  | .mk positional regular rest named namedRest => do
    let ps ← printParams quiet positional
    let rs ← printParams quiet regular
    let star ← match rest with
      | some p => (fun t => ["*" ++ t]) <$> p.print quiet
      | none => .ok (if named.isEmpty then [] else ["*"])
    let ns ← printParams quiet named
    let last ← match namedRest with
      | some p => (fun t => ["**" ++ t]) <$> p.print quiet
      | none => .ok []
    let slash := if ps.isEmpty then [] else ["/"]
    return ", ".intercalate (ps ++ slash ++ rs ++ star ++ ns ++ last)

end

/-- The canonical text of an expression that stands alone. -/
def Expr.text (e : Expr) : Printed := e.print false Strength.test

/-- The canonical text of a parameter list. -/
def Params.text (ps : Params) : Printed := ps.print false

end Docsmith.Source
