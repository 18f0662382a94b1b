-- SUMMARY: Syntax trees of the documented language.

/-!
# Syntax trees

The trees that a source file is read into. A parameter carries its own default
value. Whether a name is read, assigned or deleted follows from where it stands
and is not stored. Definitions record where they stand in the file, because
their text is shown in the documentation.
-/

namespace Docsmith.Source

/-- A place in a file: the line a definition starts on, and the offsets of its first
    character and of the character after its last one. -/
structure Span where
  line : Nat
  start : Nat
  stop : Nat
deriving Repr, DecidableEq

/-- A constant. `marked` records that a text was written with the mark `u`. -/
inductive Constant where
  | none
  | bool (b : Bool)
  | int (n : Nat)
  | float (x : Float)
  | imaginary (x : Float)
  | str (s : String) (marked : Bool)
  | bytes (bs : List UInt8)
  | ellipsis

/-- Operators with one operand. -/
inductive UnaryOp where
  | invert
  | not
  | plus
  | minus
deriving Repr, DecidableEq

/-- Operators with two operands. -/
inductive BinaryOp where
  | add
  | sub
  | mult
  | matMult
  | div
  | mod
  | pow
  | shiftLeft
  | shiftRight
  | bitOr
  | bitXor
  | bitAnd
  | floorDiv
deriving Repr, DecidableEq

/-- The two short-circuit connectives. -/
inductive BoolOp where
  | and
  | or
deriving Repr, DecidableEq

/-- Comparisons. -/
inductive CompareOp where
  | eq
  | notEq
  | lt
  | ltE
  | gt
  | gtE
  | is
  | isNot
  | isIn
  | notIn
deriving Repr, DecidableEq

mutual

/-- Expressions. -/
inductive Expr where
  | boolOp (op : BoolOp) (values : List Expr)
  | named (target value : Expr)
  | binary (left : Expr) (op : BinaryOp) (right : Expr)
  | unary (op : UnaryOp) (operand : Expr)
  | lambda (params : Params) (body : Expr)
  | ifElse (test body orelse : Expr)
  | dict (items : List DictItem)
  | set (elts : List Expr)
  | listComp (elt : Expr) (clauses : List Clause)
  | setComp (elt : Expr) (clauses : List Clause)
  | dictComp (key value : Expr) (clauses : List Clause)
  | generator (elt : Expr) (clauses : List Clause)
  | await (value : Expr)
  | yield (value : Option Expr)
  | yieldFrom (value : Expr)
  | compare (left : Expr) (rest : List Comparand)
  | call (func : Expr) (args : List Expr) (keywords : List Keyword)
  | formatted (value : Expr) (conversion : Option Char) (spec : Option Expr)
  | joined (values : List Expr)
  | constant (value : Constant)
  | attribute (value : Expr) (attr : String)
  | subscript (value index : Expr)
  | starred (value : Expr)
  | name (id : String)
  | list (elts : List Expr)
  | tuple (elts : List Expr)
  | slice (lower upper step : Option Expr)

/-- An entry of a dictionary display: a key with its value, or a mapping to copy. -/
inductive DictItem where
  | pair (key value : Expr)
  | spread (value : Expr)

/-- One comparison of a chain: the operator and its right operand. -/
inductive Comparand where
  | mk (op : CompareOp) (right : Expr)

/-- A `for` clause of a comprehension with its conditions. -/
inductive Clause where
  | mk (isAsync : Bool) (target iter : Expr) (conditions : List Expr)

/-- A named argument of a call, or a mapping to copy when it has no name. -/
inductive Keyword where
  | mk (name : Option String) (value : Expr)

/-- A parameter with its annotation and its default. -/
inductive Param where
  | mk (name : String) (type : Option Expr) (default : Option Expr)

/-- The parameters of a function, in the order of a signature. -/
inductive Params where
  | mk (positional regular : List Param) (rest : Option Param) (named : List Param)
      (namedRest : Option Param)

end

/-- Patterns of a `match` statement. -/
inductive Pattern where
  | value (e : Expr)
  | singleton (c : Constant)
  | sequence (items : List Pattern)
  | mapping (keys : List Expr) (items : List Pattern) (rest : Option String)
  | record (cls : Expr) (items : List Pattern) (names : List String) (named : List Pattern)
  | star (name : Option String)
  | capture (inner : Option Pattern) (name : Option String)
  | choice (items : List Pattern)

/-- An imported name with the name it is bound to. -/
structure Alias where
  name : String
  bound : Option String

/-- An item of a `with` statement: a context and the target it is bound to. -/
structure WithItem where
  context : Expr
  target : Option Expr

mutual

/-- Statements. -/
inductive Stmt where
  | function (isAsync : Bool) (span : Span) (name : String) (params : Params)
      (body : List Stmt) (decorators : List Expr) (returns : Option Expr)
  | classDef (span : Span) (name : String) (bases : List Expr) (keywords : List Keyword)
      (body : List Stmt) (decorators : List Expr)
  | ret (value : Option Expr)
  | delete (targets : List Expr)
  | assign (targets : List Expr) (value : Expr)
  | augAssign (target : Expr) (op : BinaryOp) (value : Expr)
  | annAssign (target type : Expr) (value : Option Expr) (bare : Bool)
  | forLoop (isAsync : Bool) (target iter : Expr) (body orelse : List Stmt)
  | whileLoop (test : Expr) (body orelse : List Stmt)
  | ifElse (test : Expr) (body orelse : List Stmt)
  | withBlock (isAsync : Bool) (items : List WithItem) (body : List Stmt)
  | matchOn (subject : Expr) (cases : List MatchCase)
  | raise (exc cause : Option Expr)
  | tryBlock (isGroup : Bool) (body : List Stmt) (handlers : List Handler)
      (orelse final : List Stmt)
  | assert (test : Expr) (message : Option Expr)
  | importNames (names : List Alias)
  | importFrom (module : Option String) (names : List Alias) (level : Nat)
  | global (names : List String)
  | nonlocal (names : List String)
  | expr (value : Expr)
  | pass
  | breakLoop
  | continueLoop

/-- A handler of a `try` statement. -/
inductive Handler where
  | mk (type : Option Expr) (name : Option String) (body : List Stmt)

/-- A case of a `match` statement. -/
inductive MatchCase where
  | mk (pattern : Pattern) (guard : Option Expr) (body : List Stmt)

end

instance : Inhabited Expr := ⟨.constant .none⟩
instance : Inhabited Stmt := ⟨.pass⟩

/-- A function or method definition. -/
structure FunctionDef where
  isAsync : Bool
  span : Span
  name : String
  params : Params
  body : List Stmt
  decorators : List Expr
  returns : Option Expr

/-- A class definition. -/
structure ClassDef where
  span : Span
  name : String
  bases : List Expr
  keywords : List Keyword
  body : List Stmt
  decorators : List Expr

/-- The function that a statement defines. -/
def Stmt.function? : Stmt → Option FunctionDef
  | .function a s n p b d r => some ⟨a, s, n, p, b, d, r⟩
  | _ => none

/-- The class that a statement defines. -/
def Stmt.class? : Stmt → Option ClassDef
  | .classDef s n b k body d => some ⟨s, n, b, k, body, d⟩
  | _ => none

/-- A function definition as a statement. -/
def FunctionDef.toStmt (f : FunctionDef) : Stmt :=
  .function f.isAsync f.span f.name f.params f.body f.decorators f.returns

/-- A class definition as a statement. -/
def ClassDef.toStmt (c : ClassDef) : Stmt :=
  .classDef c.span c.name c.bases c.keywords c.body c.decorators

end Docsmith.Source
