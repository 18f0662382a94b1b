-- SUMMARY: Grammar of statements.
import Docsmith.Source.Grammar.Pattern

/-!
# Statements

Simple statements share a logical line; compound statements own a block. Rules
for compound statements are written over the rule for a block, and `block` ties
the knot. A header without a block under it is a fault of indentation.
-/

namespace Docsmith.Source.Grammar

open Rule

/-! ## Simple statements -/

/-- Signs of assignments that combine the old value with a new one. -/
def augmented : List (String × BinaryOp) := [
  ("+=", .add), ("-=", .sub), ("*=", .mult), ("@=", .matMult), ("/=", .div), ("%=", .mod),
  ("&=", .bitAnd), ("|=", .bitOr), ("^=", .bitXor), ("<<=", .shiftLeft), (">>=", .shiftRight),
  ("**=", .pow), ("//=", .floorDiv)]

/-- Further targets and the value of an assignment, after its first sign; `targets` holds the
    newest first. -/
def assignRest (b : Below) : Nat → List Expr → Rule Stmt
  | 0, _ => fail
  | fuel + 1, targets => do
    let yields ← sees "yield"
    let e ← yieldOrStar b
    if ← accept "=" then
      if !yields && isTarget e then assignRest b fuel (e :: targets) else fail
    else return .assign targets.reverse e

/-- An assignment, or an expression as a statement. -/
def assignOrExpr (b : Below) : Rule Stmt := do
  let grouped ← sees "("
  let e ← starExpressions b
  if ← accept ":" then
    if isSingle e then
      let note ← b.expression
      let value ← if ← accept "=" then some <$> yieldOrStar b else Rule.pure none
      let bare := match e with | .name _ => !grouped | _ => false
      return .annAssign e note value bare
    else fail
  else if ← accept "=" then
    if isTarget e then fun c => assignRest b (c.ahead.length + 1) [e] c else fail
  else
    let t ← peek
    match augmented.find? fun a => t.is a.1 with
    | some (_, op) =>
      if isSingle e then
        advance
        return .augAssign e op (← yieldOrStar b)
      else fail
    | none => return .expr e

/-- A name with dots. -/
def dottedName : Rule String := do
  let n ← name
  let rest ← many do
    if ← accept "." then return some (← name) else return none
  return ".".intercalate (n :: rest)

/-- The name that an imported name is bound to. -/
def bound : Rule (Option String) := do
  if ← accept "as" then return some (← name) else return none

/-- An import of modules. -/
def importNames : Rule Stmt := do
  expect "import"
  let (names, trailing) ← commaList do
    let n ← dottedName
    return Alias.mk n (← bound)
  if trailing then fail else return .importNames names

/-- The dots in front of a module name. -/
def importLevel : Rule Nat := do
  let dots ← many do
    if ← accept "." then return some 1
    else if ← accept "..." then return some 3
    else return none
  return dots.foldl (· + ·) 0

/-- An import of names from a module. -/
def importFrom : Rule Stmt := do
  expect "from"
  let level ← importLevel
  let module ← if ← sees "import" then
      if level == 0 then fail else Rule.pure none
    else some <$> dottedName
  expect "import"
  let item : Rule Alias := do
    let n ← name
    return Alias.mk n (← bound)
  if ← accept "*" then return .importFrom module [⟨"*", none⟩] level
  else if ← accept "(" then
    let (names, _) ← commaList item
    expect ")"
    return .importFrom module names level
  else
    let (names, trailing) ← commaList item
    if trailing then fail else return .importFrom module names level

/-- Names between commas. -/
def nameList : Rule (List String) := do
  let (names, trailing) ← commaList name
  if trailing then fail else return names

/-- Something to delete. -/
def deleteTarget (b : Below) : Rule Expr := do
  let e ← b.primary
  if isDeletable e then return e else fail

/-- The next token ends a simple statement. -/
def seesEnd : Rule Bool := do
  let t ← peek
  return t.kind == .newline || t.is ";"

/-- A statement without a block. -/
def simple (b : Below) : Rule Stmt := do
  let t ← peek
  if t.kind != .name then assignOrExpr b
  else match t.text with
    | "return" => do
      advance
      return .ret (← option (starExpressions b))
    | "import" => importNames
    | "from" => importFrom
    | "raise" => do
      advance
      match ← option b.expression with
      | none => return .raise none none
      | some e =>
        if ← accept "from" then return .raise (some e) (some (← b.expression))
        else return .raise (some e) none
    | "pass" => do
      advance
      return .pass
    | "del" => do
      advance
      let (ts, _) ← commaList (deleteTarget b)
      if ← seesEnd then return .delete ts else fail
    | "yield" => return .expr (← yieldExpr b)
    | "assert" => do
      advance
      let e ← b.expression
      if ← accept "," then return .assert e (some (← b.expression)) else return .assert e none
    | "break" => do
      advance
      return .breakLoop
    | "continue" => do
      advance
      return .continueLoop
    | "global" => do
      advance
      return .global (← nameList)
    | "nonlocal" => do
      advance
      return .nonlocal (← nameList)
    | _ => assignOrExpr b

/-- The simple statements of one logical line, and its end. -/
def simpleLine (b : Below) : Rule (List Stmt) := do
  let first ← simple b
  let rest ← many do
    if ← accept ";" then
      if (← peek).kind == .newline then return none else return some (← simple b)
    else return none
  let _ ← expectKind .newline
  return first :: rest

/-! ## Compound statements -/

/-- A colon and a block. -/
def suite (block : Rule (List Stmt)) : Rule (List Stmt) := do
  expect ":"
  block

/-- An `else` branch, possibly absent. -/
def elseBranch (block : Rule (List Stmt)) : Rule (List Stmt) := do
  if ← accept "else" then suite block else return []

/-- The rest of a conditional statement after its first keyword. -/
def ifRest (b : Below) (block : Rule (List Stmt)) : Nat → Rule Stmt
  | 0 => fail
  | fuel + 1 => do
    let test ← namedExpression b
    let body ← suite block
    if ← accept "elif" then return .ifElse test body [← ifRest b block fuel]
    else return .ifElse test body (← elseBranch block)

/-- The rest of a `for` statement after its keyword. -/
def forRest (b : Below) (block : Rule (List Stmt)) (isAsync : Bool) : Rule Stmt := do
  let target ← starTargets b
  expect "in"
  let iter ← starExpressions b
  let body ← suite block
  return .forLoop isAsync target iter body (← elseBranch block)

/-- An item of a `with` statement. -/
def withItem (b : Below) : Rule WithItem := do
  let e ← b.expression
  if ← accept "as" then
    let t ← starTarget b
    if ← seesAny [",", ")", ":"] then return ⟨e, some t⟩ else fail
  else return ⟨e, none⟩

/-- The items of a `with` statement in parentheses, up to the colon, which is not read. -/
def groupedItems (b : Below) : Rule (List WithItem) := do
  expect "("
  let (items, _) ← commaList (withItem b)
  expect ")"
  if ← sees ":" then return items else fail

/-- The items of a `with` statement without parentheses. -/
def plainItems (b : Below) : Rule (List WithItem) := do
  let (items, trailing) ← commaList (withItem b)
  if trailing then fail else return items

/-- The rest of a `with` statement after its keyword. -/
def withRest (b : Below) (block : Rule (List Stmt)) (isAsync : Bool) : Rule Stmt := do
  let items ← orElse (groupedItems b) (plainItems b)
  return .withBlock isAsync items (← suite block)

/-- A handler of a `try` statement, if one of the given kind follows. -/
def handler? (b : Below) (block : Rule (List Stmt)) (isGroup : Bool) : Rule (Option Handler) := do
  if ← accept "except" then
    if isGroup then
      expect "*"
      let e ← b.expression
      let n ← bound
      return some (.mk (some e) n (← suite block))
    else if ← sees ":" then return some (.mk none none (← suite block))
    else
      let e ← b.expression
      let n ← bound
      return some (.mk (some e) n (← suite block))
  else return none

/-- A `finally` branch, possibly absent. -/
def finallyBranch (block : Rule (List Stmt)) : Rule (List Stmt) := do
  if ← accept "finally" then suite block else return []

/-- The rest of a `try` statement after its keyword. -/
def tryRest (b : Below) (block : Rule (List Stmt)) : Rule Stmt := do
  let body ← suite block
  if ← sees "finally" then return .tryBlock false body [] [] (← finallyBranch block)
  else if ← sees "except" then
    let isGroup := (← peekSecond).is "*"
    let handlers ← many (handler? b block isGroup)
    let orelse ← elseBranch block
    return .tryBlock isGroup body handlers orelse (← finallyBranch block)
  else fail

/-- A function definition; `decorators` stand above it. -/
def functionDef (b : Below) (block : Rule (List Stmt)) (decorators : List Expr) : Rule Stmt := do
  let t ← peek
  let isAsync ← accept "async"
  expect "def"
  let n ← name
  expect "("
  let ps ← paramList b true ")"
  expect ")"
  let returns ← if ← accept "->" then some <$> b.expression else Rule.pure none
  let body ← suite block
  return .function isAsync ⟨t.line, t.start, ← endOffset⟩ n ps body decorators returns

/-- A class definition; `decorators` stand above it. -/
def classDef (b : Below) (block : Rule (List Stmt)) (decorators : List Expr) : Rule Stmt := do
  let t ← peek
  expect "class"
  let n ← name
  let a ← if ← accept "(" then
      fun c => arguments b (c.ahead.length + 1) ⟨[], [], false, false⟩ c
    else Rule.pure ⟨[], [], false, false⟩
  let body ← suite block
  return .classDef ⟨t.line, t.start, ← endOffset⟩ n a.args.reverse a.keywords.reverse body decorators

/-- A decorator line, if one follows. -/
def decorator? (b : Below) : Rule (Option Expr) := do
  if ← accept "@" then
    let e ← namedExpression b
    let _ ← expectKind .newline
    return some e
  else return none

/-- A definition with decorators above it. -/
def decorated (b : Below) (block : Rule (List Stmt)) : Rule Stmt := do
  let ds ← many (decorator? b)
  if ← sees "class" then classDef b block ds else functionDef b block ds

/-- What a `match` statement looks at. -/
def subject (b : Below) : Rule Expr := do
  let starred ← sees "*"
  let e ← starNamed b
  if ← accept "," then
    if ← sees ":" then return .tuple [e]
    else
      let (es, _) ← commaList (starNamed b)
      return .tuple (e :: es)
  else if starred then fail
  else return e

/-- A case of a `match` statement, if one follows. -/
def matchCase? (b : Below) (block : Rule (List Stmt)) (depth : Nat) :
    Rule (Option MatchCase) := do
  if (← peek).is "case" then
    advance
    let p ← casePattern b depth
    let guard ← if ← accept "if" then some <$> namedExpression b else Rule.pure none
    return some (.mk p guard (← suite block))
  else return none

/-- A `match` statement. -/
def matchStmt (b : Below) (block : Rule (List Stmt)) (depth : Nat) : Rule Stmt := do
  expect "match"
  let e ← subject b
  expect ":"
  let _ ← expectKind .newline
  let _ ← expectKind .indent
  let cases ← many (matchCase? b block depth)
  let _ ← expectKind .dedent
  if cases.isEmpty then fail else return .matchOn e cases

/-- A statement; a line may hold several simple ones. -/
def statement (b : Below) (block : Rule (List Stmt)) (depth : Nat) : Rule (List Stmt) := do
  let t ← peek
  if t.is "@" then return [← decorated b block]
  else if t.kind != .name then simpleLine b
  else match t.text with
    | "def" => return [← functionDef b block []]
    | "class" => return [← classDef b block []]
    | "if" => do
      advance
      return [← fun c => ifRest b block (c.ahead.length + 1) c]
    | "for" => do
      advance
      return [← forRest b block false]
    | "while" => do
      advance
      let test ← namedExpression b
      let body ← suite block
      return [.whileLoop test body (← elseBranch block)]
    | "with" => do
      advance
      return [← withRest b block false]
    | "try" => do
      advance
      return [← tryRest b block]
    | "async" => do
      let next ← peekSecond
      if next.is "def" then return [← functionDef b block []]
      else if next.is "with" then
        advance
        advance
        return [← withRest b block true]
      else if next.is "for" then
        advance
        advance
        return [← forRest b block true]
      else fail
    | "match" => orElse (do return [← matchStmt b block depth]) (simpleLine b)
    | _ => simpleLine b

/-- The statements up to a token of the given kind, which is not read. -/
def statements (b : Below) (block : Rule (List Stmt)) (depth : Nat) (close : TokenKind) :
    Rule (List Stmt) := do
  let groups ← many do
    if (← peek).kind == close then return none else return some (← statement b block depth)
  return groups.flatten

/-- A block with a given number of levels below it: the rest of a line, or indented lines. -/
def block (b : Below) : Nat → Rule (List Stmt)
  | 0 => fail
  | n + 1 => do
    if (← peek).kind == .newline then
      advance
      if (← peek).kind == .indent then
        advance
        let body ← statements b (fun c => block b n c) n .dedent
        let _ ← expectKind .dedent
        if body.isEmpty then fail else return body
      else refuse .indentation
    else simpleLine b

end Docsmith.Source.Grammar
