-- SUMMARY: Grammar of expressions.
import Docsmith.Source.Grammar.Format

/-!
# Expressions

Every rule is written over `Below`, the rules for what stands deeper: inside
brackets, after an operator that binds to the right, in the body of a lambda.
`rules` ties the knot: each level hands the next one down as its `Below`. A rule
reads at least one token before it goes below, so a text of `n` characters needs
fewer than `n` levels.
-/

namespace Docsmith.Source.Grammar

open Rule

/-- The rules for parts that stand deeper. -/
structure Below where
  expression : Rule Expr
  disjunction : Rule Expr
  inversion : Rule Expr
  bitOr : Rule Expr
  factor : Rule Expr
  primary : Rule Expr

/-- The next token is one of the given keywords or symbols. -/
def seesAny (texts : List String) : Rule Bool := do
  let t ← peek
  return texts.any t.is

/-! ## Names, starred items and lists of items -/

/-- The next two tokens are a name and the given symbol. -/
def seesNamed (text : String) : Rule Bool := do
  if (← peek).name?.isSome then return (← peekSecond).is text else return false

/-- An expression, or a name bound to one. -/
def namedExpression (b : Below) : Rule Expr := do
  if ← seesNamed ":=" then
    let n ← name
    advance
    return .named (.name n) (← b.expression)
  else
    let e ← b.expression
    if ← sees ":=" then fail else return e

/-- An item of a display: starred, or an expression that may bind a name. -/
def starNamed (b : Below) : Rule Expr := do
  if ← accept "*" then return .starred (← b.bitOr) else namedExpression b

/-- An item of an expression list: starred, or an expression. -/
def starExpression (b : Below) : Rule Expr := do
  if ← accept "*" then return .starred (← b.bitOr) else b.expression

/-- One item, or several items as a tuple. -/
def tupleOf (item : Rule Expr) : Rule Expr := do
  match ← commaList item with
  | ([e], false) => return e
  | (es, _) => return .tuple es

/-- Expressions between commas. -/
def starExpressions (b : Below) : Rule Expr := tupleOf (starExpression b)

/-- A `yield` expression. -/
def yieldExpr (b : Below) : Rule Expr := do
  expect "yield"
  if ← accept "from" then return .yieldFrom (← b.expression)
  else return .yield (← option (starExpressions b))

/-- A `yield` expression or expressions between commas. -/
def yieldOrStar (b : Below) : Rule Expr := do
  if ← sees "yield" then yieldExpr b else starExpressions b

/-! ## Targets -/

mutual

/-- The expression can be assigned to. -/
def isTarget : Expr → Bool
  | .name _ | .attribute _ _ | .subscript _ _ => true
  | .starred e => isTarget e
  | .tuple es | .list es => areTargets es
  | _ => false

/-- Each of the expressions can be assigned to. -/
def areTargets : List Expr → Bool
  | [] => true
  | e :: es => isTarget e && areTargets es

end

mutual

/-- The expression can be deleted. -/
def isDeletable : Expr → Bool
  | .name _ | .attribute _ _ | .subscript _ _ => true
  | .tuple es | .list es => areDeletable es
  | _ => false

/-- Each of the expressions can be deleted. -/
def areDeletable : List Expr → Bool
  | [] => true
  | e :: es => isDeletable e && areDeletable es

end

/-- The expression is a single target: a name, an attribute or a subscript. -/
def isSingle : Expr → Bool
  | .name _ | .attribute _ _ | .subscript _ _ => true
  | _ => false

/-- One target, possibly starred. -/
def starTarget (b : Below) : Rule Expr := do
  let starred ← accept "*"
  let e ← b.primary
  if isTarget e then return if starred then .starred e else e else fail

/-- One target, or several as a tuple. -/
def starTargets (b : Below) : Rule Expr := tupleOf (starTarget b)

/-! ## Comprehensions -/

/-- A `for` clause with its conditions, if one follows. -/
def clause? (b : Below) : Rule (Option Clause) := do
  let isAsync ← accept "async"
  if ← accept "for" then
    let target ← starTargets b
    expect "in"
    let iter ← b.disjunction
    let conditions ← many do
      if ← accept "if" then return some (← b.disjunction) else return none
    return some (.mk isAsync target iter conditions)
  else if isAsync then fail
  else return none

/-- The clauses of a comprehension, or none. -/
def clauses (b : Below) : Rule (List Clause) := many (clause? b)

/-! ## Parameters -/

/-- The kinds of parameters that have been read. -/
inductive Stage where
  | positional
  | regular
  | named
  | closed
deriving DecidableEq

/-- Parameters read so far; lists hold the newest first. -/
structure Reading where
  positional : List Param
  regular : List Param
  rest : Option Param
  named : List Param
  namedRest : Option Param
  stage : Stage
  /-- A bare star was read and no parameter after it. -/
  bare : Bool

/-- Some parameter that can be given by position has a default. -/
def Reading.hasDefault (r : Reading) : Bool :=
  (r.regular ++ r.positional).any fun | .mk _ _ d => d.isSome

/-- The parameters that were read. -/
def Reading.params (r : Reading) : Params :=
  .mk r.positional.reverse r.regular.reverse r.rest r.named.reverse r.namedRest

/-- A parameter name with its annotation; `star` allows a starred annotation. -/
def param (b : Below) (annotated star : Bool) : Rule Param := do
  let n ← name
  let marked ← if annotated then accept ":" else Rule.pure false
  if marked then
    let note ← if star then starExpression b else b.expression
    return .mk n (some note) none
  else return .mk n none none

/-- A default value, if one follows. -/
def default? (b : Below) : Rule (Option Expr) := do
  if ← accept "=" then return some (← b.expression) else return none

/-- Read one item of a parameter list. -/
def paramItem (b : Below) (annotated : Bool) (r : Reading) : Rule Reading := do
  if r.stage == .closed then fail
  else if ← accept "/" then
    if r.stage == .regular && r.positional.isEmpty && !r.regular.isEmpty then
      return { r with positional := r.regular, regular := [] }
    else fail
  else if ← accept "**" then
    if r.bare then fail
    else
      let p ← param b annotated false
      return { r with namedRest := some p, stage := .closed }
  else if ← accept "*" then
    if r.stage == .named then fail
    else if (← peek).name?.isSome then
      let p ← param b annotated true
      return { r with rest := some p, stage := .named }
    else return { r with stage := .named, bare := true }
  else
    match ← param b annotated false with
    | .mk n note _ =>
      let value ← default? b
      let p := Param.mk n note value
      if r.stage == .named then return { r with named := p :: r.named, bare := false }
      else if value.isNone && r.hasDefault then fail
      else return { r with regular := p :: r.regular }

/-- Read the items of a parameter list up to the closing symbol, which is not read. -/
def paramItems (b : Below) (annotated : Bool) (close : String) : Nat → Reading → Rule Reading
  | 0, _ => fail
  | fuel + 1, r => do
    let r' ← paramItem b annotated r
    if ← accept "," then
      if ← sees close then return r' else paramItems b annotated close fuel r'
    else if ← sees close then return r'
    else fail

/-- A parameter list, possibly empty, up to the closing symbol, which is not read. -/
def paramList (b : Below) (annotated : Bool) (close : String) : Rule Params := do
  let start : Reading := ⟨[], [], none, [], none, .regular, false⟩
  if ← sees close then return start.params
  else
    let r ← fun c => paramItems b annotated close (c.ahead.length + 1) start c
    if r.bare then fail else return r.params

/-- A lambda expression. -/
def lambdaExpr (b : Below) : Rule Expr := do
  expect "lambda"
  let ps ← paramList b false ":"
  expect ":"
  return .lambda ps (← b.expression)

/-! ## Calls and subscripts -/

/-- Arguments read so far, newest first, and how far the order of kinds has come. -/
structure Arguments where
  args : List Expr
  keywords : List Keyword
  sawKeyword : Bool
  sawSpread : Bool

/-- Read one argument of a call. -/
def argument (b : Below) (a : Arguments) : Rule Arguments := do
  if ← accept "**" then
    let e ← b.expression
    return { a with keywords := .mk none e :: a.keywords, sawKeyword := true, sawSpread := true }
  else if ← accept "*" then
    if a.sawSpread then fail
    else return { a with args := .starred (← b.expression) :: a.args }
  else if ← seesNamed "=" then
    let n ← name
    advance
    let e ← b.expression
    return { a with keywords := .mk (some n) e :: a.keywords, sawKeyword := true }
  else if a.sawKeyword then fail
  else return { a with args := (← namedExpression b) :: a.args }

/-- Read further arguments up to the closing parenthesis, which is read too. -/
def arguments (b : Below) : Nat → Arguments → Rule Arguments
  | 0, _ => fail
  | fuel + 1, a => do
    if ← accept ")" then return a
    else
      let a' ← argument b a
      if ← accept "," then arguments b fuel a'
      else
        expect ")"
        return a'

/-- The arguments of a call after its opening parenthesis. A single comprehension needs no
    parentheses of its own. -/
def callArguments (b : Below) : Rule Arguments := do
  let start : Arguments := ⟨[], [], false, false⟩
  if ← accept ")" then return start
  else if ← seesAny ["*", "**"] then fun c => arguments b (c.ahead.length + 1) start c
  else if ← seesNamed "=" then fun c => arguments b (c.ahead.length + 1) start c
  else
    let e ← namedExpression b
    match ← clauses b with
    | [] =>
      let a := { start with args := [e] }
      if ← accept "," then fun c => arguments b (c.ahead.length + 1) a c
      else
        expect ")"
        return a
    | cs =>
      expect ")"
      return { start with args := [.generator e cs] }

/-- An expression that stands between the colons of a slice, if there is one. -/
def bound? (b : Below) : Rule (Option Expr) := do
  if ← seesAny [":", ",", "]"] then return none else return some (← b.expression)

/-- The parts of a slice after its first colon. -/
def sliceRest (b : Below) (lower : Option Expr) : Rule Expr := do
  let upper ← bound? b
  if ← accept ":" then return .slice lower upper (← bound? b) else return .slice lower upper none

/-- A slice, or an index. -/
def slice (b : Below) : Rule Expr := do
  if ← accept ":" then sliceRest b none
  else if ← seesNamed ":=" then namedExpression b
  else
    let e ← b.expression
    if ← accept ":" then sliceRest b (some e)
    else if ← sees ":=" then fail
    else return e

/-- An item between the brackets of a subscript. -/
def sliceItem (b : Below) : Rule Expr := do
  if ← accept "*" then return .starred (← b.expression) else slice b

/-- What stands between the brackets of a subscript. A starred item alone is a tuple. -/
def slices (b : Below) : Rule Expr := do
  match ← commaList (sliceItem b) with
  | ([.starred e], false) => return .tuple [.starred e]
  | ([e], false) => return e
  | (es, _) => return .tuple es

/-! ## Atoms -/

/-- The expression is starred. -/
def isStarred : Expr → Bool
  | .starred _ => true
  | _ => false

/-- What follows an opening parenthesis: a tuple, a group or a generator. -/
def parenthesised (b : Below) : Rule Expr := do
  if ← accept ")" then return .tuple []
  else if ← sees "yield" then
    let e ← yieldExpr b
    expect ")"
    return e
  else
    let e ← starNamed b
    if ← accept "," then
      if ← accept ")" then return .tuple [e]
      else
        let (es, _) ← commaList (starNamed b)
        expect ")"
        return .tuple (e :: es)
    else if isStarred e then fail
    else match ← clauses b with
      | [] =>
        expect ")"
        return e
      | cs =>
        expect ")"
        return .generator e cs

/-- What follows an opening bracket: a list or a list comprehension. -/
def bracketed (b : Below) : Rule Expr := do
  if ← accept "]" then return .list []
  else
    let e ← starNamed b
    if ← accept "," then
      if ← accept "]" then return .list [e]
      else
        let (es, _) ← commaList (starNamed b)
        expect "]"
        return .list (e :: es)
    else if ← accept "]" then return .list [e]
    else if isStarred e then fail
    else match ← clauses b with
      | [] => fail
      | cs =>
        expect "]"
        return .listComp e cs

/-- An entry of a dictionary display. -/
def dictItem (b : Below) : Rule DictItem := do
  if ← accept "**" then return .spread (← b.bitOr)
  else
    let k ← b.expression
    expect ":"
    return .pair k (← b.expression)

/-- The entries of a dictionary display after the first one. -/
def dictRest (b : Below) (first : DictItem) : Rule Expr := do
  if ← accept "," then
    if ← accept "\x7d" then return .dict [first]
    else
      let (es, _) ← commaList (dictItem b)
      expect "\x7d"
      return .dict (first :: es)
  else
    expect "\x7d"
    return .dict [first]

/-- What follows an opening brace: a dictionary, a set, or a comprehension of one of them. -/
def braced (b : Below) : Rule Expr := do
  if ← accept "\x7d" then return .dict []
  else if ← accept "**" then dictRest b (.spread (← b.bitOr))
  else
    let binds ← seesNamed ":="
    let e ← starNamed b
    let colon ← sees ":"
    if !binds && !isStarred e && colon then
      advance
      let v ← b.expression
      match ← clauses b with
      | [] => dictRest b (.pair e v)
      | cs =>
        expect "\x7d"
        return .dictComp e v cs
    else if ← accept "," then
      if ← accept "\x7d" then return .set [e]
      else
        let (es, _) ← commaList (starNamed b)
        expect "\x7d"
        return .set (e :: es)
    else if ← accept "\x7d" then return .set [e]
    else if isStarred e then fail
    else match ← clauses b with
      | [] => fail
      | cs =>
        expect "\x7d"
        return .setComp e cs

/-- Adjacent text literals. -/
def strings (b : Below) : Rule Expr := do
  let ts ← many do
    let t ← peek
    if t.kind == .string then
      advance
      return some t.text.toList
    else return none
  match Format.literals? (starExpressions b) ts with
  | some e => return e
  | none => refuse .malformed

/-- A numeral. -/
def numeral : Rule Expr := do
  let t ← expectKind .number
  match Numeral.constant? t.text.toList with
  | some c => return .constant c
  | none => refuse .malformed

/-- An expression that nothing outside can break up. -/
def atom (b : Below) : Rule Expr := do
  let t ← peek
  match t.kind with
  | .string => strings b
  | .number => numeral
  | .name =>
    match t.name? with
    | some n =>
      advance
      return .name n
    | none =>
      if t.text == "True" then
        advance
        return .constant (.bool true)
      else if t.text == "False" then
        advance
        return .constant (.bool false)
      else if t.text == "None" then
        advance
        return .constant .none
      else fail
  | .symbol =>
    if t.text == "(" then
      advance
      parenthesised b
    else if t.text == "[" then
      advance
      bracketed b
    else if t.text == "\x7b" then
      advance
      braced b
    else if t.text == "..." then
      advance
      return .constant .ellipsis
    else fail
  | _ => fail

/-- Attributes, calls and subscripts that follow an atom. -/
def primary (b : Below) : Rule Expr := do
  let e ← atom b
  fold (fun e => do
    if ← accept "." then return some (.attribute e (← name))
    else if ← accept "(" then
      let a ← callArguments b
      return some (.call e a.args.reverse a.keywords.reverse)
    else if ← accept "[" then
      let i ← slices b
      expect "]"
      return some (.subscript e i)
    else return none) e

/-! ## Operators, from the tightest to the loosest -/

/-- A primary expression, possibly awaited. -/
def awaited (b : Below) : Rule Expr := do
  if ← accept "await" then return .await (← primary b) else primary b

/-- A power: the operator binds to the right and tighter than a sign on its left. -/
def power (b : Below) : Rule Expr := do
  let e ← awaited b
  if ← accept "**" then return .binary e .pow (← b.factor) else return e

/-- Signs and bit inversion. -/
def factor (b : Below) : Rule Expr := do
  if ← accept "+" then return .unary .plus (← b.factor)
  else if ← accept "-" then return .unary .minus (← b.factor)
  else if ← accept "~" then return .unary .invert (← b.factor)
  else power b

/-- A chain of operators of one strength, which bind to the left. -/
def leftChain (ops : List (String × BinaryOp)) (operand : Rule Expr) : Rule Expr := do
  let e ← operand
  fold (fun left => do
    let t ← peek
    match ops.find? fun o => t.is o.1 with
    | some (_, op) =>
      advance
      return some (.binary left op (← operand))
    | none => return none) e

/-- Products. -/
def term (b : Below) : Rule Expr :=
  leftChain [("*", .mult), ("/", .div), ("//", .floorDiv), ("%", .mod), ("@", .matMult)] (factor b)

/-- Sums. -/
def sum (b : Below) : Rule Expr := leftChain [("+", .add), ("-", .sub)] (term b)

/-- Shifts. -/
def shift (b : Below) : Rule Expr := leftChain [("<<", .shiftLeft), (">>", .shiftRight)] (sum b)

/-- Bitwise conjunctions. -/
def bitAnd (b : Below) : Rule Expr := leftChain [("&", .bitAnd)] (shift b)

/-- Bitwise exclusive disjunctions. -/
def bitXor (b : Below) : Rule Expr := leftChain [("^", .bitXor)] (bitAnd b)

/-- Bitwise disjunctions. -/
def bitOr (b : Below) : Rule Expr := leftChain [("|", .bitOr)] (bitXor b)

/-- A comparison operator, if one follows. -/
def compareOp? : Rule (Option CompareOp) := do
  if ← accept "==" then return some .eq
  else if ← accept "!=" then return some .notEq
  else if ← accept "<=" then return some .ltE
  else if ← accept "<" then return some .lt
  else if ← accept ">=" then return some .gtE
  else if ← accept ">" then return some .gt
  else if ← accept "in" then return some .isIn
  else if ← accept "is" then
    if ← accept "not" then return some .isNot else return some .is
  else if ← sees "not" then
    if (← peekSecond).is "in" then
      advance
      advance
      return some .notIn
    else return none
  else return none

/-- Chains of comparisons. -/
def comparison (b : Below) : Rule Expr := do
  let e ← bitOr b
  let rest ← many do
    match ← compareOp? with
    | some op => return some (Comparand.mk op (← bitOr b))
    | none => return none
  match rest with
  | [] => return e
  | _ => return .compare e rest

/-- Negations. -/
def inversion (b : Below) : Rule Expr := do
  if ← accept "not" then return .unary .not (← b.inversion) else comparison b

/-- Operands joined by one connective. -/
def connective (word : String) (op : BoolOp) (operand : Rule Expr) : Rule Expr := do
  let e ← operand
  let rest ← many do
    if ← accept word then return some (← operand) else return none
  match rest with
  | [] => return e
  | _ => return .boolOp op (e :: rest)

/-- Conjunctions. -/
def conjunction (b : Below) : Rule Expr := connective "and" .and (inversion b)

/-- Disjunctions. -/
def disjunction (b : Below) : Rule Expr := connective "or" .or (conjunction b)

/-- Conditional expressions and lambdas. -/
def expression (b : Below) : Rule Expr := do
  if ← sees "lambda" then lambdaExpr b
  else
    let e ← disjunction b
    if ← accept "if" then
      let test ← disjunction b
      expect "else"
      return .ifElse test e (← b.expression)
    else return e

/-! ## The knot -/

/-- The rules with a given number of levels below them. -/
def rules : Nat → Below
  | 0 => ⟨fail, fail, fail, fail, fail, fail⟩
  | n + 1 =>
    { expression := fun c => expression (rules n) c
      disjunction := fun c => disjunction (rules n) c
      inversion := fun c => inversion (rules n) c
      bitOr := fun c => bitOr (rules n) c
      factor := fun c => factor (rules n) c
      primary := fun c => primary (rules n) c }

end Docsmith.Source.Grammar
