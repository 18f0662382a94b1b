-- SUMMARY: Grammar of the patterns of `match` statements.
import Docsmith.Source.Grammar.Expr

/-!
# Patterns

Patterns nest inside brackets. As for expressions, each rule is written over the
rule for what stands deeper, and `pattern` ties the knot.
-/

namespace Docsmith.Source.Grammar

open Rule

/-- A name to bind: neither the wildcard nor the start of a longer pattern. -/
def captureName : Rule String := do
  let t ← peek
  match t.name? with
  | some n =>
    if n == "_" then fail
    else
      advance
      if ← seesAny [".", "(", "="] then fail else return n
  | none => fail

/-- A number with an optional minus sign. -/
def signedNumber : Rule Expr := do
  if ← accept "-" then return .unary .minus (← numeral) else numeral

/-- The expression is an imaginary number, possibly with a sign. -/
def isImaginary : Expr → Bool
  | .constant (.imaginary _) => true
  | .unary _ (.constant (.imaginary _)) => true
  | _ => false

/-- A number: signed, or a real part and an imaginary part. -/
def numberLiteral : Rule Expr := do
  let e ← signedNumber
  if ← seesAny ["+", "-"] then
    if isImaginary e then fail
    else
      let plus ← accept "+"
      if !plus then expect "-"
      let i ← numeral
      if isImaginary i then return .binary e (if plus then .add else .sub) i else fail
  else return e

/-- The next token starts a number. -/
def seesNumber : Rule Bool := do
  let t ← peek
  return t.kind == .number || t.is "-"

/-- The constant that a keyword stands for. -/
def keywordConstant? (t : Token) : Option Constant :=
  if t.is "None" then some .none
  else if t.is "True" then some (.bool true)
  else if t.is "False" then some (.bool false)
  else none

/-- A dotted name with at least the given number of dots. -/
def dottedExpr (dots : Nat) : Rule Expr := do
  let n ← name
  let rest ← many do
    if ← accept "." then return some (← name) else return none
  if rest.length < dots then fail
  else return rest.foldl Expr.attribute (.name n)

/-- A key of a mapping pattern. -/
def mappingKey (b : Below) : Rule Expr := do
  let t ← peek
  if t.kind == .string then strings b
  else if ← seesNumber then numberLiteral
  else match keywordConstant? t with
    | some c =>
      advance
      return .constant c
    | none => dottedExpr 1

/-- A pattern, or a starred name. -/
def maybeStar (inner : Rule Pattern) : Rule Pattern := do
  if ← accept "*" then
    if (← peek).is "_" then
      advance
      return .star none
    else return .star (some (← captureName))
  else inner

/-- Patterns between commas up to a closing symbol, which is read. -/
def patternItems (inner : Rule Pattern) (close : String) : Rule (List Pattern) := do
  if ← accept close then return []
  else
    let (ps, _) ← commaList (maybeStar inner)
    expect close
    return ps

/-- What follows an opening parenthesis: a group or a sequence. -/
def groupPattern (inner : Rule Pattern) : Rule Pattern := do
  if ← accept ")" then return .sequence []
  else
    let starred ← sees "*"
    let p ← maybeStar inner
    if ← accept "," then
      return .sequence (p :: (← patternItems inner ")"))
    else if starred then fail
    else
      expect ")"
      return p

/-- Entries of a mapping pattern, newest first, and the name for the rest. -/
structure MappingItems where
  keys : List Expr
  items : List Pattern
  rest : Option String

/-- Read the entries of a mapping pattern up to its closing brace, which is read. -/
def mappingItems (b : Below) (inner : Rule Pattern) : Nat → MappingItems → Rule MappingItems
  | 0, _ => fail
  | fuel + 1, m => do
    if ← accept "\x7d" then return m
    else if ← accept "**" then
      let n ← captureName
      let _ ← accept ","
      expect "\x7d"
      return { m with rest := some n }
    else
      let k ← mappingKey b
      expect ":"
      let p ← inner
      let m' := { m with keys := k :: m.keys, items := p :: m.items }
      if ← accept "," then mappingItems b inner fuel m'
      else
        expect "\x7d"
        return m'

/-- Arguments of a class pattern, newest first. -/
structure RecordItems where
  items : List Pattern
  names : List String
  named : List Pattern

/-- Read the arguments of a class pattern up to its closing parenthesis, which is read. -/
def recordItems (inner : Rule Pattern) : Nat → RecordItems → Rule RecordItems
  | 0, _ => fail
  | fuel + 1, r => do
    if ← accept ")" then return r
    else
      let r' ← (do
        if ← seesNamed "=" then
          let n ← name
          advance
          let p ← inner
          return { r with names := n :: r.names, named := p :: r.named }
        else if r.names.isEmpty then return { r with items := (← inner) :: r.items }
        else fail)
      if ← accept "," then recordItems inner fuel r'
      else
        expect ")"
        return r'

/-- A pattern that starts with a name. -/
def namePattern (inner : Rule Pattern) : Rule Pattern := do
  if (← peek).is "_" then
    advance
    return .capture none none
  else
    let e ← dottedExpr 0
    if ← accept "(" then
      let r ← fun c => recordItems inner (c.ahead.length + 1) ⟨[], [], []⟩ c
      return .record e r.items.reverse r.names.reverse r.named.reverse
    else if ← sees "=" then fail
    else match e with
      | .name n => return .capture none (some n)
      | _ => return .value e

/-- A pattern that nothing outside can break up. -/
def closedPattern (b : Below) (inner : Rule Pattern) : Rule Pattern := do
  let t ← peek
  if t.kind == .string then return .value (← strings b)
  else if ← seesNumber then return .value (← numberLiteral)
  else match keywordConstant? t with
    | some c =>
      advance
      return .singleton c
    | none =>
      if ← accept "(" then groupPattern inner
      else if ← accept "[" then return .sequence (← patternItems inner "]")
      else if ← accept "\x7b" then
        let m ← fun c => mappingItems b inner (c.ahead.length + 1) ⟨[], [], none⟩ c
        return .mapping m.keys.reverse m.items.reverse m.rest
      else namePattern inner

/-- Alternatives, possibly bound to a name. -/
def asPattern (b : Below) (inner : Rule Pattern) : Rule Pattern := do
  let first ← closedPattern b inner
  let rest ← many do
    if ← accept "|" then return some (← closedPattern b inner) else return none
  let p := match rest with | [] => first | _ => .choice (first :: rest)
  if ← accept "as" then return .capture (some p) (some (← captureName)) else return p

/-- Patterns with a given number of levels below them. -/
def pattern (b : Below) : Nat → Rule Pattern
  | 0 => fail
  | n + 1 => asPattern b fun c => pattern b n c

/-- The pattern of a case: a sequence without brackets, or one pattern. -/
def casePattern (b : Below) (n : Nat) : Rule Pattern := do
  let starred ← sees "*"
  let p ← maybeStar (pattern b n)
  if ← accept "," then
    if ← seesAny [":", "if"] then return .sequence [p]
    else
      let (ps, _) ← commaList (maybeStar (pattern b n))
      return .sequence (p :: ps)
  else if starred then fail
  else return p

end Docsmith.Source.Grammar
