-- SUMMARY: Grammar rules as readers of a token list.
import Docsmith.Source.Token

/-!
# Grammar rules

A rule reads tokens from the front of a list and gives a result, or is stuck. A
rule that is stuck can be given up for another one (`Rule.orElse`), unless it
found a fault that no other rule can mend. The furthest token that any rule
looked at is kept: it decides what is reported about a text that is no program.
-/

namespace Docsmith.Source

/-- The tokens ahead, the number of the furthest token looked at so far, and the offset of
    the end of the last token read that is not about lines. -/
structure Cursor where
  ahead : List Token
  far : Nat
  last : Nat

/-- What a rule gives. -/
inductive Outcome (α : Type) where
  | read (value : α) (cursor : Cursor)
  /-- The rule does not apply. -/
  | stuck (far : Nat)
  /-- The text is no program, whatever other rules say. -/
  | fault (why : Fault)

/-- A rule of the grammar. -/
def Rule (α : Type) : Type := Cursor → Outcome α

namespace Rule

/-- Read nothing. -/
def pure (a : α) : Rule α := fun c => .read a c

/-- One rule after the other. -/
def bind (p : Rule α) (f : α → Rule β) : Rule β := fun c =>
  match p c with
  | .read a c' => f a c'
  | .stuck n => .stuck n
  | .fault w => .fault w

instance : Monad Rule where
  pure := Rule.pure
  bind := Rule.bind

/-- A rule that never applies. -/
def fail : Rule α := fun c => .stuck c.far

/-- A rule that finds a fault. -/
def refuse (why : Fault) : Rule α := fun _ => .fault why

/-- The first rule, or the second where the first is stuck. -/
def orElse (p q : Rule α) : Rule α := fun c =>
  match p c with
  | .stuck n => q { c with far := max c.far n }
  | r => r

/-- The result of a rule, or `none` with nothing read where it is stuck. -/
def option (p : Rule α) : Rule (Option α) := fun c =>
  match p c with
  | .read a c' => .read (some a) c'
  | .stuck n => .read none { c with far := max c.far n }
  | .fault w => .fault w

/-- Look at the next token. -/
def peek : Rule Token := fun c =>
  match c.ahead with
  | [] => .stuck c.far
  | t :: _ => match t.kind with
    | .fault why => .fault why
    | _ => .read t { c with far := max c.far t.index }

/-- Look at the token after the next one. -/
def peekSecond : Rule Token := fun c =>
  match c.ahead with
  | _ :: t :: _ => match t.kind with
    | .fault why => .fault why
    | _ => .read t { c with far := max c.far t.index }
  | _ => .stuck c.far

/-- Pass over the next token. -/
def advance : Rule Unit := fun c =>
  match c.ahead with
  | [] => .read () c
  | t :: ts => match t.kind with
    | .name | .number | .string | .symbol => .read () { c with ahead := ts, last := t.stop }
    | _ => .read () { c with ahead := ts }

/-- The offset of the end of what has been read. -/
def endOffset : Rule Nat := fun c => .read c.last c

/-- The next token is the given keyword or symbol; it is not read. -/
def sees (text : String) : Rule Bool := do return (← peek).is text

/-- Read the given keyword or symbol if it is next. -/
def accept (text : String) : Rule Bool := do
  if (← peek).is text then
    advance
    return true
  else return false

/-- Read the given keyword or symbol. -/
def expect (text : String) : Rule Unit := do
  if ← accept text then return () else fail

/-- Read a token of the given kind. -/
def expectKind (kind : TokenKind) : Rule Token := do
  let t ← peek
  if t.kind == kind then
    advance
    return t
  else fail

/-- Read a name. -/
def name : Rule String := do
  match (← peek).name? with
  | some n =>
    advance
    return n
  | none => fail

/-- Read as often as the rule gives a result. -/
def manyFrom (p : Rule (Option α)) (found : List α) : Nat → Rule (List α)
  | 0 => return found.reverse
  | fuel + 1 => do
    match ← p with
    | some a => manyFrom p (a :: found) fuel
    | none => return found.reverse

/-- Read as often as the rule gives a result; each time it must read at least one token. -/
def many (p : Rule (Option α)) : Rule (List α) := fun c => manyFrom p [] (c.ahead.length + 1) c

/-- Fold further results into a first one, as long as the rule gives one. -/
def foldFrom (p : α → Rule (Option α)) (a : α) : Nat → Rule α
  | 0 => return a
  | fuel + 1 => do
    match ← p a with
    | some b => foldFrom p b fuel
    | none => return a

/-- Fold further results into a first one, as long as the rule gives one. -/
def fold (p : α → Rule (Option α)) (a : α) : Rule α := fun c =>
  foldFrom p a (c.ahead.length + 1) c

/-- One or more items between commas; also whether a comma stands at the end. -/
def commaList (item : Rule α) : Rule (List α × Bool) := do
  let first ← item
  let rest ← many <| option do
    expect ","
    item
  let trailing ← accept ","
  return (first :: rest, trailing)

end Rule

end Docsmith.Source
