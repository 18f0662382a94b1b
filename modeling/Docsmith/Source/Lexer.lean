-- SUMMARY: Cutting a source text into tokens.
import Docsmith.Source.Numeral
import Docsmith.Source.Token
import Docsmith.Text.Identifier

/-!
# Lexer

`tokens` cuts a text into tokens. Inside brackets line breaks are blank space;
elsewhere the end of a logical line and every change of indentation give tokens.
Indentation is measured twice, with tabulators of eight columns and of one, and
the two measures must agree on every comparison.
-/

namespace Docsmith.Source


namespace Lexer

/-- The depth of indentation that is refused, and the depth of brackets. -/
def maxIndents : Nat := 100
/-- The depth of brackets that is refused. -/
def maxBrackets : Nat := 200

/-- The state of the lexer: the text ahead with its offset and line, whether a line starts
    here, the columns of the open blocks (innermost first) in both measures, the open brackets
    (innermost first), and the tokens found (newest first) with their number. -/
structure State where
  ahead : List Char
  offset : Nat
  line : Nat
  fresh : Bool
  columns : List (Nat × Nat)
  brackets : List Char
  found : List Token
  count : Nat

/-- Add a token that spans the next `n` characters. -/
def State.emit (s : State) (kind : TokenKind) (n : Nat) : State :=
  let text := s.ahead.take n
  { s with
    ahead := s.ahead.drop n
    offset := s.offset + n
    line := s.line + text.count '\n'
    found := ⟨kind, String.ofList text, s.count, s.line, s.offset, s.offset + n⟩ :: s.found
    count := s.count + 1 }

/-- Add a token that spans no text. -/
def State.mark (s : State) (kind : TokenKind) : State := s.emit kind 0

/-- Pass over the next `n` characters. -/
def State.skip (s : State) (n : Nat) : State :=
  { s with
    ahead := s.ahead.drop n
    offset := s.offset + n
    line := s.line + (s.ahead.take n).count '\n' }

/-- The columns of the first character of a line, in both measures, and how many characters
    stand before it. A backslash at the end of a line continues the indentation. -/
structure Indent where
  wide : Nat
  narrow : Nat
  length : Nat
  /-- The column at which the first continued line broke off, or zero. -/
  broken : Nat
  ahead : List Char

/-- Measure the indentation of a line; `none` when a backslash does not end its line or when
    the text ends after it. -/
def measure? (i : Indent) : List Char → Option Indent
  | [] => some { i with ahead := [] }
  | ' ' :: cs =>
    measure? { i with wide := i.wide + 1, narrow := i.narrow + 1, length := i.length + 1 } cs
  | '\t' :: cs =>
    measure? { i with
      wide := (i.wide / 8 + 1) * 8, narrow := i.narrow + 1, length := i.length + 1 } cs
  | '\x0c' :: cs => measure? { i with wide := 0, narrow := 0, length := i.length + 1 } cs
  | '\\' :: '\n' :: c :: cs =>
    measure? { i with
      broken := if i.broken == 0 then i.wide else i.broken, length := i.length + 2 } (c :: cs)
  | '\\' :: _ => none
  | c :: cs => some { i with ahead := c :: cs }

/-- Close the blocks that are deeper than the column: what stays open, and how many closed. -/
def closeBlocks (column : Nat) : List (Nat × Nat) → Nat → List (Nat × Nat) × Nat
  | (w, n) :: rest, closed =>
    if column < w then closeBlocks column rest (closed + 1) else ((w, n) :: rest, closed)
  | [], closed => ([], closed)

/-- Add several tokens that close blocks. -/
def State.dedents (s : State) : Nat → State
  | 0 => s
  | n + 1 => (s.mark .dedent).dedents n

/-- Compare the column of a line with the open blocks. -/
def State.align (s : State) (wide narrow : Nat) : State :=
  match s.columns with
  | [] => s
  | (w, n) :: _ =>
    if wide == w then if narrow == n then s else s.mark (.fault .tabulation)
    else if w < wide then
      if maxIndents ≤ s.columns.length then s.mark (.fault .indentation)
      else if narrow ≤ n then s.mark (.fault .tabulation)
      else { s.mark .indent with columns := (wide, narrow) :: s.columns }
    else
      let (kept, closed) := closeBlocks wide s.columns 0
      match kept with
      | (w', n') :: _ =>
        if w' != wide then s.mark (.fault .indentation)
        else if n' != narrow then s.mark (.fault .tabulation)
        else { s.dedents closed with columns := kept }
      | [] => s.mark (.fault .indentation)

/-- The character may stand in a name, or is beyond ASCII and will be judged later. -/
def isNameLike (c : Char) : Bool := c.isAlphanum || c == '_' || 128 ≤ c.toNat

/-- The text is a name. -/
def isName : List Char → Bool
  | [] => false
  | c :: cs => Text.isNameStart c && cs.all Text.isNameRest

/-- The marks that may stand in front of a quote, in lower case. -/
def stringMarks : List (List Char) :=
  ["", "r", "u", "b", "f", "br", "rb", "fr", "rf"].map String.toList

/-- How many characters stand in front of the quote, when a text literal starts here. -/
def markLength? (cs : List Char) : Option Nat :=
  let mark := cs.takeWhile Char.isAlpha
  match cs.drop mark.length with
  | q :: _ =>
    if (q == '"' || q == '\'') && stringMarks.contains (mark.map Char.toLower)
    then some mark.length else none
  | [] => none

/-- The length of a text literal after its opening quote, `size` quotes being needed to end
    it and `run` having been read; `none` when it does not end. -/
def literalEnd? (quote : Char) (size : Nat) : Nat → Nat → List Char → Option Nat
  | _, _, [] => none
  | run, n, c :: cs =>
    if size == 1 && c == '\n' then none
    else if c == quote then
      if run + 1 == size then some (n + 1) else literalEnd? quote size (run + 1) (n + 1) cs
    else if c == '\\' then
      match cs with
      | [] => none
      | _ :: cs' => literalEnd? quote size 0 (n + 2) cs'
    else literalEnd? quote size 0 (n + 1) cs

/-- The length of a text literal that starts with a quote. -/
def literalLength? : List Char → Option Nat
  | q :: a :: b :: cs =>
    if a == q && b == q then (literalEnd? q 3 0 0 cs).map (· + 3)
    else if a == q then some 2
    else (literalEnd? q 1 0 0 (a :: b :: cs)).map (· + 1)
  | [q, a] => if a == q then some 2 else none
  | _ => none

/-- Symbols of two or three characters. -/
def longSymbols : List (List Char) :=
  ["**=", "//=", ">>=", "<<=", "...", "!=", "%=", "&=", "**", "*=", "+=", "-=", "->", "//",
    "/=", ":=", "<<", "<=", "<>", "==", ">=", ">>", "@=", "^=", "|="].map String.toList

/-- The length of the symbol that a text starts with. -/
def symbolLength (cs : List Char) : Nat :=
  match longSymbols.find? (·.isPrefixOf cs) with
  | some s => s.length
  | none => 1

/-- The bracket that closes an opening one. -/
def closer (c : Char) : Option Char :=
  if c == '(' then some ')' else if c == '[' then some ']' else if c == '\x7b' then some '\x7d'
  else none

/-- Read a symbol, keeping track of brackets. -/
def State.symbol (s : State) (c : Char) : State :=
  if (closer c).isSome then
    if maxBrackets ≤ s.brackets.length then s.mark (.fault .malformed)
    else { s.emit .symbol 1 with brackets := c :: s.brackets }
  else if c == ')' || c == ']' || c == '\x7d' then
    match s.brackets with
    | b :: rest =>
      if closer b == some c then { s.emit .symbol 1 with brackets := rest }
      else s.mark (.fault .malformed)
    | [] => s.mark (.fault .malformed)
  else s.emit .symbol (symbolLength s.ahead)

/-- Read one token that starts with `c`, which is neither blank nor a line break. -/
def State.token (s : State) (c : Char) : State :=
  match markLength? s.ahead with
  | some n =>
    match literalLength? (s.ahead.drop n) with
    | some m => s.emit .string (n + m)
    | none => s.mark (.fault .malformed)
  | none =>
    let point := c == '.' && ((s.ahead.drop 1).head?.any Char.isDigit)
    if c.isDigit || point then
      match Numeral.rest? s.ahead with
      | some r => s.emit .number (s.ahead.length - r.length)
      | none => s.mark (.fault .malformed)
    else if isNameLike c then
      let word := s.ahead.takeWhile isNameLike
      if isName word then s.emit .name word.length else s.mark (.fault .malformed)
    else s.symbol c

/-- The last token is a fault. -/
def State.failed (s : State) : Bool :=
  match s.found with
  | t :: _ => match t.kind with | .fault _ => true | _ => false
  | [] => false

/-- Start a line: pass over it when it is blank, else compare its indentation. -/
def State.startLine (s : State) : State :=
  match measure? ⟨0, 0, 0, 0, []⟩ s.ahead with
  | none => s.mark (.fault .malformed)
  | some i =>
    let s' := { s.skip i.length with fresh := false }
    let isBlankLine := match i.ahead with | '#' :: _ => true | '\n' :: _ => true | _ => false
    if isBlankLine then
      let s'' := s'.skip (i.ahead.takeWhile (· != '\n')).length
      { s''.skip 1 with fresh := true }
    else if s.brackets.isEmpty then
      if i.broken == 0 then s'.align i.wide i.narrow else s'.align i.broken i.broken
    else s'

/-- One step: the next state, or `none` when the text is used up. -/
def State.step (s : State) : Option State :=
  if s.failed then none
  else if s.fresh then some s.startLine
  else match s.ahead with
    | [] => none
    | c :: cs =>
      if c == ' ' || c == '\t' || c == '\x0c' then some (s.skip 1)
      else if c == '#' then some (s.skip (s.ahead.takeWhile (· != '\n')).length)
      else if c == '\n' then
        if s.brackets.isEmpty then some { s.emit .newline 1 with fresh := true }
        else some { s.skip 1 with fresh := true }
      else if c == '\\' then
        match cs with
        | '\n' :: _ :: _ => some (s.skip 2)
        | _ => some (s.mark (.fault .malformed))
      else some (s.token c)

/-- Run the lexer. -/
def State.run : Nat → State → State
  | 0, s => s
  | fuel + 1, s => match s.step with
    | some s' => s'.run fuel
    | none => s

/-- The text is used up: close what is open. -/
def State.finish (s : State) : List Token :=
  let last :=
    if s.failed then s
    else if !s.brackets.isEmpty then s.mark (.fault .malformed)
    else (s.dedents (s.columns.length - 1)).mark .finish
  last.found.reverse

end Lexer

/-- The tokens of a text whose line breaks are line feeds. -/
def tokens (cs : List Char) : List Token :=
  ((⟨cs, 0, 1, true, [(0, 0)], [], [], 0⟩ : Lexer.State).run (2 * cs.length + 2)).finish

end Docsmith.Source
