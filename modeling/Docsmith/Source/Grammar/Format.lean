-- SUMMARY: Text literals, and the fields inside formatted ones.
import Docsmith.Source.Literal
import Docsmith.Source.Lexer
import Docsmith.Source.Rule

/-!
# Text literals

Adjacent literals are one constant, or one formatted text when a literal carries
the mark `f`. A formatted text alternates between plain text, in which a doubled
brace stands for a brace, and fields in braces. A field ends at the first `!`,
`:`, `=` or closing brace outside brackets and quotes, and may hold neither a
backslash nor a hash sign.
-/

namespace Docsmith.Source.Format

/-- A piece of a formatted text. -/
inductive Piece where
  | text (cs : List Char)
  | field (e : Expr)

/-- Plain text up to a field or the end of the text. -/
structure Plain where
  body : List Char
  /-- A doubled brace was read, of which `body` holds one. -/
  doubled : Bool
  rest : List Char

/-- Read plain text; `out` is the reversed text so far. At the outer level a doubled brace
    stands for a brace and a single closing brace is refused. -/
def plain? (raw : Bool) (outer : Bool) : Nat → List Char → List Char → Option Plain
  | 0, _, _ => none
  | _ + 1, out, [] => some ⟨out.reverse, false, []⟩
  | fuel + 1, out, c :: cs =>
    if !raw && c == '\\' then
      match cs with
      | [] => some ⟨(c :: out).reverse, false, []⟩
      | 'N' :: '\x7b' :: r =>
        let name := r.takeWhile (· != '\x7d')
        let close := (r.drop name.length).take 1
        plain? raw outer fuel (close ++ name.reverse ++ '\x7b' :: 'N' :: c :: out)
          (r.drop (name.length + 1))
      | 'N' :: d :: r => plain? raw outer fuel (d :: 'N' :: c :: out) r
      | d :: r =>
        if d == '\x7b' || d == '\x7d' then brace raw outer fuel (c :: out) d r
        else plain? raw outer fuel (d :: c :: out) r
    else if c == '\x7b' || c == '\x7d' then brace raw outer fuel out c cs
    else plain? raw outer fuel (c :: out) cs
where
  /-- A brace `c` after the text `out`. -/
  brace (_raw outer : Bool) (_fuel : Nat) (out : List Char) (c : Char) (cs : List Char) :
      Option Plain :=
    if outer && cs.head? == some c then some ⟨(c :: out).reverse, true, cs.drop 1⟩
    else if outer && c == '\x7d' then none
    else some ⟨out.reverse, false, c :: cs⟩

/-- The state of the search for the end of a field: the open quote with its size, and the
    open brackets. -/
structure Nesting where
  quote : Option (Char × Nat)
  brackets : List Char

/-- The text of a field up to the character that ends it, and the rest from there on. -/
def fieldText? (n : Nesting) (out : List Char) : Nat → List Char → Option (List Char × List Char)
  | 0, _ => none
  | _ + 1, [] => none
  | fuel + 1, c :: cs =>
    if c == '\\' then none
    else match n.quote with
      | some (q, size) =>
        if c == q then
          if size == 3 then
            match cs with
            | x :: y :: r =>
              if x == q && y == q then fieldText? { n with quote := none } (q :: q :: q :: out) fuel r
              else fieldText? n (c :: out) fuel cs
            | _ => fieldText? n (c :: out) fuel cs
          else fieldText? { n with quote := none } (c :: out) fuel cs
        else fieldText? n (c :: out) fuel cs
      | none =>
        if c == '\'' || c == '"' then
          match cs with
          | x :: y :: r =>
            if x == c && y == c then
              fieldText? { n with quote := some (c, 3) } (c :: c :: c :: out) fuel r
            else fieldText? { n with quote := some (c, 1) } (c :: out) fuel cs
          | _ => fieldText? { n with quote := some (c, 1) } (c :: out) fuel cs
        else if (Lexer.closer c).isSome then
          if Lexer.maxBrackets ≤ n.brackets.length then none
          else fieldText? { n with brackets := c :: n.brackets } (c :: out) fuel cs
        else if c == '#' then none
        else if n.brackets.isEmpty && ['!', ':', '\x7d', '=', '>', '<'].contains c then
          if cs.head? == some '=' && ['!', '=', '<', '>'].contains c then
            fieldText? n ('=' :: c :: out) fuel (cs.drop 1)
          else if c == '>' || c == '<' then fieldText? n (c :: out) fuel cs
          else some (out.reverse, c :: cs)
        else if c == ']' || c == '\x7d' || c == ')' then
          match n.brackets with
          | b :: bs =>
            if Lexer.closer b == some c then fieldText? { n with brackets := bs } (c :: out) fuel cs
            else none
          | [] => none
        else fieldText? n (c :: out) fuel cs

/-- Blank characters that the lexer passes over. -/
def isSpace (c : Char) : Bool := c == ' ' || c == '\t' || c == '\n' || c == '\x0c'

/-- Blank characters that may follow the sign `=` of a field. -/
def isWide (c : Char) : Bool := isSpace c || c == '\r' || c == '\x0b'

/-- Read an expression by a rule from a text put into parentheses. -/
def inner? (rule : Rule Expr) (cs : List Char) : Option Expr :=
  if cs.all isSpace then none
  else match rule ⟨tokens ('(' :: cs ++ [')']), 0, 0⟩ with
    | .read e _ => some e
    | _ => none

/-- Join neighbouring plain texts and drop empty ones. -/
def merge : List Piece → List Piece
  | [] => []
  | .field e :: ps => .field e :: merge ps
  | .text cs :: ps =>
    match merge ps with
    | .text ds :: qs => .text (cs ++ ds) :: qs
    | qs => if cs.isEmpty then qs else .text cs :: qs

/-- The pieces as expressions; `marked` is passed on to the constants. -/
def exprs (marked : Bool) (ps : List Piece) : List Expr :=
  (merge ps).map fun
    | .text cs => .constant (.str (String.ofList cs) marked)
    | .field e => e

/-- The conversion of a field, if there is one: the text after it. -/
def conversion? : List Char → Option (Option Char × List Char)
  | '!' :: c :: r => if c == 's' || c == 'r' || c == 'a' then some (some c, r) else none
  | ['!'] => none
  | r => some (none, r)

/-- Resolve the escapes of plain text. -/
def resolve? (raw : Bool) (cs : List Char) : Option (List Char) :=
  if raw then some cs else Literal.decodeText? cs

mutual

/-- Read the pieces of a formatted text at a level of nesting: the text itself, or the format
    of one of its fields, which may hold fields once more. -/
def pieces? (rule : Rule Expr) (marked raw : Bool) (level : Nat) :
    Nat → List Char → Option (List Piece × List Char)
  | 0, _ => none
  | fuel + 1, cs => do
    let p ← plain? raw (level == 0) (cs.length + 1) [] cs
    let text ← resolve? raw p.body
    if p.doubled then
      let (ps, r) ← pieces? rule marked raw level fuel p.rest
      return (.text text :: ps, r)
    else match p.rest with
      | [] => return ([.text text], [])
      | c :: r =>
        if c == '\x7d' then return ([.text text], c :: r)
        else
          let (qs, r') ← field? rule marked raw level fuel r
          let (ps, r'') ← pieces? rule marked raw level fuel r'
          return (.text text :: qs ++ ps, r'')

/-- Read a field after its opening brace. -/
def field? (rule : Rule Expr) (marked raw : Bool) (level : Nat) :
    Nat → List Char → Option (List Piece × List Char)
  | 0, _ => none
  | fuel + 1, cs => do
    if 2 ≤ level then none
    let (body, r) ← fieldText? ⟨none, []⟩ [] (cs.length + 1) cs
    let e ← inner? rule body
    let (shown, r) ← match r with
      | '=' :: r' =>
        let gap := r'.takeWhile isWide
        some (some (body ++ '=' :: gap), r'.drop gap.length)
      | r' => some (none, r')
    let (conversion, r) ← conversion? r
    let (spec, r) ← match r with
      | ':' :: r' => do
        if r'.isEmpty then none
        let (ps, r'') ← pieces? rule marked raw (level + 1) fuel r'
        some (some (Expr.joined (exprs marked ps)), r'')
      | r' => some (none, r')
    match r with
    | '\x7d' :: r' =>
      let conversion := if shown.isSome && spec.isNone && conversion.isNone then some 'r'
        else conversion
      let field := Piece.field (.formatted e conversion spec)
      return (match shown with | some t => [.text t, field] | none => [field], r')
    | _ => none

end

/-- A literal cut into its mark in lower case and its body. -/
def cut (text : List Char) : List Char × List Char :=
  let mark := text.takeWhile Char.isAlpha
  let rest := text.drop mark.length
  let size := match rest with
    | a :: b :: c :: _ :: _ => if a == b && b == c then 3 else 1
    | _ => 1
  let body := rest.drop size
  (mark.map Char.toLower, body.take (body.length - size))

/-- What one literal contributes. -/
inductive Part where
  | bytes (bs : List UInt8)
  | text (cs : List Char)
  | pieces (ps : List Piece)

/-- Read one literal. -/
def part? (rule : Rule Expr) (marked : Bool) (text : List Char) : Option Part := do
  let (mark, body) := cut text
  let raw := mark.contains 'r' || !body.contains '\\'
  if mark.contains 'b' then return .bytes (← Literal.decodeBytes? raw body)
  else if mark.contains 'f' then
    let (ps, r) ← pieces? rule marked raw 0 (3 * body.length + 3) body
    if r.isEmpty then return .pieces ps else none
  else return .text (← resolve? raw body)

/-- The value of adjacent literals. -/
def combine? (marked : Bool) (parts : List Part) : Option Expr :=
  let isBytes : Part → Bool := fun | .bytes _ => true | _ => false
  let isPieces : Part → Bool := fun | .pieces _ => true | _ => false
  if parts.all isBytes then
    some (.constant (.bytes (parts.flatMap fun | .bytes bs => bs | _ => [])))
  else if parts.any isBytes then none
  else
    let ps : List Piece := parts.flatMap fun
      | .text cs => [.text cs]
      | .pieces ps => ps
      | .bytes _ => []
    if parts.any isPieces then some (.joined (exprs marked ps))
    else some (.constant (.str
      (String.ofList (ps.flatMap fun | .text cs => cs | .field _ => [])) marked))

/-- The expression that adjacent literals stand for; fields are read by the given rule. -/
def literals? (rule : Rule Expr) (texts : List (List Char)) : Option Expr := do
  let marked := (texts.head?.bind (·.head?)) == some 'u'
  combine? marked (← texts.mapM (part? rule marked))

end Docsmith.Source.Format
