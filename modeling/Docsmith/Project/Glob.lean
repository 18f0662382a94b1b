-- SUMMARY: Patterns for file names.

/-!
# Patterns

In a pattern a star stands for any text, a question mark for any character, and
brackets for one of the characters and ranges between them, or for any other
character if an exclamation mark comes first. Slashes are not special.
-/

namespace Docsmith

/-- A part of a pattern. -/
inductive Glob.Part where
  | char (c : Char)
  | any
  | many
  | never
  | oneOf (negated : Bool) (ranges : List (Char × Char))

namespace Glob

/-! ## Brackets -/

/-- Cut the text between brackets at the hyphens that form ranges. `skip` characters are taken
    before the next hyphen can be one; `chunk` is the reversed chunk being read. -/
def chunksFrom (chunk : List Char) : Nat → List Char → List (List Char)
  | _, [] => [chunk.reverse]
  | skip + 1, c :: cs => chunksFrom (c :: chunk) skip cs
  | 0, c :: cs =>
    if c == '-' then chunk.reverse :: chunksFrom [] 2 cs else chunksFrom (c :: chunk) 0 cs

/-- A hyphen at the end stands for itself. -/
def closeLast : List (List Char) → List (List Char)
  | [] => []
  | [c] => [c]
  | [c, []] => [c ++ ['-']]
  | c :: cs => c :: closeLast cs

/-- Drop ranges whose ends are in the wrong order. -/
def dropEmptyRanges : List (List Char) → List (List Char)
  | [] => []
  | c :: rest => match dropEmptyRanges rest with
    | [] => [c]
    | d :: ds => match c.getLast?, d with
      | some a, b :: d' => if b < a then (c.dropLast ++ d') :: ds else c :: d :: ds
      | _, _ => c :: d :: ds

/-- Single characters as ranges. -/
def singles (cs : List Char) : List (Char × Char) := cs.map fun c => (c, c)

/-- The characters and ranges that chunks stand for. -/
def rangesFrom (chunk : List Char) : List (List Char) → List (Char × Char)
  | [] => singles chunk
  | d :: ds => match chunk.getLast?, d with
    | some a, b :: d' => singles chunk.dropLast ++ (a, b) :: rangesFrom d' ds
    | _, _ => singles chunk ++ ('-', '-') :: rangesFrom d ds

/-- What the text between brackets stands for. -/
def bracket (inner : List Char) : Part :=
  let skip := if inner.head? == some '!' then 2 else 1
  let chunks := if inner.contains '-' then dropEmptyRanges (closeLast (chunksFrom [] skip inner))
    else [inner]
  match chunks with
  | [] => .never
  | [[]] => .never
  | [['!']] => .any
  | ('!' :: c) :: cs => .oneOf true (rangesFrom c cs)
  | c :: cs => .oneOf false (rangesFrom c cs)

/-- The text between brackets and what follows them; the first character after the opening
    bracket, or after an exclamation mark there, does not close them. -/
def insideBrackets? (cs : List Char) : Option (List Char × List Char) :=
  let (front, r) := match cs with
    | '!' :: ']' :: r => (['!', ']'], r)
    | '!' :: r => (['!'], r)
    | ']' :: r => ([']'], r)
    | r => ([], r)
  match r.dropWhile (· != ']') with
  | _ :: after => some (front ++ r.takeWhile (· != ']'), after)
  | [] => none

/-! ## Patterns -/

/-- The parts of a pattern of at most `fuel` characters. -/
def partsFrom : Nat → List Char → List Part
  | 0, _ => []
  | _ + 1, [] => []
  | fuel + 1, c :: cs =>
    if c == '*' then .many :: partsFrom fuel (cs.dropWhile (· == '*'))
    else if c == '?' then .any :: partsFrom fuel cs
    else if c == '[' then
      match insideBrackets? cs with
      | some (inner, r) => bracket inner :: partsFrom fuel r
      | none => .char '[' :: partsFrom fuel cs
    else .char c :: partsFrom fuel cs

/-- The parts of a pattern. -/
def parts (pattern : String) : List Part := partsFrom pattern.length pattern.toList

/-- The part stands for the character. -/
def Part.accepts (c : Char) : Part → Bool
  | .char d => c == d
  | .any => true
  | .many => false
  | .never => false
  | .oneOf negated ranges => (ranges.any fun (lo, hi) => lo ≤ c && c ≤ hi) != negated

/-- Some end of the text, the whole text and the empty one included, is accepted. -/
def someEnd (accepts : List Char → Bool) : List Char → Bool
  | [] => accepts []
  | c :: cs => accepts (c :: cs) || someEnd accepts cs

/-- The parts stand for the text. -/
def matchesParts : List Part → List Char → Bool
  | [], cs => cs.isEmpty
  | .many :: ps, cs => someEnd (matchesParts ps) cs
  | _ :: _, [] => false
  | p :: ps, c :: cs => p.accepts c && matchesParts ps cs

/-- The pattern stands for the text. -/
def isMatch (pattern text : String) : Bool := matchesParts (parts pattern) text.toList

end Glob

end Docsmith
