-- SUMMARY: Where a number ends in a source text, and what it stands for.
import Docsmith.Decimal.Read
import Docsmith.Source.Tree

/-!
# Numerals

`Numeral.rest?` finds the end of the longest numeral at the start of a text;
`none` means that the text starts with something that only looks like one.
`Numeral.constant` is the constant that a numeral stands for.
-/

namespace Docsmith.Source.Numeral

/-- The character may stand in a name, as far as the end of a numeral is concerned. -/
def isTail (c : Char) : Bool := c.isAlphanum || c == '_' || 128 ≤ c.toNat

/-- Words that may follow a numeral without a blank. -/
def followers : List (List Char) :=
  ["and", "else", "for", "if", "in", "is", "or", "not"].map String.toList

/-- A numeral may end in front of this text. -/
def mayEnd (cs : List Char) : Bool :=
  followers.any (·.isPrefixOf cs) || !(cs.head?.any isTail)

/-- Groups of digits with single underscores between them: the text after them. The text
    starts with a digit or an underscore. -/
def digits? (p : Char → Bool) : Nat → List Char → Option (List Char)
  | 0, _ => none
  | fuel + 1, cs =>
    match cs.dropWhile p with
    | '_' :: c :: r => if p c then digits? p fuel (c :: r) else none
    | '_' :: [] => none
    | r => some r

/-- The rest after groups of decimal digits. -/
def decimals? (cs : List Char) : Option (List Char) := digits? Char.isDigit (cs.length + 1) cs

/-- The rest, provided that a numeral may end in front of it. -/
def ending? (cs : List Char) : Option (List Char) := if mayEnd cs then some cs else none

/-- An imaginary mark, or the end of the numeral. -/
def mark? : List Char → Option (List Char)
  | 'j' :: r | 'J' :: r => ending? r
  | r => ending? r

/-- An exponent, if there is one, and what may follow it. -/
def exponent? : List Char → Option (List Char)
  | e :: r =>
    if e == 'e' || e == 'E' then
      match r with
      | c :: d :: r' =>
        if (c == '+' || c == '-') then
          if d.isDigit then (decimals? (d :: r')).bind mark? else none
        else if c.isDigit then (decimals? r).bind mark?
        else ending? (e :: r)
      | [c] =>
        if c == '+' || c == '-' then none
        else if c.isDigit then mark? []
        else ending? (e :: r)
      | [] => ending? [e]
    else mark? (e :: r)
  | [] => some []

/-- The digits after a decimal point, and what may follow them. -/
def fraction? (cs : List Char) : Option (List Char) :=
  if cs.head?.any Char.isDigit then (decimals? cs).bind exponent? else exponent? cs

/-- What may follow the whole part of a decimal numeral. -/
def afterWhole? : List Char → Option (List Char)
  | '.' :: r => fraction? r
  | r => exponent? r

/-- Digits of another base after its mark. -/
def based? (p : Char → Bool) (cs : List Char) : Option (List Char) :=
  let r := match cs with | '_' :: r => r | r => r
  if r.head?.any p then (digits? p (r.length + 1) r).bind fun r' =>
    if r'.head?.any Char.isDigit then none else ending? r'
  else none

/-- Hexadecimal digits. -/
def isHex (c : Char) : Bool :=
  c.isDigit || ('a' ≤ c && c ≤ 'f') || ('A' ≤ c && c ≤ 'F')

/-- Octal digits. -/
def isOctal (c : Char) : Bool := '0' ≤ c && c ≤ '7'

/-- Binary digits. -/
def isBinary (c : Char) : Bool := c == '0' || c == '1'

/-- The text after the numeral at its start. The text starts with a digit, or with a point
    and a digit. -/
def rest? : List Char → Option (List Char)
  | '.' :: r => fraction? r
  | '0' :: c :: r =>
    if c == 'x' || c == 'X' then based? isHex r
    else if c == 'o' || c == 'O' then based? isOctal r
    else if c == 'b' || c == 'B' then based? isBinary r
    else (decimals? ('0' :: c :: r)).bind fun r' =>
      let read := ('0' :: c :: r).take (r.length + 2 - r'.length)
      match r' with
      | '.' :: r'' => fraction? r''
      | e :: _ =>
        if e == 'e' || e == 'E' then exponent? r'
        else if e == 'j' || e == 'J' then mark? r'
        else if read.all fun d => d == '0' || d == '_' then ending? r' else none
      | [] => if read.all fun d => d == '0' || d == '_' then some [] else none
  | cs => (decimals? cs).bind afterWhole?

/-- The value of a digit in any base up to sixteen. -/
def digitValue (c : Char) : Nat :=
  if c.isDigit then c.toNat - 48
  else if 'a' ≤ c && c ≤ 'f' then c.toNat - 87
  else c.toNat - 55

/-- The number written by digits of a base. -/
def ofDigits (base : Nat) (ds : List Char) : Nat :=
  ds.foldl (fun n c => base * n + digitValue c) 0

/-- The most decimal digits that an integer may be written with. -/
def maxDigits : Nat := 4300

/-- The constant that a numeral stands for; a decimal integer may not be too long. -/
def constant? (text : List Char) : Option Constant :=
  match text.filter (· != '_') with
  | '0' :: c :: ds =>
    if c == 'x' || c == 'X' then some (.int (ofDigits 16 ds))
    else if c == 'o' || c == 'O' then some (.int (ofDigits 8 ds))
    else if c == 'b' || c == 'B' then some (.int (ofDigits 2 ds))
    else decimal ('0' :: c :: ds)
  | cs => decimal cs
where
  /-- A decimal integer, a floating-point number or an imaginary number. -/
  decimal (cs : List Char) : Option Constant :=
    if cs.all Char.isDigit then
      if cs.length ≤ maxDigits then some (.int (ofDigits 10 cs)) else none
    else match cs.reverse with
      | 'j' :: r | 'J' :: r => some (.imaginary (Decimal.Numeral.ofChars r.reverse).value)
      | _ => some (.float (Decimal.Numeral.ofChars cs).value)

end Docsmith.Source.Numeral
