-- SUMMARY: Reading JSON texts.
import Docsmith.Decimal.Read
import Docsmith.Text.Lines
import Docsmith.Value.Basic

/-!
# Reading JSON

An object becomes a dictionary in the order of its members; of equal names the
last one counts, at the place of the first. A number with a fraction or an exponent is a
floating-point number, any other is an integer of any size. The words `NaN`,
`Infinity` and `-Infinity` are read as well. A text that is not JSON has a first
problem: what was expected, and how much of the text was left there.
-/

namespace Docsmith.Json

/-- White space between tokens. -/
def isSpace (c : Char) : Bool := c == ' ' || c == '\t' || c == '\n' || c == '\r'

/-- Drop white space. -/
def skip (cs : List Char) : List Char := cs.dropWhile isSpace

/-- The value of a hexadecimal digit. -/
def hexDigit? (c : Char) : Option Nat :=
  if '0' ≤ c && c ≤ '9' then some (c.toNat - 48)
  else if 'a' ≤ c && c ≤ 'f' then some (c.toNat - 87)
  else if 'A' ≤ c && c ≤ 'F' then some (c.toNat - 55)
  else none

/-- The number written by four hexadecimal digits. -/
def hex4? : List Char → Option (Nat × List Char)
  | a :: b :: c :: d :: r => do
    let a ← hexDigit? a
    let b ← hexDigit? b
    let c ← hexDigit? c
    let d ← hexDigit? d
    return (((a * 16 + b) * 16 + c) * 16 + d, r)
  | _ => none

/-- A low surrogate written as an escape at the start of the text. -/
def low? : List Char → Option (Nat × List Char)
  | '\\' :: 'u' :: r => do
    let (n, r) ← hex4? r
    if 0xDC00 ≤ n && n ≤ 0xDFFF then return (n, r) else none
  | _ => none

/-- The character of an escape, after its backslash. -/
def escape? : List Char → Option (Char × List Char)
  | '"' :: r => some ('"', r)
  | '\\' :: r => some ('\\', r)
  | '/' :: r => some ('/', r)
  | 'b' :: r => some ('\x08', r)
  | 'f' :: r => some ('\x0c', r)
  | 'n' :: r => some ('\n', r)
  | 'r' :: r => some ('\r', r)
  | 't' :: r => some ('\t', r)
  | 'u' :: r => do
    let (n, r) ← hex4? r
    if 0xD800 ≤ n && n ≤ 0xDBFF then
      match low? r with
      | some (m, r) => return (Char.ofNat (0x10000 + (n - 0xD800) * 0x400 + (m - 0xDC00)), r)
      | none => return ('�', r)
    else if 0xDC00 ≤ n && n ≤ 0xDFFF then return ('�', r)
    else return (Char.ofNat n, r)
  | _ => none

/-- What is wrong with a text. -/
inductive Complaint where
  | value
  | name
  | colon
  | comma
  | extra
  | openString
  | control
  | badEscape
deriving Repr, DecidableEq

/-- The wording of a complaint. -/
def Complaint.message : Complaint → String
  | .value => "Expecting value"
  | .name => "Expecting property name enclosed in double quotes"
  | .colon => "Expecting ':' delimiter"
  | .comma => "Expecting ',' delimiter"
  | .extra => "Extra data"
  | .openString => "Unterminated string starting at"
  | .control => "Invalid control character at"
  | .badEscape => "Invalid \\escape"

/-- A complaint with the number of characters that are left where it arises. -/
structure Problem where
  complaint : Complaint
  left : Nat

/-- What was read, or why nothing was. -/
abbrev Reading := Except Problem

/-- Give up in front of a text. -/
def fail (c : Complaint) (rest : List Char) : Reading α := .error ⟨c, rest.length⟩

/-- The rest of a string after its opening quote; `start` is what was left at that quote and `out`
    is the reversed text before. -/
def stringRest (start : Nat) : Nat → List Char → List Char → Reading (String × List Char)
  | 0, _, _ => .error ⟨.openString, start⟩
  | _ + 1, _, [] => .error ⟨.openString, start⟩
  | _ + 1, out, '"' :: r => .ok (String.ofList out.reverse, r)
  | fuel + 1, out, '\\' :: r =>
    match escape? r with
    | some (c, r) => stringRest start fuel (c :: out) r
    | none => if r.isEmpty then .error ⟨.openString, start⟩ else fail .badEscape ('\\' :: r)
  | fuel + 1, out, c :: r =>
    if c.toNat < 32 then fail .control (c :: r) else stringRest start fuel (c :: out) r

/-- The digits at the start of a text. -/
def digits (cs : List Char) : List Char × List Char :=
  (cs.takeWhile Char.isDigit, cs.dropWhile Char.isDigit)

/-- A fraction, if there is one. -/
def fraction (cs : List Char) : List Char × List Char :=
  match cs with
  | '.' :: r =>
    let (ds, r') := digits r
    if ds.isEmpty then ([], cs) else ('.' :: ds, r')
  | _ => ([], cs)

/-- An exponent, if there is one. -/
def exponent (cs : List Char) : List Char × List Char :=
  match cs with
  | e :: r =>
    if e == 'e' || e == 'E' then
      let (sign, r) := match r with
        | '+' :: r => (['+'], r)
        | '-' :: r => (['-'], r)
        | r => ([], r)
      let (ds, r') := digits r
      if ds.isEmpty then ([], cs) else (e :: sign ++ ds, r')
    else ([], cs)
  | [] => ([], cs)

/-- An unsigned number. -/
def number? (neg : Bool) (cs : List Char) : Option (Value × List Char) := do
  let (whole, r) ← match cs with
    | '0' :: r => some (['0'], r)
    | _ =>
      let (ds, r) := digits cs
      if ds.isEmpty then none else some (ds, r)
  let (frac, r) := fraction r
  let (exp, r) := exponent r
  if frac.isEmpty && exp.isEmpty then
    let n : Int := Decimal.digitsValue whole
    return (.int (if neg then -n else n), r)
  else
    let x := (Decimal.Numeral.ofChars (whole ++ frac ++ exp)).value
    return (.float (if neg then -x else x), r)

/-- A word or a number. -/
def scalar? (cs : List Char) : Option (Value × List Char) :=
  let word (w : String) (v : Value) : Option (Value × List Char) :=
    (Text.dropExact? w.toList cs).map fun r => (v, r)
  word "null" .none <|> word "true" (.bool true) <|> word "false" (.bool false)
    <|> word "NaN" (.float Decimal.notANumber) <|> word "Infinity" (.float Decimal.infinity)
    <|> word "-Infinity" (.float (-Decimal.infinity))
    <|> match cs with
      | '-' :: r => number? true r
      | _ => number? false cs

/-- The name of a member and the colon after it. -/
def memberName (cs : List Char) : Reading (String × List Char) :=
  match cs with
  | '"' :: r => do
    let (k, r) ← stringRest cs.length (r.length + 1) [] r
    match skip r with
    | ':' :: r => .ok (k, skip r)
    | r => fail .colon r
  | _ => fail .name cs

mutual

/-- A value at the start of a text without white space before it. -/
def value : Nat → List Char → Reading (Value × List Char)
  | 0, cs => fail .value cs
  | fuel + 1, cs =>
    match cs with
    | '"' :: r => do
      let (s, r) ← stringRest cs.length (r.length + 1) [] r
      .ok (.str s, r)
    | '[' :: r => match skip r with
      | ']' :: r => .ok (.list [], r)
      | r => items fuel [] r
    | '\x7b' :: r => match skip r with
      | '\x7d' :: r => .ok (.dict [], r)
      | r => members fuel [] r
    | _ => match scalar? cs with
      | some found => .ok found
      | none => fail .value cs

/-- The items of an array up to its end; `found` are the items before, reversed. -/
def items : Nat → List Value → List Char → Reading (Value × List Char)
  | 0, _, cs => fail .value cs
  | fuel + 1, found, cs => do
    let (v, r) ← value fuel cs
    match skip r with
    | ',' :: r => items fuel (v :: found) (skip r)
    | ']' :: r => .ok (.list (v :: found).reverse, r)
    | r => fail .comma r

/-- The members of an object up to its end; `found` are the members before. -/
def members : Nat → Entries → List Char → Reading (Value × List Char)
  | 0, _, cs => fail .value cs
  | fuel + 1, found, cs => do
    let (k, r) ← memberName cs
    let (v, r) ← value fuel r
    let found := found.putText k v
    match skip r with
    | ',' :: r => members fuel found (skip r)
    | '\x7d' :: r => .ok (.dict found, r)
    | r => fail .comma r

end

/-- Read a JSON text, or say what is wrong with it first. -/
def read (text : String) : Reading Value := do
  let cs := skip text.toList
  let (v, r) ← value (cs.length + 1) cs
  let r := skip r
  if r.isEmpty then return v else throw ⟨.extra, r.length⟩

/-- Read a JSON text. -/
def parse? (text : String) : Option Value := (read text).toOption

/-- The wording of a problem with a text: the complaint, its line and column, and the number of
    characters before it. -/
def Problem.message (p : Problem) (text : String) : String :=
  let place := text.length - p.left
  let before := text.toList.take place
  let line := (before.filter (· == '\n')).length + 1
  let column := (before.reverse.takeWhile (· != '\n')).length + 1
  p.complaint.message ++ ": line " ++ toString line ++ " column " ++ toString column
    ++ " (char " ++ toString place ++ ")"

end Docsmith.Json
