-- SUMMARY: Writing JSON texts.
import Docsmith.Text.Quoted
import Docsmith.Value.Text

/-!
# Writing JSON

A value is written on one line or with one member to a line. Keys that are not
texts are written as texts; a value that JSON does not know is written by its own text, or
is a fault, as the layout says.
-/

namespace Docsmith.Json

/-- How JSON is laid out: the blanks per level, if members get lines of their own; whether
    only ASCII is written; what stands between items and after a name; and whether a
    value that JSON does not know is written as text. -/
structure Layout where
  indent : Option Nat
  ascii : Bool
  comma : String
  colon : String
  lenient : Bool

/-- One member to a line, two blanks per level. -/
def wide : Layout := ⟨some 2, false, ",", ": ", true⟩

/-- All on one line. -/
def flat : Layout := ⟨none, false, ", ", ": ", false⟩

/-- All on one line without blanks, in ASCII. -/
def dense : Layout := ⟨none, true, ",", ":", true⟩

/-- The two halves of a character beyond the basic plane. -/
def surrogates (n : Nat) : List Char :=
  let m := n - 0x10000
  '\\' :: 'u' :: Text.hexPadded 4 (0xD800 + m / 0x400)
    ++ '\\' :: 'u' :: Text.hexPadded 4 (0xDC00 + m % 0x400)

/-- A character inside a string. -/
def char (ascii : Bool) (c : Char) : List Char :=
  if c == '"' then ['\\', '"']
  else if c == '\\' then ['\\', '\\']
  else if c == '\n' then ['\\', 'n']
  else if c == '\r' then ['\\', 'r']
  else if c == '\t' then ['\\', 't']
  else if c == '\x0c' then ['\\', 'f']
  else if c == '\x08' then ['\\', 'b']
  else if c.toNat < 32 then '\\' :: 'u' :: Text.hexPadded 4 c.toNat
  else if !ascii || c.toNat < 127 then [c]
  else if c.toNat == 127 then [c]
  else if c.toNat < 0x10000 then '\\' :: 'u' :: Text.hexPadded 4 c.toNat
  else surrogates c.toNat

/-- A string. -/
def string (ascii : Bool) (s : String) : String :=
  String.ofList ('"' :: s.toList.flatMap (char ascii) ++ ['"'])

/-- A floating-point number. -/
def number (x : Float) : String :=
  if x.isNaN then "NaN"
  else if x.isInf then (if x < 0 then "-Infinity" else "Infinity")
  else Decimal.number.write x

/-- The name that a key is written as; bytes, sequences and dictionaries cannot be keys. -/
def name? : Value → Option String
  | .str s => some s
  | .none => some "null"
  | .bool b => some (if b then "true" else "false")
  | .int n => some (toString n)
  | .float x => some (number x)
  | _ => none

/-- Put items between brackets, at a level of nesting. -/
def Layout.group (l : Layout) (level : Nat) (opening closing : String) (items : List String) :
    String :=
  if items.isEmpty then opening ++ closing
  else match l.indent with
    | none => opening ++ l.comma.intercalate items ++ closing
    | some n =>
      let pad (k : Nat) : String := "\n" ++ String.ofList (List.replicate (n * k) ' ')
      opening ++ pad (level + 1) ++ (l.comma ++ pad (level + 1)).intercalate items
        ++ pad level ++ closing

mutual

/-- The JSON text of a value at a level of nesting. -/
def write? (l : Layout) (level : Nat) : Value → Option String
  | .none => some "null"
  | .bool b => some (if b then "true" else "false")
  | .int n => some (toString n)
  | .float x => some (number x)
  | .str s => some (string l.ascii s)
  | .list xs => do return l.group level "[" "]" (← writeItems? l (level + 1) xs)
  | .tuple xs => do return l.group level "[" "]" (← writeItems? l (level + 1) xs)
  | .dict es => do return l.group level "\x7b" "\x7d" (← writeEntries? l (level + 1) es)
  | v => if l.lenient then some (string l.ascii v.display) else none

/-- The JSON texts of the items of a sequence. -/
def writeItems? (l : Layout) (level : Nat) : List Value → Option (List String)
  | [] => some []
  | x :: xs => do
    let t ← write? l level x
    return t :: (← writeItems? l level xs)

/-- The JSON texts of the members of a dictionary. -/
def writeEntries? (l : Layout) (level : Nat) : List (Value × Value) → Option (List String)
  | [] => some []
  | (k, v) :: es => do
    let n ← name? k
    let t ← write? l level v
    return (string l.ascii n ++ l.colon ++ t) :: (← writeEntries? l level es)

end

/-- The JSON text of a value; `none` if a key or a value cannot be written. -/
def Layout.text? (l : Layout) (v : Value) : Option String := write? l 0 v

end Docsmith.Json
