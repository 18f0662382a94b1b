-- SUMMARY: Quoted forms of texts and byte strings.
import Docsmith.Text.Printable

/-!
# Quoted forms

A text is quoted by apostrophes unless it holds an apostrophe and no double
quote. Inside, the quote and the backslash are escaped, and every character
that is not printable is written by its code.
-/

namespace Docsmith.Text

/-- The hexadecimal digits of a number, padded with zeros to a width. -/
def hexPadded (width n : Nat) : List Char :=
  let ds := Nat.toDigits 16 n
  List.replicate (width - ds.length) '0' ++ ds

/-- The quote that a text is put into. -/
def quoteFor (cs : List Char) : Char :=
  if cs.contains '\'' && !cs.contains '"' then '"' else '\''

/-- A character that cannot be shown, by its code. -/
def codeEscape (c : Char) : List Char :=
  let n := c.toNat
  if n < 0x100 then '\\' :: 'x' :: hexPadded 2 n
  else if n < 0x10000 then '\\' :: 'u' :: hexPadded 4 n
  else '\\' :: 'U' :: hexPadded 8 n

/-- One character inside quotes. -/
def quotedChar (quote c : Char) : List Char :=
  if c == quote || c == '\\' then ['\\', c]
  else if c == '\t' then ['\\', 't']
  else if c == '\n' then ['\\', 'n']
  else if c == '\r' then ['\\', 'r']
  else if isPrintable c then [c]
  else codeEscape c

/-- The quoted form of a text. -/
def quoted (cs : List Char) : List Char :=
  let q := quoteFor cs
  q :: cs.flatMap (quotedChar q) ++ [q]

/-- One byte inside quotes. -/
def quotedByte (quote : Char) (b : UInt8) : List Char :=
  let c := Char.ofNat b.toNat
  if c == quote || c == '\\' then ['\\', c]
  else if c == '\t' then ['\\', 't']
  else if c == '\n' then ['\\', 'n']
  else if c == '\r' then ['\\', 'r']
  else if 32 ≤ b.toNat && b.toNat < 127 then [c]
  else '\\' :: 'x' :: hexPadded 2 b.toNat

/-- The quoted form of a byte string. -/
def quotedBytes (bs : List UInt8) : List Char :=
  let q := quoteFor (bs.map fun b => Char.ofNat b.toNat)
  'b' :: q :: bs.flatMap (quotedByte q) ++ [q]

end Docsmith.Text
