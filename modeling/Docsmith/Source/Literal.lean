-- SUMMARY: What the body of a text literal or byte literal stands for.
import Docsmith.Source.Numeral
import Docsmith.Text.CharacterName

/-!
# Literal bodies

`decodeText?` and `decodeBytes?` resolve the escapes in the body of a literal.
An escape that is not known stands for itself. `none` means that an escape is
incomplete or stands for no character.
-/

namespace Docsmith.Source.Literal

/-- The character that a one-letter escape stands for. -/
def simpleEscape? (c : Char) : Option Char :=
  match c with
  | '\\' => some '\\'
  | '\'' => some '\''
  | '"' => some '"'
  | 'a' => some '\x07'
  | 'b' => some '\x08'
  | 'f' => some '\x0c'
  | 'n' => some '\n'
  | 'r' => some '\r'
  | 't' => some '\t'
  | 'v' => some '\x0b'
  | _ => none

/-- Exactly `n` hexadecimal digits: their value and the text after them. -/
def hexDigits? (n : Nat) (cs : List Char) : Option (Nat × List Char) :=
  let ds := cs.take n
  if ds.length == n && ds.all Numeral.isHex then some (Numeral.ofDigits 16 ds, cs.drop n)
  else none

/-- One to three octal digits: their value and the text after them. -/
def octalDigits (cs : List Char) : Nat × List Char :=
  let ds := (cs.take 3).takeWhile Numeral.isOctal
  (Numeral.ofDigits 8 ds, cs.drop ds.length)

/-- The character of a code that an escape names. A code of half a pair has no character of
    its own and is shown by the replacement character. -/
def charOf (n : Nat) : Char :=
  if 0xD800 ≤ n && n < 0xE000 then '�' else Char.ofNat n

/-- What one escape stands for, given the text after the backslash. -/
def escape? (named : List Char → Option Char) : List Char → Option (List Char × List Char)
  | [] => some (['\\'], [])
  | c :: cs =>
    if c == '\n' then some ([], cs)
    else match simpleEscape? c with
      | some d => some ([d], cs)
      | none =>
        if Numeral.isOctal c then
          let (n, r) := octalDigits (c :: cs)
          some ([charOf n], r)
        else if c == 'x' then (hexDigits? 2 cs).map fun (n, r) => ([charOf n], r)
        else if c == 'u' then (hexDigits? 4 cs).map fun (n, r) => ([charOf n], r)
        else if c == 'U' then (hexDigits? 8 cs).bind fun (n, r) =>
          if n < 0x110000 then some ([charOf n], r) else none
        else if c == 'N' then
          match cs with
          | '\x7b' :: r =>
            let name := r.takeWhile (· != '\x7d')
            match r.drop name.length with
            | _ :: r' => (named name).map fun d => ([d], r')
            | [] => none
          | _ => none
        else some (['\\', c], cs)

/-- Resolve escapes; `out` is the reversed text so far. -/
def decodeFrom? (named : List Char → Option Char) (out : List Char) :
    Nat → List Char → Option (List Char)
  | 0, _ => none
  | _ + 1, [] => some out.reverse
  | fuel + 1, c :: cs =>
    if c == '\\' then
      match escape? named cs with
      | some (ds, r) => decodeFrom? named (ds.reverse ++ out) fuel r
      | none => none
    else decodeFrom? named (c :: out) fuel cs

/-- The text that a body without a raw mark stands for. -/
def decodeText? (cs : List Char) : Option (List Char) :=
  decodeFrom? Text.namedChar? [] (cs.length + 1) cs

/-- The byte that one escape of a byte literal stands for, given the text after the backslash. -/
def byteEscape? : List Char → Option (List Char × List Char)
  | [] => some (['\\'], [])
  | c :: cs =>
    if c == '\n' then some ([], cs)
    else match simpleEscape? c with
      | some d => some ([d], cs)
      | none =>
        if Numeral.isOctal c then
          let (n, r) := octalDigits (c :: cs)
          some ([Char.ofNat (n % 256)], r)
        else if c == 'x' then (hexDigits? 2 cs).map fun (n, r) => ([Char.ofNat n], r)
        else some (['\\', c], cs)

/-- Resolve the escapes of a byte literal. -/
def decodeBytesFrom? (out : List Char) : Nat → List Char → Option (List Char)
  | 0, _ => none
  | _ + 1, [] => some out.reverse
  | fuel + 1, c :: cs =>
    if c == '\\' then
      match byteEscape? cs with
      | some (ds, r) => decodeBytesFrom? (ds.reverse ++ out) fuel r
      | none => none
    else decodeBytesFrom? (c :: out) fuel cs

/-- The bytes that a body stands for; it may hold ASCII characters only. -/
def decodeBytes? (raw : Bool) (cs : List Char) : Option (List UInt8) :=
  if cs.all (·.toNat < 128) then
    let decoded := if raw then some cs else decodeBytesFrom? [] (cs.length + 1) cs
    decoded.map fun ds => ds.map fun c => c.toNat.toUInt8
  else none

end Docsmith.Source.Literal
