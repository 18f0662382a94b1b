-- SUMMARY: Reading UTF-8.

/-!
# UTF-8

Bytes that are not well-formed UTF-8 are replaced: every longest run that starts
like a character but is not one becomes one replacement character.
-/

namespace Docsmith.Text

/-- What a first byte announces: the bits that it contributes, and the ranges of the bytes
    that must follow. -/
structure Lead where
  bits : Nat
  follow : List (Nat × Nat)

/-- What a byte announces; `none` if no character starts with it. -/
def lead? (b : Nat) : Option Lead :=
  let any := (0x80, 0xBF)
  if b < 0x80 then some ⟨b, []⟩
  else if 0xC2 ≤ b && b ≤ 0xDF then some ⟨b - 0xC0, [any]⟩
  else if b == 0xE0 then some ⟨0, [(0xA0, 0xBF), any]⟩
  else if b == 0xED then some ⟨0xD, [(0x80, 0x9F), any]⟩
  else if 0xE1 ≤ b && b ≤ 0xEF then some ⟨b - 0xE0, [any, any]⟩
  else if b == 0xF0 then some ⟨0, [(0x90, 0xBF), any, any]⟩
  else if b == 0xF4 then some ⟨4, [(0x80, 0x8F), any, any]⟩
  else if 0xF1 ≤ b && b ≤ 0xF3 then some ⟨b - 0xF0, [any, any, any]⟩
  else none

/-- Read the bytes that must follow: the code point, or `none` if one is missing, and the
    number of bytes read. -/
def follow (bits n : Nat) : List (Nat × Nat) → List UInt8 → Option Nat × Nat
  | [], _ => (some bits, n)
  | _ :: _, [] => (none, n)
  | (lo, hi) :: fs, b :: bs =>
    if lo ≤ b.toNat && b.toNat ≤ hi then follow (bits * 64 + (b.toNat - 0x80)) (n + 1) fs bs
    else (none, n)

/-- The character that the byte and those after it form, and how many bytes after it belong
    to it. -/
def utf8Char (b : UInt8) (bs : List UInt8) : Char × Nat :=
  match lead? b.toNat with
  | none => ('�', 0)
  | some l => match follow l.bits 0 l.follow bs with
    | (some n, k) => (Char.ofNat n, k)
    | (none, k) => ('�', k)

/-- Decode; `skip` counts bytes that belong to the character before, `out` is the reversed
    text so far. -/
def decodeUtf8From (out : List Char) : Nat → List UInt8 → List Char
  | _, [] => out.reverse
  | skip + 1, _ :: bs => decodeUtf8From out skip bs
  | 0, b :: bs =>
    let (c, k) := utf8Char b bs
    decodeUtf8From (c :: out) k bs

/-- The text that bytes encode. -/
def decodeUtf8 (bs : List UInt8) : List Char := decodeUtf8From [] 0 bs

end Docsmith.Text
