-- SUMMARY: Tokens of the documented language.
import Docsmith.Text.NormalForm

/-!
# Tokens

A source file is read as a list of tokens. Line structure is part of it: the end
of a logical line, and every change of indentation, is a token of its own. A
text that cannot be cut into tokens ends in a token that says why.
-/

namespace Docsmith.Source

/-- Why a text is not a program. -/
inductive Fault where
  /-- The text breaks a rule of the grammar. -/
  | malformed
  /-- A block is missing, or a line is indented where it must not be. -/
  | indentation
  /-- Tabulators and blanks are mixed so that the indentation is ambiguous. -/
  | tabulation
  /-- The text holds a character with the code zero. -/
  | nulByte
deriving Repr, DecidableEq

/-- The kinds of tokens. -/
inductive TokenKind where
  | name
  | number
  | string
  | symbol
  | newline
  | indent
  | dedent
  | finish
  | fault (why : Fault)
deriving Repr, DecidableEq

/-- A token: its kind and text, its number in the file, the line it starts on, and the
    offsets of its first character and of the character after its last one. -/
structure Token where
  kind : TokenKind
  text : String
  index : Nat
  line : Nat
  start : Nat
  stop : Nat
deriving Repr

/-- Words that cannot be used as names. -/
def keywords : List String := [
  "False", "None", "True", "and", "as", "assert", "async", "await", "break", "class",
  "continue", "def", "del", "elif", "else", "except", "finally", "for", "from", "global",
  "if", "import", "in", "is", "lambda", "nonlocal", "not", "or", "pass", "raise", "return",
  "try", "while", "with", "yield"]

/-- The token is the given keyword or symbol. -/
def Token.is (t : Token) (text : String) : Bool :=
  (t.kind == .symbol || t.kind == .name) && t.text == text

/-- The name that the token is, in its normal form, when it is not a keyword. -/
def Token.name? (t : Token) : Option String :=
  if t.kind == .name && !keywords.contains t.text then some (Text.normalName t.text) else none

end Docsmith.Source
