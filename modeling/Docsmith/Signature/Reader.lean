-- SUMMARY: Reading the parameters back from a signature.
import Docsmith.Text.Lines
import Docsmith.Text.Strip

/-!
# Reading signatures

The parameters of a signature are found again from its text: the text between
the outer parentheses is cut at the commas that stand in no brackets, and every
piece is cut at its first equals sign and its first colon. Parameters called
`self` and `cls` are left out.
-/

namespace Docsmith.Signature

/-- A parameter as a signature shows it. -/
structure Param where
  name : String
  type : String
  default : String
deriving Repr, DecidableEq

/-- The text up to the parenthesis that closes the first one; `depth` counts those that are
    open, and `out` is the reversed text before. -/
def untilClosed (depth : Nat) (out : List Char) : List Char → Option (List Char)
  | [] => none
  | c :: cs =>
    if c == '(' then untilClosed (depth + 1) (c :: out) cs
    else if c == ')' then
      if depth ≤ 1 then some out.reverse else untilClosed (depth - 1) (c :: out) cs
    else untilClosed depth (c :: out) cs

/-- The text between the outer parentheses; a text without them stands for itself. -/
def inner (signature : List Char) : List Char :=
  match Text.strip signature with
  | '(' :: cs => (untilClosed 1 [] cs).getD []
  | cs => cs

/-- Cut at the commas outside of brackets; `piece` is the reversed piece being read. -/
def piecesFrom (depth : Int) (piece : List Char) : List Char → List (List Char)
  | [] => if piece.isEmpty then [] else [piece.reverse]
  | c :: cs =>
    let depth :=
      if ['(', '[', '\x7b'].contains c then depth + 1
      else if [')', ']', '\x7d'].contains c then depth - 1
      else depth
    if c == ',' && depth == 0 then piece.reverse :: piecesFrom depth [] cs
    else piecesFrom depth (c :: piece) cs

/-- The text without the stars in front, at most two. -/
def withoutStars : List Char → List Char
  | '*' :: '*' :: cs => cs
  | '*' :: cs => cs
  | cs => cs

/-- Cut at the first occurrence of a character; `none` if there is none. -/
def cutAt? (sep : Char) (cs : List Char) : Option (List Char × List Char) :=
  match cs.dropWhile (· != sep) with
  | _ :: after => some (Text.strip (cs.takeWhile (· != sep)), Text.strip after)
  | [] => none

/-- The parameter that a piece shows; separators show none. -/
def Param.ofPiece? (piece : List Char) : Option Param :=
  let piece := Text.strip piece
  if piece.isEmpty || piece == ['/'] || piece == ['*'] then none
  else
    let (front, default) := (cutAt? '=' (withoutStars piece)).getD (withoutStars piece, [])
    let (name, type) := (cutAt? ':' front).getD (Text.strip front, [])
    let name := String.ofList name
    if name == "self" || name == "cls" then none
    else some ⟨name, String.ofList type, String.ofList default⟩

/-- The parameters of a signature. -/
def params (signature : String) : List Param :=
  let cs := inner signature.toList
  if cs.all Text.isBlank then [] else (piecesFrom 0 [] cs).filterMap Param.ofPiece?

/-- What follows the last arrow; empty if there is none. -/
def returnType (signature : String) : String :=
  match Text.pieces ['-', '>'] signature.toList with
  | [] | [_] => ""
  | _ :: rest => String.ofList (Text.strip (rest.getLast?.getD []))

end Docsmith.Signature
