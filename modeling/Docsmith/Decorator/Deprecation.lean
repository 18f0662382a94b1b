-- SUMMARY: Whether a function is deprecated, and since when.
import Docsmith.Source.Denotation
import Docsmith.Text.Letter
import Docsmith.Text.Lines
import Docsmith.Text.Strip

/-!
# Deprecation

A function is deprecated when a decorator says so, or else when a line of its
documentation does.
-/

namespace Docsmith.Decorator

open Source

/-- Whether something is deprecated, why, and since when. -/
structure Deprecation where
  deprecated : Bool
  message : String
  since : String
deriving Repr, DecidableEq

/-- Not deprecated. -/
def Deprecation.none : Deprecation := ⟨false, "", ""⟩

/-- The last name of a decorator or of its callee. -/
def plainName : Expr → String
  | .name id => id
  | .attribute _ attr => attr
  | .call (.name id) _ _ => id
  | .call (.attribute _ attr) _ _ => attr
  | _ => ""

/-- The message that a decorator gives: its first argument, if that is a text. -/
def messageOf : Expr → String
  | .call _ (.constant (.str s _) :: _) _ => s
  | _ => ""

/-- The last constant given for `since`; `before` is the one found so far. -/
def sinceFrom (before : String) : List Keyword → String
  | [] => before
  | .mk (some "since") (.constant c) :: ks => sinceFrom c.value.text ks
  | _ :: ks => sinceFrom before ks

/-- Since when a decorator says that something is deprecated. -/
def sinceOf : Expr → String
  | .call _ _ keywords => sinceFrom "" keywords
  | _ => ""

/-- The decorator says that the function is deprecated. -/
def marksDeprecated (d : Expr) : Bool :=
  let name := Text.lower (plainName d).toList
  name == "deprecated".toList || name == "deprecate".toList

/-- What the decorators say. -/
def deprecationOfDecorators? (ds : List Expr) : Option Deprecation :=
  (ds.find? marksDeprecated).map fun d => ⟨true, messageOf d, sinceOf d⟩

/-! ## Lines of documentation -/

/-- What follows white space, of which there must be some. -/
def afterBlanks? (cs : List Char) : Option (List Char) :=
  match cs with
  | c :: r => if Text.isBlank c then some (Text.stripStart r) else none
  | [] => none

/-- A directive: two points, blanks, `deprecated::` and since when. -/
def directive? (line : List Char) : Option Deprecation := do
  let r ← Text.dropExact? "..".toList line
  let r ← afterBlanks? r
  let r ← Text.dropWord? "deprecated::".toList r
  match Text.stripStart r with
  | [] => none
  | r => return ⟨true, "", String.ofList (Text.strip r)⟩

/-- Cut at the first colon; nothing may be missing before it. -/
def sinceAndMessage (cs : List Char) : Deprecation :=
  let since := Text.strip (cs.takeWhile (· != ':'))
  let message := Text.strip ((cs.dropWhile (· != ':')).drop 1)
  ⟨true, String.ofList message, String.ofList since⟩

/-- A sentence: `deprecated since`, a version, and a message after a colon. A colon right
    after the blanks leaves the version empty, provided that one of the blanks can stand
    for it. -/
def sentence? (line : List Char) : Option Deprecation := do
  let r ← Text.dropWord? "deprecated".toList line
  let r ← afterBlanks? r
  let r ← Text.dropWord? "since".toList r
  let rest ← afterBlanks? r
  match rest with
  | [] => none
  | ':' :: _ => if r.length < rest.length + 2 then none else return sinceAndMessage rest
  | _ => return sinceAndMessage rest

/-- What a line of documentation says. -/
def deprecationOfLine? (line : List Char) : Option Deprecation :=
  let s := Text.strip line
  let low := Text.lower s
  directive? s <|> sentence? s
    <|> (if Text.startsWith "deprecated:".toList low then
      some ⟨true, String.ofList (Text.strip (s.drop 11)), ""⟩
    else if low == "deprecated".toList || low == "deprecated.".toList then some ⟨true, "", ""⟩
    else Option.none)

/-- What a function's decorators, or else its documentation, say. -/
def deprecation (f : FunctionDef) (documentation : String) : Deprecation :=
  (deprecationOfDecorators? f.decorators
    <|> (Text.lines documentation.toList).findSome? deprecationOfLine?).getD Deprecation.none

end Docsmith.Decorator
