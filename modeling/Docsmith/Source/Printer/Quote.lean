-- SUMMARY: Choosing the quotes around a text literal.
import Docsmith.Text.Quoted
import Docsmith.Text.Lines

/-!
# Quotes for literals

A literal that should not hold backslashes is put into the first kind of quotes
that the text does not contain. Only a text that contains all kinds of quotes is
written in its plain quoted form.
-/

namespace Docsmith.Source.Quote

/-- The kinds of quotes for a text on one line. -/
def single : List (List Char) := ["'", "\""].map String.toList

/-- The kinds of quotes for a text on several lines. -/
def multi : List (List Char) := ["\"\"\"", "'''"].map String.toList

/-- All kinds of quotes, in the order of preference. -/
def all : List (List Char) := single ++ multi

/-- One character of a literal. Line feeds and tabulators are escaped only when asked for. -/
def escapeChar (spaces : Bool) (c : Char) : List Char :=
  if !spaces && (c == '\n' || c == '\t') then [c]
  else if c == '\\' then ['\\', '\\']
  else if Text.isPrintable c then [c]
  else if c == '\n' then ['\\', 'n']
  else if c == '\t' then ['\\', 't']
  else if c == '\r' then ['\\', 'r']
  else Text.codeEscape c

/-- The first character of a kind of quotes. -/
def lead (quote : List Char) : Char := quote.headD '\''

/-- The body of a literal and the kinds of quotes that fit it, best first, out of `kinds`. -/
def choose (kinds : List (List Char)) (spaces : Bool) (cs : List Char) :
    List Char × List (List Char) :=
  let body := cs.flatMap (escapeChar spaces)
  let fitting := if body.contains '\n' then kinds.filter multi.contains else kinds
  let fitting := fitting.filter fun q => !Text.contains q body
  if fitting.isEmpty then
    let plain := Text.quoted cs
    let quote := match kinds.find? fun q => q.contains (lead plain) with
      | some q => q
      | none => [lead plain]
    ((plain.drop 1).dropLast, [quote])
  else match body.getLast? with
    | none => (body, fitting)
    | some last =>
      let ranked := fitting.filter (fun q => lead q != last) ++ fitting.filter (fun q => lead q == last)
      match ranked with
      | q :: _ =>
        if lead q == last then (body.dropLast ++ ['\\', last], ranked) else (body, ranked)
      | [] => (body, ranked)

/-- A literal with as few backslashes as possible. -/
def write (kinds : List (List Char)) (cs : List Char) : List Char :=
  match choose kinds false cs with
  | (body, q :: _) => q ++ body ++ q
  | (body, []) => body

/-- Fit all parts of a formatted text into one kind of quotes; a part tells whether it is
    plain text. `none` when no kind fits. -/
def fit : List (List Char) → List (List Char × Bool) → Option (List (List Char) × List (List Char))
  | kinds, [] => some ([], kinds)
  | kinds, (part, isPlain) :: parts =>
    let (body, kinds') := choose kinds isPlain part
    if kinds'.any kinds.contains then
      (fit kinds' parts).map fun (bodies, last) => (body :: bodies, last)
    else none

/-- The literal made of the parts of a formatted text. -/
def join (parts : List (List Char × Bool)) : List Char :=
  match fit all parts with
  | some (bodies, q :: _) => q ++ bodies.flatten ++ q
  | some (bodies, []) => bodies.flatten
  | none =>
    let quote := "'''".toList
    let bodies := parts.map fun (part, _) => ((Text.quoted ('"' :: part)).drop 2).dropLast
    quote ++ bodies.flatten ++ quote

end Docsmith.Source.Quote
