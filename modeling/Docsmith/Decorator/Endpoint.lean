-- SUMMARY: Decorators that make a function an endpoint.
import Docsmith.Source.Naming
import Docsmith.Text.Letter
import Docsmith.Text.Lines
import Docsmith.Text.Word

/-!
# Endpoints

A decorator marks an endpoint when its name is a known word, alone or after one
name and a point: `route`, `endpoint`, or a request method. The bare word
`api_view` marks one as well. A line feed after the name does not matter.
-/

namespace Docsmith.Decorator

/-- The request methods that a decorator can name. -/
def methods : List String :=
  ["get", "post", "put", "delete", "patch", "options", "head", "trace"]

/-- Words that mark an endpoint, alone or after a name and a point. -/
def routeWords : List String := "route" :: "endpoint" :: methods

/-- What follows the first point, when a nonempty word stands before it. -/
def afterName? (cs : List Char) : Option (List Char) :=
  match cs.takeWhile Text.isWord, cs.dropWhile Text.isWord with
  | _ :: _, '.' :: r => some r
  | _, _ => none

/-- The name without one line feed at its end. -/
def chop (cs : List Char) : List Char :=
  if cs.getLast? == some '\n' then cs.dropLast else cs

/-- The decorator name marks an endpoint. -/
def marksEndpoint (name : String) : Bool :=
  let cs := name.toList
  let isWord (cs : List Char) : Bool := routeWords.any fun w => chop cs == w.toList || cs == w.toList
  isWord cs || (afterName? cs).any isWord || chop cs == "api_view".toList

/-- What follows the last point, in lower case. -/
def lastPart (name : String) : String :=
  let parts := Text.splitAtChar '.' name.toList
  String.ofList (Text.lower (parts.getLast?.getD []))

/-- The request method that the first of the decorator names with one gives. -/
def requestMethod (names : List String) : String :=
  match names.find? fun n => methods.contains (lastPart n) with
  | some n => String.ofList (Text.upper (lastPart n).toList)
  | none => ""

/-- The route that a decorator gives: its first argument, if that is a text. -/
def route : Source.Expr → String
  | .call _ (.constant (.str s _) :: _) _ => s
  | _ => ""

/-- An endpoint as its decorators describe it. -/
structure Endpoint where
  method : String
  path : String

/-- Look for the first decorator that marks an endpoint; `before` are the names of the
    decorators before, newest first. -/
def endpointFrom? (before : List String) : List Source.Expr → Except Source.PrintFault (Option Endpoint)
  | [] => .ok none
  | d :: ds => do
    let name ← d.decoratorName
    let names := name :: before
    if marksEndpoint name then return some ⟨requestMethod names.reverse, route d⟩
    else endpointFrom? names ds

/-- The endpoint that a function is, if one of its decorators says so. -/
def endpoint? (f : Source.FunctionDef) : Except Source.PrintFault (Option Endpoint) :=
  endpointFrom? [] f.decorators

end Docsmith.Decorator
