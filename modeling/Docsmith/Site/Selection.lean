-- SUMMARY: What of the documentation data a site shows.
import Docsmith.Text.Strip
import Docsmith.Value.Access

/-!
# Selection

A site shows modules, classes, functions and endpoints that are documented. A
hidden function, endpoint or method is left out, except by the basic edition.
-/

namespace Docsmith.Site

/-- Where documentation is shown: inside another site, or in a site of its own with the basic
    or the full set of panels. -/
inductive Edition where
  | embedded
  | basic
  | full
deriving Repr, DecidableEq

/-- What a site shows. -/
structure Selection where
  modules : List Value
  classes : List Value
  functions : List Value
  endpoints : List Value
  pages : Value

/-- The text has more than blanks. -/
def hasWords (s : String) : Bool := !(Text.strip s.toList).isEmpty

/-- A documentation value says something. -/
def saysSomething (edition : Edition) : Value → Bool
  | .dict es => ((Entries.getText? es "summary").getD .none).isTrue
      || ((Entries.getText? es "description").getD .none).isTrue
  | .str s => hasWords s
  | v => edition == .embedded && v.isTrue && hasWords v.text

/-- The item is documented. -/
def isDocumented (edition : Edition) (item : Value) : Answer Bool := do
  return saysSomething edition (← item.getD "docstring" .none)

/-- Some item of a list is documented; later items are not looked at. -/
def anyDocumented (edition : Edition) : List Value → Answer Bool
  | [] => .ok false
  | x :: xs => do
    if ← isDocumented edition x then return true else anyDocumented edition xs

/-- The items for which a test holds. -/
def keep (test : Value → Answer Bool) : List Value → Answer (List Value)
  | [] => .ok []
  | x :: xs => do
    let wanted ← test x
    let rest ← keep test xs
    return if wanted then x :: rest else rest

/-- The item is hidden. -/
def isHidden (item : Value) : Answer Bool := do return (← item.getD "hidden" .none).isTrue

/-- The item is documented and, unless hidden items are shown, not hidden. -/
def isShown (edition : Edition) (item : Value) : Answer Bool := do
  if ← isDocumented edition item then
    if edition == .basic then return true else return !(← isHidden item)
  else return false

/-- The method is documented or is the constructor. -/
def isListedMethod (edition : Edition) (m : Value) : Answer Bool := do
  if ← isDocumented edition m then return true
  else return (← m.field "name").same (.str "__init__")

/-- The method is listed and, unless hidden items are shown, not hidden. -/
def isShownMethod (edition : Edition) (m : Value) : Answer Bool := do
  if ← isListedMethod edition m then
    if edition == .basic then return true else return !(← isHidden m)
  else return false

/-- The dictionary with a value put under a text. -/
def withEntry (v : Value) (key : String) (new : Value) : Answer Value :=
  match v with
  | .dict es => .ok (.dict (Entries.putText es key new))
  | _ => .error .wrongKind

/-- The class with those methods for which a test holds. -/
def withMethods (test : Value → Answer Bool) (cls : Value) : Answer Value := do
  withEntry cls "methods" (.list (← keep test (← cls.itemsOf "methods")))

/-- The module has documentation of its own or something documented in it. -/
def hasContent (edition : Edition) (m : Value) : Answer Bool := do
  if (← m.getD "docstring" .none).isTrue then return true
  if ← anyDocumented edition (← m.itemsOf "classes") then return true
  anyDocumented edition (← m.itemsOf "functions")

/-- The module with only what is documented in it. -/
def withContent (edition : Edition) (m : Value) : Answer Value := do
  let classes ← keep (isDocumented edition) (← m.itemsOf "classes")
  let functions ← keep (isDocumented edition) (← m.itemsOf "functions")
  let classes ← classes.mapM (withMethods (isListedMethod edition))
  withEntry (← withEntry m "classes" (.list classes)) "functions" (.list functions)

/-- What a site of its own shows. -/
def Selection.ofData (edition : Edition) (data : Value) : Answer Selection := do
  let pages ← data.field "pages"
  let _ ← data.field "config"
  let modules ← keep (hasContent edition) (← (← data.field "modules").items)
  let classes ← keep (isDocumented edition) (← (← data.field "classes").items)
  let functions ← keep (isShown edition) (← (← data.field "functions").items)
  let endpoints ← keep (isShown edition) (← data.itemsOf "api_endpoints")
  let classes ← classes.mapM (withMethods (isShownMethod edition))
  return ⟨← modules.mapM (withContent edition), classes, functions, endpoints, pages⟩

/-- What documentation inside another site shows. -/
def Selection.embedded (data : Value) : Answer Selection := do
  let pages ← data.getD "pages" (.list [])
  let modules ← keep (hasContent .embedded) (← data.itemsOf "modules")
  let classes ← keep (isDocumented .embedded) (← data.itemsOf "classes")
  let functions ← keep (isShown .embedded) (← data.itemsOf "functions")
  let endpoints ← keep (isShown .embedded) (← data.itemsOf "api_endpoints")
  return ⟨modules, ← classes.mapM (withMethods (isShownMethod .embedded)), functions, endpoints,
    pages⟩

end Docsmith.Site
