-- SUMMARY: The panel of the calls.
import Docsmith.Site.App.Reference

/-!
# The call map panel

For every function, endpoint and method, the calls of names that the site knows
and those of other names.
-/

namespace Docsmith.Site

/-- The calls of a caller. -/
structure CallEntry where
  caller : Value
  known : List Value
  others : List Value

/-- The path of a method that is shown. -/
def shownMethodPath (cls m : Value) : Answer Value := do
  let path ← cls.field "full_path"
  return .str (path.text ++ "." ++ (← m.field "name").text)

/-- The names that a function is known by. -/
def functionNames (f : Value) : Answer (List Value) := do
  let path ← (← f.field "full_path").asKey
  return [path, ← (← f.field "name").asKey]

/-- The names that a class and its methods are known by. -/
def classNames (c : Value) : Answer (List Value) := do
  let path ← (← c.field "full_path").asKey
  let methods ← (← c.itemsOf "methods").mapM fun m => do
    let full ← shownMethodPath c m
    return [full, ← (← m.field "name").asKey]
  return path :: methods.flatten

/-- The last part of a dotted name. -/
def lastPart (s : String) : String :=
  String.ofList (s.toList.reverse.takeWhile (· != '.')).reverse

/-- A callee is known, by its whole name or by the last part of it. -/
def isKnownCallee (names : List Value) (callee : Value) : Answer Bool := do
  let key ← callee.asKey
  if names.any (·.same key) then return true
  let last := Value.str (lastPart (← callee.asText))
  return names.any (·.same last)

/-- The entry of a caller, if it calls anything. -/
def callEntry (names : List Value) (item : Value) (caller : Answer Value) :
    Answer (List CallEntry) := do
  let calls ← item.getD "calls" (.list [])
  if !calls.isTrue then return []
  let calls ← calls.items
  let known ← keep (isKnownCallee names) calls
  let others := calls.filter fun c => !known.any (·.same c)
  return [⟨← caller, known, others⟩]

/-- The entry of a method, if it calls anything. -/
def methodEntry (names : List Value) (c m : Value) : Answer (List CallEntry) := do
  let calls ← m.getD "calls" (.list [])
  if !calls.isTrue then return []
  let caller ← shownMethodPath c m
  callEntry names m (pure caller)

/-- The entries of all callers. -/
def callEntries (s : Selection) : Answer (List CallEntry) := do
  let routines := s.functions ++ s.endpoints
  let names := (← routines.mapM functionNames).flatten ++ (← s.classes.mapM classNames).flatten
  let ofRoutines ← routines.mapM fun f => callEntry names f (f.field "full_path")
  let ofMethods ← s.classes.mapM fun c => do
    return (← (← c.itemsOf "methods").mapM (methodEntry names c)).flatten
  return ofRoutines.flatten ++ ofMethods.flatten

/-- The row of a caller. -/
def callRow (e : CallEntry) : Answer Value := do
  let known ← if e.known.isEmpty then pure "—"
    else do pure (", ".intercalate (← e.known.mapM Value.needText))
  return .object [("Caller", e.caller), ("Internal Calls", .str known),
    ("External Calls", count e.others.length)]

/-- The largest number of other callees that a card lists. -/
def maxListed : Nat := 15

/-- The other callees of a card. -/
def otherCalls (others : List Value) : List Event :=
  if others.isEmpty then []
  else
    let more := if maxListed < others.length then
      [fine (.str ("... and " ++ toString (others.length - maxListed) ++ " more"))] else []
    [spacer 2, heading 4 (.str "Calls (external)")]
      ++ row 2 ((others.take maxListed).map (badge · (.str "default")) ++ more)

/-- The card of a caller that calls something known. -/
def callCard (e : CallEntry) : List Event :=
  if e.known.isEmpty then []
  else card e.caller ([heading 4 (.str "Calls (internal)")]
    ++ row 2 (e.known.map (badge · (.str "info"))) ++ otherCalls e.others)

/-- The panel of the calls. -/
def callMapPanel (s : Selection) : Drawing := do
  let entries ← callEntries s
  let content ← if entries.isEmpty then pure [muted (.str "No call relationships found.")]
    else do
      let rows ← entries.mapM callRow
      pure ([searchTable 20 rows, spacer 4, heading 3 (.str "Details"), spacer 2]
        ++ entries.flatMap callCard)
  return panel (.str "callmap") ([heading 2 (.str "Call Map"),
    muted (.str "Function and method call relationships across the codebase."), spacer 3] ++ content)

end Docsmith.Site
