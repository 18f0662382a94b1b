-- SUMMARY: The panels about the state of a project.
import Docsmith.Site.App.CallMap
import Docsmith.Text.Letter

/-!
# Insight panels

The dashboard, and the panels of open work, of changes and of dead code.
-/

namespace Docsmith.Site

/-! ## Dashboard -/

/-- The figures about documentation coverage. -/
def coverageFigures (coverage : Value) : Drawing := do
  let score ← coverage.getD "project_score" (.int 0)
  if !(← atLeast 80 score) then let _ ← atLeast 50 score
  let complete ← coverage.getD "fully_documented" (.int 0)
  let empty ← coverage.getD "undocumented" (.int 0)
  let total ← coverage.getD "total_items" (.int 0)
  return row 4 [metric (.str "Doc Coverage") (.str (score.text ++ "%")),
    metric (.str "Fully Documented") complete, metric (.str "Undocumented") empty,
    metric (.str "Total Items") total]

/-- A method with its path. -/
def pathedMethod (c m : Value) : Answer Value := do
  let es ← match m with
    | .dict es => pure es
    | _ => throw .wrongKind
  return .dict (Entries.putText es "full_path" (← shownMethodPath c m))

/-- All functions, endpoints and methods that are shown. -/
def allRoutines (s : Selection) : Answer (List Value) := do
  let methods ← s.classes.mapM fun c => do (← c.itemsOf "methods").mapM (pathedMethod c)
  return s.functions ++ s.endpoints ++ methods.flatten

/-- The value under a path, or else the name. -/
def pathOrName (f : Value) : Answer Value := do
  let name ← f.field "name"
  f.getD "full_path" name

/-- The row of a deprecated function. -/
def deprecatedRow (f : Value) : Answer Value := do
  let name ← pathOrName f
  return .object [("Name", name), ("Since", ← f.getD "deprecation_since" (.str "")),
    ("Message", ← f.getD "deprecation_message" (.str "")),
    ("Type", ← f.getD "doc_type" (.str "function"))]

/-- The number of notes with a tag. -/
def tagged (tag : String) (notes : List Value) : Answer Nat := do
  return (← keep (fun t => do return (← t.getD "tag" .none).same (.str tag)) notes).length

/-- The figures about open work and debt. -/
def debtFigures (data : Value) (deprecated : List Value) : Drawing := do
  let notes ← data.getD "todos" (.list [])
  let dead ← data.getD "dead_code" (.list [])
  let todo ← tagged "TODO" (← notes.items)
  let fixme ← tagged "FIXME" (← notes.items)
  return row 4 [metric (.str "TODOs") (.int todo), metric (.str "FIXMEs") (.int fixme),
    metric (.str "Deprecated") (.int deprecated.length),
    metric (.str "Dead Code") (.int (← dead.size))]

/-- The label of a kind of change. -/
def changeLabel (change : Value) : Answer Value := do
  let cs := (← change.asText).toList
  return .str (String.ofList (Text.title (Text.replace ['+'] [' ', '+', ' '] cs)))

/-- The figures about changes. -/
def changeFigures (changes : List Value) : Drawing := do
  return row 4 (← tallied changeLabel (← changes.mapM fun c => do (← c.field "change").asKey))

/-- The row of a change, with further cells. -/
def changeRow (more : Value → Answer (List (String × Value))) (c : Value) : Answer Value := do
  let name ← c.field "name"
  let kind ← c.field "doc_type"
  let change ← c.field "change"
  return .object ([("Name", name), ("Type", kind), ("Change", change)] ++ (← more c))

/-- The largest number of rows of a table on the dashboard. -/
def maxRows : Nat := 15

/-- The latest changes. -/
def recentChanges (data : Value) : Drawing := do
  let changes ← data.getD "changes" (.list [])
  given changes.isTrue do
    let changes ← changes.items
    let figures ← changeFigures changes
    let rows ← (changes.take maxRows).mapM (changeRow fun _ => pure [])
    return [spacer 4, heading 3 (.str "Recent Changes"), spacer 2] ++ figures
      ++ [spacer 2, wholeTable rows]

/-- The warning about breaking changes. -/
def breakingAlert (data : Value) : Drawing := do
  let breaking ← data.getD "breaking_changes" (.list [])
  given breaking.isTrue do
    let text := toString (← breaking.size)
      ++ " breaking change(s) detected. See Changelog for details."
    return [spacer 2, single "alert" [.str text] [("type", .str "danger")]]

/-- The complexity of a function. -/
def complexityOf (f : Value) : Answer Value := f.getD "complexity" (.int 1)

/-- The row of a complex function. -/
def complexityRow (f : Value) : Answer Value := do
  let complexity ← complexityOf f
  let name ← pathOrName f
  let level ← if ← atLeast 15 complexity then pure "High"
    else if ← atLeast 8 complexity then pure "Medium" else pure "Low"
  return .object [("Function", name), ("Complexity", complexity), ("Level", .str level)]

/-- The most complex functions. -/
def hotspots (routines : List Value) : Drawing := do
  let complex ← keep (fun f => do atLeast 6 (← complexityOf f)) routines
  let keyed ← complex.mapM fun f => do return (← complexityOf f, f)
  let sorted := (← Value.sortedBy (·.1) keyed.reverse).reverse.map (·.2)
  let content ← if sorted.isEmpty then pure (muted (.str "No high-complexity functions found."))
    else do pure (wholeTable (← (sorted.take maxRows).mapM complexityRow))
  return [spacer 4, heading 3 (.str "Complexity Hotspots"), spacer 2, content]

/-- The row of an item that is not fully documented. -/
def coverageRow (i : Value) : Answer Value := do
  let checks ← i.getD "checks" (.dict [])
  let missing ← checks.getD "args_missing" (.list [])
  let name ← i.field "name"
  let kind ← i.field "doc_type"
  let score ← i.field "score"
  let missing ← if missing.isTrue then
    do pure (", ".intercalate (← (← missing.items).mapM Value.needText)) else pure ""
  return .object [("Name", name), ("Type", kind), ("Score", .str (score.text ++ "%")),
    ("Missing Args", .str missing)]

/-- The items that are least documented. -/
def coverageDetails (coverage : Value) : Drawing := do
  let items ← coverage.getD "items" (.list [])
  let content ← given items.isTrue do
    let low ← keep (fun i => do return !(← atLeast 100 (← i.field "score"))) (← items.items)
    let keyed ← low.mapM fun i => do return (← i.field "score", i)
    let low := (← Value.sortedBy (·.1) keyed).map (·.2)
    if low.isEmpty then
      return [textOf (.str "All items are fully documented!") [("color", .str "success")]]
    else return [wholeTable (← (low.take 20).mapM coverageRow)]
  return [spacer 4, heading 3 (.str "Coverage Details"), spacer 2] ++ content

/-- The dashboard. -/
def dashboardPanel (data : Value) (s : Selection) : Drawing := do
  let coverage ← data.getD "coverage" (.dict [])
  let figures ← coverageFigures coverage
  let routines ← allRoutines s
  let deprecated ← keep (fun f => do return (← f.getD "is_deprecated" .none).isTrue) routines
  let debt ← debtFigures data deprecated
  let deprecatedTable ← given (!deprecated.isEmpty) do
    return [spacer 4, heading 3 (.str "Deprecated Functions"), spacer 2,
      wholeTable (← deprecated.mapM deprecatedRow)]
  let changes ← recentChanges data
  let breaking ← breakingAlert data
  let complex ← hotspots routines
  let details ← coverageDetails coverage
  return panel (.str "dashboard") ([heading 2 (.str "Dashboard"),
    muted (.str "Project health and code insights."), spacer 4] ++ figures
    ++ [spacer 4, heading 3 (.str "TODOs & Debt"), spacer 2] ++ debt ++ deprecatedTable ++ changes
    ++ breaking ++ complex ++ details)

/-! ## Open work -/

/-- The row of a note about open work. -/
def noteRow (t : Value) : Answer Value := do
  let tag ← t.field "tag"
  let text ← t.field "text"
  return .object [("Tag", tag), ("Message", text), ("Module", ← t.getD "module" (.str "")),
    ("Line", ← t.getD "line_number" (.str ""))]

/-- The panel of open work, if there is any. -/
def openWorkPanel (data : Value) : Drawing := do
  let notes ← data.getD "todos" (.list [])
  given notes.isTrue do
    let notes ← notes.items
    let tags ← tallied pure (← notes.mapM fun t => do (← t.field "tag").asKey)
    return panel (.str "todos_panel") ([heading 2 (.str "TODOs"),
      muted (.str "TODO, FIXME, HACK, and XXX comments found in source code."), spacer 4]
      ++ row 4 tags ++ [spacer 3, searchTable 25 (← notes.mapM noteRow)])

/-! ## Changes -/

/-- The line about one difference between two signatures. -/
def differenceLine (d : Value) : Drawing := do
  let icon := if (← d.getD "breaking" .none).isTrue then "!!" else ""
  let kind ← d.field "type"
  let line (text color : String) : List Event := [textOf (.str text) [("color", .str color)]]
  let shown (key : String) : Answer String := do return (← d.field key).text
  if kind.same (.str "arg_removed") then
    return line (icon ++ " Argument removed: " ++ (← shown "arg")) "danger"
  else if kind.same (.str "required_arg_added") then
    return line (icon ++ " Required argument added: " ++ (← shown "arg")) "danger"
  else if kind.same (.str "type_changed") then
    return line (icon ++ " Type changed: " ++ (← shown "arg") ++ " (" ++ (← shown "from") ++ " -> "
      ++ (← shown "to") ++ ")") "warning"
  else if kind.same (.str "return_type_changed") then
    return line (icon ++ " Return type changed: " ++ (← shown "from") ++ " -> " ++ (← shown "to"))
      "warning"
  else if kind.same (.str "optional_arg_added") then
    return line ("Optional argument added: " ++ (← shown "arg")) "success"
  else return []

/-- The card of a breaking change. -/
def breakingCard (b : Value) : Drawing := do
  let path ← b.field "full_path"
  return card path (← each (← b.itemsOf "details") differenceLine)

/-- The breaking changes. -/
def breakingParts (data : Value) : Drawing := do
  let breaking ← data.getD "breaking_changes" (.list [])
  given breaking.isTrue do
    return [heading 3 (.str "Breaking Changes"), spacer 2]
      ++ (← each (← breaking.items) breakingCard) ++ [spacer 3]

/-- The panel of changes, if there are any. -/
def changesPanel (data : Value) : Drawing := do
  let changes ← data.getD "changes" (.list [])
  given changes.isTrue do
    let changes ← changes.items
    let figures ← changeFigures changes
    let breaking ← breakingParts data
    let rows ← changes.mapM (changeRow fun c => do return [("Path", ← c.field "full_path")])
    return panel (.str "changelog_panel") ([heading 2 (.str "Recent Changes"),
      muted (.str "Functions and endpoints that changed since the last build."), spacer 4]
      ++ figures ++ [spacer 3] ++ breaking
      ++ [heading 3 (.str "All Changes"), spacer 2, searchTable 25 rows])

/-! ## Dead code -/

/-- The row of an unused item. -/
def deadRow (d : Value) : Answer Value := do
  let path ← d.field "full_path"
  let kind ← d.field "doc_type"
  return .object [("Function", path), ("Type", kind), ("Module", ← d.getD "module" (.str ""))]

/-- The panel of dead code, if there is any. -/
def deadCodePanel (data : Value) : Drawing := do
  let dead ← data.getD "dead_code" (.list [])
  given dead.isTrue do
    let size ← dead.size
    let rows ← (← dead.items).mapM deadRow
    return panel (.str "dead_code_panel") [heading 2 (.str "Dead Code"),
      muted (.str "Public functions and methods with no internal callers."), spacer 4,
      metric (.str "Potentially Unused") (.int size), spacer 3, searchTable 25 rows, spacer 2,
      fine (.str ("Note: Entry points, decorated functions, and private methods are excluded. "
        ++ "These may still be used externally."))]

end Docsmith.Site
