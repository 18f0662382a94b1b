-- SUMMARY: Documentation inside another site.
import Docsmith.Site.App.Run

/-!
# Documentation inside another site

The keys of all items and panels start with the key of the documentation in the
other site.
-/

namespace Docsmith.Site.Plugin

/-- The side bar. -/
def sidebar (start : String) (s : Selection) : Drawing := do
  let modules ← moduleGroup (start ++ "_mod_") s.modules
  let pages ← pageGroup (start ++ "_page_") s.pages
  return modules ++ countedItem s.classes "Types" (start ++ "_types") "box"
    ++ countedItem s.endpoints "API Reference" (start ++ "_api") "code" ++ pages

/-- The panel of a module. -/
def modulePanel (start : String) (m : Value) : Drawing := do
  let key ← keyOf (start ++ "_mod_") m "full_path"
  let label ← moduleLabel m
  let documentation ← m.getD "docstring" .none
  let functions ← each (← m.itemsOf "functions") (functionBlock .embedded .none)
  return panel key ([heading 2 label]
    ++ (if documentation.isTrue then [spacer 2, textOf documentation []] else []) ++ functions)

/-- The card of a class. -/
def typeCard (c : Value) : Drawing := do
  let place := anchor (← keyOf "type_" c "full_path")
  let head := code (.str ("class " ++ (← c.field "name").text)) "python"
  let documentation ← docstring .embedded (← c.field "docstring")
  let methods ← each (← c.itemsOf "methods") (functionBlock .embedded .none)
  return place :: (plainCard ([head, spacer 2] ++ documentation ++ methods) ++ [spacer 3])

/-- The panel of the types, if there are any. -/
def typesPanel (start : String) (s : Selection) : Drawing :=
  given (!s.classes.isEmpty) do
    return panel (.str (start ++ "_types")) ([heading 2 (.str "Types Reference"),
      muted (.str (toString s.classes.length ++ " classes.")), spacer 4]
      ++ (← each s.classes typeCard))

/-- The panel of the endpoints, if there are any. -/
def endpointsPanel (start : String) (s : Selection) : Drawing :=
  given (!s.endpoints.isEmpty) do
    return panel (.str (start ++ "_api")) ([heading 2 (.str "API Reference"),
      muted (.str (toString s.endpoints.length ++ " endpoints.")), spacer 4]
      ++ (← each s.endpoints (endpointCard .embedded)))

/-- The panels. -/
def panels (start : String) (s : Selection) : Drawing := do
  let modules ← each s.modules (modulePanel start)
  let types ← typesPanel start s
  let endpoints ← endpointsPanel start s
  let pages ← each (← s.pages.items) (pagePanel (start ++ "_page_"))
  return modules ++ types ++ endpoints ++ pages

/-- The side bar, then the panels. -/
def draw (start : String) (s : Selection) : Drawing := do
  let side ← sidebar start s
  return side ++ (← panels start s)

/-- Register with the other site and wait for it to be ready. When it is, the documentation is
    announced, and drawn into the side bar if asked for. -/
def plug (start : String) (inject : Bool) (s : Selection) : Drawing := do
  let slot := if inject then [single "plugin.inject" [.str "sidebar"] []] else []
  let ready ← announce s
  let side ← given inject (sidebar start s)
  return [register "Documentation plugin", awaitReady] ++ slot ++ ready ++ side

end Docsmith.Site.Plugin
