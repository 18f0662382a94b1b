-- SUMMARY: The side bar of a documentation site.
import Docsmith.Site.Selection
import Docsmith.Site.Widget

/-!
# The side bar

One item for every panel of the site. The insights are part of the full edition.
-/

namespace Docsmith.Site

/-- The label of a module: its name, or the path of a package. -/
def moduleLabel (m : Value) : Answer Value := do
  let name ← m.field "name"
  if name.same (.str "__init__") then m.field "full_path" else return name

/-- A key made of a word and the value under a text. -/
def keyOf (start : String) (item : Value) (field : String) : Answer Value := do
  return .str (start ++ (← item.field field).text)

/-- The number of items under a text. -/
def sizeOf (item : Value) (key : String) : Answer Nat := do (← item.getD key (.list [])).size

/-- The item of a module. -/
def moduleItem (start : String) (m : Value) : Drawing := do
  let label ← moduleLabel m
  let size := (← sizeOf m "classes") + (← sizeOf m "functions")
  return [navItem label (← keyOf start m "full_path") "file" [("badge", count size)]]

/-- The item of a page. -/
def pageItem (start : String) (p : Value) : Drawing := do
  let title ← p.field "title"
  return [navItem title (← keyOf start p "slug") "book" []]

/-- The group of the modules, if there are any. -/
def moduleGroup (start : String) (modules : List Value) : Drawing :=
  given (!modules.isEmpty) do return navGroup "Modules" "folder" (← each modules (moduleItem start))

/-- The group of the pages, if there are any. -/
def pageGroup (start : String) (pages : Value) : Drawing :=
  given pages.isTrue do return navGroup "Pages" "book" (← each (← pages.items) (pageItem start))

/-- An item with a count, if the value under a text counts as true. -/
def insightItem (data : Value) (field label key icon : String) : Drawing := do
  let v ← data.getD field (.list [])
  given v.isTrue do
    return [navItem (.str label) (.str key) icon [("badge", count (← v.size))]]

/-- The group of the insights. -/
def insightGroup (data : Value) : Drawing := do
  let todos ← insightItem data "todos" "TODOs" "todos_panel" "alert-circle"
  let changes ← insightItem data "changes" "Changelog" "changelog_panel" "clock"
  let dead ← insightItem data "dead_code" "Dead Code" "dead_code_panel" "trash"
  return navGroup "Insights" "bar-chart"
    (navItem (.str "Dashboard") (.str "dashboard") "bar-chart" [] :: (todos ++ changes ++ dead))

/-- An item with a count, if there is something to count. -/
def countedItem (items : List Value) (label key icon : String) : List Event :=
  if items.isEmpty then []
  else [navItem (.str label) (.str key) icon [("badge", count items.length)]]

/-- The side bar. -/
def sidebar (edition : Edition) (s : Selection) (data : Value) : Drawing := do
  let modules ← moduleGroup "mod_" s.modules
  let insights ← given (edition == .full) (insightGroup data)
  let pages ← pageGroup "page_" s.pages
  return inside (call "nav_sidebar" [] [])
    (navItem (.str "Home") (.str "home") "home" [] :: (modules
      ++ countedItem s.classes "Types" "types_ref" "box"
      ++ countedItem s.endpoints "API Reference" "api_ref" "code"
      ++ [navItem (.str "Call Map") (.str "callmap") "code" []] ++ insights ++ pages))

end Docsmith.Site
