-- SUMMARY: The documentation data of a project.
import Docsmith.Catalog.Data
import Docsmith.Catalog.Directory
import Docsmith.Report.DeadCode
import Docsmith.Settings.Basic

/-!
# Documentation data

The catalog of a project, its settings and the reports about it, as one piece of
data. Endpoints stand apart from other functions. The settings can put pages in
front of others.
-/

namespace Docsmith.Build

/-- The last position of a value in a list. -/
def lastPosition? (v : Value) (vs : List Value) : Option Nat :=
  (vs.reverse.findIdx? (·.same v)).map fun i => vs.length - 1 - i

/-- The place that an order of slugs gives to a page. -/
def pageRank (order : List Value) (p : PageDoc) : Nat :=
  (lastPosition? (.str p.slug) order).getD order.length

/-- The first page comes before the second in an order of slugs, or at the same place. -/
def pageBefore (order : List Value) (p q : PageDoc) : Bool :=
  pageRank order p < pageRank order q || (pageRank order p == pageRank order q && p.before q)

/-- The pages in the order that the settings give. -/
def orderedPages (settings : Settings) (pages : List PageDoc) : Answer (List PageDoc) := do
  let order := settings.getD "page_order" (.list [])
  if order.isTrue then
    let slugs ← (← order.items).mapM Value.asKey
    return pages.mergeSort (pageBefore slugs)
  else return pages

/-- All functions of a catalog. -/
def functionsOf (catalog : Catalog) : List FunctionDoc := catalog.modules.flatMap (·.functions)

/-- The data of a project without its reports. -/
def catalogData (catalog : Catalog) (settings : Settings) : Answer Entries := do
  let pages ← orderedPages settings catalog.pages
  let functions := functionsOf catalog
  return [
    (.str "modules", .list (catalog.modules.map ModuleDoc.data)),
    (.str "classes", .list ((catalog.modules.flatMap (·.classes)).map ClassDoc.data)),
    (.str "functions", .list ((functions.filter (·.kind != Kind.api)).map FunctionDoc.data)),
    (.str "api_endpoints", .list ((functions.filter (·.kind == Kind.api)).map FunctionDoc.data)),
    (.str "pages", .list (pages.map PageDoc.data)),
    (.str "config", settings.data)]

/-- The documentation data of a project. -/
def documentation (catalog : Catalog) (settings : Settings) : Answer Entries := do
  let data ← catalogData catalog settings
  let data := data.putText "coverage" (← Report.coverage (.dict data))
  let data := data.putText "called_by" (Report.calledByData (← Report.calledBy (.dict data)))
  let data := data.putText "todos" (.list (← Report.openWork (.dict data)))
  return data.putText "dead_code" (.list (← Report.deadCode (.dict data)))

/-- Scan a project and put its documentation data together. -/
def document (settings : Settings) (render : String → String) (disk : FileTree) (root : Path) :
    Answer Entries := do
  let kinds ← settings.scanKinds
  let excludes ← settings.excludes
  let catalog ← scanDirectory { excludes := excludes, kinds := kinds, render := render } disk root
  documentation catalog settings

end Docsmith.Build
