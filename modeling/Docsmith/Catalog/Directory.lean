-- SUMMARY: Scanning a whole project.
import Docsmith.Catalog.Scan
import Docsmith.Page.Scan
import Docsmith.Project.Discovery

/-!
# Scanning a project

All source files and pages below a root are scanned. Modules are sorted by their
paths, pages by their place and title.
-/

namespace Docsmith

/-- What a project documents. -/
structure Catalog where
  modules : List ModuleDoc
  pages : List PageDoc

/-- How a project is scanned: what is left out, the kinds of documentation that it defines,
    and how pages are shown. -/
structure ScanOptions where
  excludes : List String := []
  kinds : List CustomKind := []
  render : String → String := Page.preformatted

/-- The first page comes before the second or at the same place. -/
def PageDoc.before (p q : PageDoc) : Bool :=
  p.order < q.order || (p.order == q.order && !decide (q.title < p.title))

/-- Scan the project below a root. -/
def scanDirectory (options : ScanOptions) (disk : FileTree) (root : Path) : Answer Catalog := do
  let sources := findFiles .sources options.excludes disk root
  let modules ← sources.mapM fun f => scanModule options.kinds f.path root f.bytes
  let pages := (findFiles .pages options.excludes disk root).map fun f =>
    Page.scan options.render f.path root f.bytes
  return {
    modules := modules.mergeSort fun m n => !decide (n.fullPath < m.fullPath)
    pages := pages.mergeSort PageDoc.before }

end Docsmith
