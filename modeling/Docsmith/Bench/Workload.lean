-- SUMMARY: Workloads of a chosen size for measuring the generator.
import Docsmith.Docstring.Overlay
import Docsmith.Docstring.Parse
import Docsmith.Package
import Docsmith.Report.Changes
import Docsmith.Settings.Basic

/-!
# Workloads

Each workload makes input of a chosen size, gives it to a part of the generator,
and returns a result that depends on the size.
-/

namespace Docsmith.Bench

/-- A workload: its name, the name of its size, and its result for a size. -/
structure Workload where
  name : String
  size : String
  run : Nat → Answer Value

/-! ## Docstrings -/

/-- Metadata for every other docstring. -/
def metadata (i : Nat) : Entries :=
  if i % 2 == 0 then
    let item (k : Nat) : Value × Value := (.str ("arg" ++ toString k), .str "An argument.")
    [(.str "args", .dict ((List.range 6).map item))]
  else []

/-- Lay metadata over docstrings, and count the arguments that it brings. -/
def applyMetadata (n : Nat) : Answer Value := do
  let sizes ← (List.range n).mapM fun i => do
    return ((← (Docstring.parse [] none "Summary.").overlay (metadata i)).args.length)
  return .int (Int.ofNat (sizes.foldl (· + ·) 0))

/-! ## Comparisons -/

/-- An item of a build with its two hashes. -/
def hashed (name signature body : String) : List (String × Value) := [
  ("name", .str name), ("full_path", .str ("m." ++ name)), ("signature_hash", .str signature),
  ("body_hash", .str body)]

/-- A build of a size: before or after some items changed. Every third function changes its body
    and every fifth its signature, every other class its body, all methods theirs, and all
    endpoints their signature. -/
def buildOfSize (n : Nat) (after : Bool) : Value :=
  let mark (changes : Bool) : String := if after && changes then "new" else "old"
  let function (i : Nat) : Value :=
    .object (hashed ("f" ++ toString i) (mark (i % 5 == 0)) (mark (i % 3 == 0)))
  let method (i : Nat) : Value := .object (hashed ("m" ++ toString i) "old" (mark true))
  let cls (i : Nat) : Value := .object (hashed ("C" ++ toString i) "old" (mark (i % 2 == 0))
    ++ [("methods", .list ((List.range 3).map method))])
  let endpoint (i : Nat) : Value := .object (hashed ("e" ++ toString i) (mark true) "old")
  let extra : Value := .object (hashed (if after then "new" else "gone") "old" "old")
  .object [
    ("functions", .list ((List.range n).map function ++ [extra])),
    ("api_endpoints", .list ((List.range (n / 4)).map endpoint)),
    ("classes", .list ((List.range (n / 5)).map cls))]

/-- Compare two builds. -/
def compareBuilds (n : Nat) : Answer Value := do
  return .list ((← Report.changes (buildOfSize n false) (buildOfSize n true)).map Report.Change.data)

/-! ## Settings and names -/

/-- A settings file with so many kinds of documentation and patterns. -/
def settingsFile (n : Nat) : Value :=
  let kind (i : Nat) : Value × Value := (.str ("kind" ++ toString i), .object [
    ("label", .str ("Kind " ++ toString i)),
    ("sections", .list [.object [("name", .str "Steps"), ("format", .str "list")]])])
  .object [
    ("docs", .object [
      ("exclude_patterns", .texts ((List.range n).map fun i => "skip" ++ toString i)),
      ("doc_types", .dict ((List.range n).map kind))])]

/-- Load a settings file: the numbers of kinds, of their sections, of patterns, and of their
    definitions. -/
def loadSettings (n : Nat) : Answer Value := do
  let s ← Settings.load (← (settingsFile n).field "docs")
  let kinds := s.kinds.getD []
  return .tuple [.int kinds.length, .int (kinds.flatMap (·.sections)).length,
    .int (← (s.getD "exclude_patterns" (.list [])).size),
    .int (← (s.getD "doc_types_raw" (.dict [])).size)]

/-- Names to look up in the package; the last one is unknown. -/
def lookups : List String :=
  ["doc", "plug", "build_docs", "Scanner", "scan_directory", "DocstringParser", "load_config",
   "create_default_config", "DocType", "ModuleDoc", "missing"]

/-- Look names up, going round: how many were not found, and how many there were. -/
def lookUpNames (n : Nat) : Answer Value :=
  let found (i : Nat) : Bool :=
    (Package.find (lookups.getD (i % lookups.length) "")).toOption.isSome
  .ok (.tuple [.int ((List.range n).filter fun i => !found i).length, .int n])

/-! ## All workloads -/

/-- All workloads. -/
def workloads : List Workload := [
  ⟨"apply_doc_meta", "n_metas", applyMetadata⟩,
  ⟨"compute_changes", "n_items", compareBuilds⟩,
  ⟨"config_load", "n_types", loadSettings⟩,
  ⟨"package_surface", "n_lookups", lookUpNames⟩]

/-- The size of a workload that no size was given for. -/
def usualSize : Nat := 100

/-- Run a workload with named sizes; it knows only its own. -/
def runWorkload (name : String) (sizes : Entries) : Answer Value :=
  match workloads.find? (·.name == name) with
  | none => .error .noMember
  | some w =>
    if sizes.all fun e => e.1.same (.str w.size) then
      let n := ((sizes.getText? w.size).bind Value.integer?).getD usualSize
      w.run n.toNat
    else .error .wrongKind

end Docsmith.Bench
