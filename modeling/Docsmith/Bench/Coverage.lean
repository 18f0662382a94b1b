-- SUMMARY: The table of a coverage measurement.
import Docsmith.Decimal.Round
import Docsmith.Value.Access

/-!
# Coverage tables

A coverage measurement gives for each file the number of statements, how many of
them did not run, and their lines. The table shows the files with the least coverage
first, and of equally covered files the larger ones.
-/

namespace Docsmith.Bench

/-! ## Columns -/

/-- A text with blanks in front, up to a width. -/
def padStart (width : Nat) (s : String) : String :=
  String.ofList (List.replicate (width - s.length) ' ') ++ s

/-- A text with blanks behind, up to a width. -/
def padEnd (width : Nat) (s : String) : String :=
  s ++ String.ofList (List.replicate (width - s.length) ' ')

/-- The number that a value is. -/
def number? : Value → Option Float
  | .int n => some (Float.ofInt n)
  | .float x => some x
  | .bool b => some (if b then 1.0 else 0.0)
  | _ => none

/-- The number that a value is, zero if it is none. -/
def numberOf (v : Value) : Float := (number? v).getD 0.0

/-- The value under a name, and a given one where it is missing, empty or zero. -/
def orElse (v : Value) (name : String) (default : Value) : Answer Value := do
  let found ← v.getD name default
  return if found.isTrue then found else default

/-- The dictionary under a name, which may be missing. -/
def section? (v : Value) (name : String) : Answer Value := orElse v name (.dict [])

/-! ## Files -/

/-- The coverage of one file. -/
structure FileCoverage where
  name : String
  statements : Value
  missed : Value
  percent : Float
  lines : List Value

/-- The coverage of all files together. -/
structure Totals where
  statements : Value
  covered : Value
  percent : Float

/-- A coverage measurement; `failures` are the benchmarks that failed in it. -/
structure Coverage where
  files : List FileCoverage
  totals : Totals
  failures : List (Value × Value)

/-- The folder that all measured files are in. -/
def repoFolder : String := "/repo/"

/-- The coverage of a file. -/
def FileCoverage.ofData (name : Value) (data : Value) : Answer FileCoverage := do
  let name ← name.asText
  let summary ← section? data "summary"
  let lines ← orElse data "missing_lines" (.list [])
  return {
    name := String.ofList (Text.replace repoFolder.toList [] name.toList)
    statements := ← summary.getD "num_statements" (.int 0)
    missed := ← summary.getD "missing_lines" (.int 0)
    percent := numberOf (← summary.getD "percent_covered" (.float 0.0))
    lines := ← lines.items }

/-- Read a coverage measurement. -/
def Coverage.ofData (data : Value) : Answer Coverage := do
  let files ← (← section? data "files").entries
  let totals ← section? data "totals"
  let notes ← section? data "meta"
  return {
    files := ← files.mapM fun (k, v) => FileCoverage.ofData k v
    totals := {
      statements := ← orElse totals "num_statements" (.int 0)
      covered := ← orElse totals "covered_lines" (.int 0)
      percent := numberOf (← totals.getD "percent_covered" (.float 0.0)) }
    failures := ← (← section? notes "_pti_bench_errors").entries }

/-- One file stands before another: it is covered less, or it is larger. -/
def FileCoverage.before (a b : FileCoverage) : Bool :=
  a.percent < b.percent || (a.percent == b.percent && numberOf b.statements ≤ numberOf a.statements)

/-- The files that the table shows. -/
def Coverage.shown (c : Coverage) : List FileCoverage := (c.files.mergeSort FileCoverage.before).take 120

/-- The lines that did not run; of many, only the first twelve. -/
def FileCoverage.missing (f : FileCoverage) : String :=
  ",".intercalate ((f.lines.take 12).map Value.text) ++ if 12 < f.lines.length then "…" else ""

/-- A line of the table up to its percentage. -/
def tableLine (width : Nat) (name statements missed : String) (percent : Float) : String :=
  "  ".intercalate [padEnd width name, padStart 5 statements, padStart 4 missed,
    padStart 4 (Decimal.fixed 0 percent) ++ "%"]

/-- The number of statements that did not run. -/
def Totals.missed (t : Totals) : Value :=
  match t.statements, t.covered with
  | .int n, .int k => .int (n - k)
  | n, k => .float (numberOf n - numberOf k)

/-- The lines of the table. -/
def Coverage.table (c : Coverage) : List String :=
  let width := (c.shown.map (·.name.length)).foldl max 4
  let rule := String.ofList (List.replicate (width + 42) '-')
  let rows := c.shown.map fun f =>
    tableLine width f.name f.statements.text f.missed.text f.percent ++ "  " ++ f.missing
  [padEnd width "Name" ++ "  Stmts  Miss  Cover  Missing", rule] ++ rows ++ [rule,
    tableLine width "TOTAL" c.totals.statements.text c.totals.missed.text c.totals.percent]

end Docsmith.Bench
