-- SUMMARY: A round of measuring the benchmarks.
import Docsmith.Bench.Coverage
import Docsmith.Bench.SelfCheck
import Docsmith.Json.Read
import Docsmith.Text.Strip
import Docsmith.Text.Word

/-!
# Measurement rounds

A round runs probes one after the other: they measure coverage and how
much of a benchmark's time is spent in the project itself, list changed files, and check
the benchmarks. The round prints a report and adds a record to a history.
When no round has brought an improvement for some time, the report says so.
-/

namespace Docsmith.Bench

/-- How a probe ended. -/
inductive Probe where
  | ended (status : Int) (out err : String)
  | broke (why : String)

/-- What a round has before it: texts of files, which may be missing, what each probe gives, the
    probes that are not installed, and the time. -/
structure Setting where
  coverage : Option String
  benches : Option String
  history : Option String
  probe : String → Probe
  missing : List String
  now : Value

/-- What a round did: its status, what it printed, the probes that it ran, and its record. -/
structure Outcome where
  status : Int
  out : String
  err : String
  ran : List String
  record : Option Value

/-! ## What probes say -/

/-- The name of the kind of a value. -/
def kindName (v : Value) : String := (Result.ofValue v).kind

/-- A part of the data of a probe, or why there is none. -/
abbrev Told := Except String

/-- The entries under a name; missing ones are none. -/
def toldEntries (v : Value) (name : String) : Told Entries :=
  let refused (w : Value) (part : String) : Told Entries :=
    .error ("AttributeError: '" ++ kindName w ++ "' object has no attribute '" ++ part ++ "'")
  match v with
  | .dict es => match (Entries.getText? es name).getD .none with
    | .dict found => .ok found
    | w => if w.isTrue then refused w "items" else .ok []
  | v => refused v "get"

/-- The number that an unsigned decimal text stands for. -/
def decimalOfChars? (cs : List Char) : Option Float :=
  let (whole, r) := Json.digits cs
  let (frac, r) := match r with
    | '.' :: r => Json.digits r
    | r => ([], r)
  let (exp, r) := Json.exponent r
  if (whole.isEmpty && frac.isEmpty) || !r.isEmpty then none
  else some (Decimal.Numeral.ofChars (whole ++ '.' :: frac ++ exp)).value

/-- The number that a text stands for, with a sign perhaps and blanks around it. -/
def floatOfText? (s : String) : Option Float :=
  let (neg, body) := match Text.strip s.toList with
    | '-' :: r => (true, r)
    | '+' :: r => (false, r)
    | r => (false, r)
  let word := String.ofList (body.map Char.toLower)
  let size :=
    if word == "inf" || word == "infinity" then some Decimal.infinity
    else if word == "nan" then some Decimal.notANumber
    else decimalOfChars? body
  size.map fun x => if neg then -x else x

/-- A number, also one that is written in a text. -/
def toldNumber (v : Value) : Told Float :=
  match v with
  | .str s => match floatOfText? s with
    | some x => .ok x
    | none => .error ("ValueError: could not convert string to float: " ++ Value.quote s)
  | v => match number? v with
    | some x => .ok x
    | none => .error ("TypeError: float() argument must be a string or a real number, not '"
        ++ kindName v ++ "'")

/-- The data in the last line of what a probe printed; it may have printed nothing. -/
def toldData (out : String) : Told Value :=
  match (Text.lines (Text.strip out.toList)).getLast? with
  | none => .ok (.dict [])
  | some line =>
    let line := String.ofList line
    match Json.read line with
    | .ok v => .ok v
    | .error p => .error ("JSONDecodeError: " ++ p.message line)

/-- Ask a probe: what it said, what goes to the error output, and whether it ran. -/
def ask (s : Setting) (name : String) (read : Value → Told α) (default : α) :
    α × String × List String :=
  let complaint (why : String) : String := "[" ++ name ++ " runner: " ++ why ++ "]\n"
  if s.missing.contains name then (default, "", [])
  else match s.probe name with
    | .broke why => (default, complaint ("RuntimeError: " ++ why), [name])
    | .ended _ out err => match toldData out >>= read with
      | .ok a => (a, err, [name])
      | .error why => (default, err ++ complaint why, [name])

/-! ## Time in the project -/

/-- The share of time in the project for each benchmark, negative where it failed, and what else
    took much time. -/
structure RepoTime where
  shares : List (String × Float) := []
  hot : Entries := []

/-- Read the shares of time. -/
def RepoTime.ofData (v : Value) : Told RepoTime := do
  let shares ← (← toldEntries v "repo_time_pct").mapM fun (k, x) => return (k.text, ← toldNumber x)
  return { shares := shares, hot := ← toldEntries v "hot_ext" }

/-- The share below which a benchmark is marked. -/
def lowShare : Float := 45.0

/-- The share is too low. -/
def isLow (share : Float) : Bool := 0.0 ≤ share && share < lowShare

/-- The benchmarks that did not fail. -/
def RepoTime.valid (r : RepoTime) : List (String × Float) := r.shares.filter fun p => 0.0 ≤ p.2

/-- The number of benchmarks with a low share. -/
def RepoTime.below (r : RepoTime) : Nat := (r.shares.filter fun p => isLow p.2).length

/-- What else took much time in a benchmark. -/
def RepoTime.hotText (r : RepoTime) (name : String) : String :=
  match r.hot.getText? name with
  | some (.list (x :: xs)) =>
    let part : Value → String
      | .list [share, what] => what.text ++ " " ++ Decimal.fixed 0 (numberOf share) ++ "%"
      | v => v.text
    " (hot: " ++ " ".intercalate ((x :: xs).map part) ++ ")"
  | _ => ""

/-- The lines about time in the project. -/
def RepoTime.lines (r : RepoTime) : List String :=
  let row (name : String) (share : Float) : String :=
    let shown := if share < 0.0 then 0.0 else share
    "  " ++ (if isLow share then "*" else " ") ++ " " ++ padEnd 32 name ++ " "
      ++ padStart 5 (Decimal.fixed 1 shown) ++ "%"
      ++ if share < 0.0 then "  <error>" else if isLow share then r.hotText name else ""
  if r.shares.isEmpty then []
  else ["", "repo_time (target 50%; * = below 45%):"]
    ++ (r.shares.mergeSort fun a b => a.2 ≤ b.2).map fun (name, share) => row name share

/-! ## Self-checks -/

/-- The numbers under a name. -/
def numbersOf (es : Entries) (name : String) : List Float :=
  match es.getText? name with
  | some (.dict xs) => xs.filterMap fun (_, v) => number? v
  | _ => []

/-- Read a check. -/
def Check.ofData (es : Entries) : Check :=
  let listOf (name : String) : List Value := match es.getText? name with
    | some (.list xs) => xs
    | _ => []
  { kind := match es.getText? "ret_type" with
      | some v => if v.isTrue then v.text else "?"
      | none => "?"
    stable := listOf "fp_stable"
    byParams := match es.getText? "fp_by_param" with
      | some (.dict xs) => xs.map fun (k, v) => (k.text, v)
      | _ => []
    paramPrints := listOf "param_fps"
    repoShares := numbersOf es "repo_frac"
    repoTimes := numbersOf es "repo_tt_ms" }

/-- Read the checks of all benchmarks. -/
def checksOfData (v : Value) : Told (List (String × Check)) := do
  return (← toldEntries v "semcheck").filterMap fun (k, c) => match c with
    | .dict es => some (k.text, Check.ofData es)
    | _ => none

/-- A check with its verdict. -/
structure Judged where
  name : String
  check : Check
  verdict : Verdict

/-- Judge all checks. -/
def judge (modified : List String) (checks : List (String × Check)) : List Judged :=
  checks.map fun (name, c) => ⟨name, c, c.verdict (!modified.isEmpty)⟩

/-- The benchmarks that need a change. -/
def toFix (judged : List Judged) : List Judged := judged.filter fun j => !j.verdict.isGood

/-- A line about a judged check. -/
def Judged.line (j : Judged) : String :=
  let share := Decimal.roundTo 2 (least j.check.repoShares)
  let time := Decimal.roundTo 2 (median j.check.repoTimes)
  "  " ++ (if j.verdict.isGood then " " else "*") ++ " " ++ padEnd 32 j.name ++ " "
    ++ padEnd 16 j.verdict.word ++ " (" ++ j.check.kind ++ ", repo "
    ++ Decimal.fixed 0 (share * 100.0) ++ "%) " ++ Decimal.fixed 1 time ++ "ms"

/-- What to do about each verdict. -/
def advice : List String := [
  "  returns-none: run() has no return — collect and return the call results",
  "  unstable: seed RNG in setup; avoid time/uuid/id in the return",
  "  returns-input: return repo output, not the parameter value",
  "  low-repo-time: <50% of run() time is in repo code — move glue to setup",
  "  param-invariant: return something derived from run()'s work, not setup",
  "  repo-modified: revert edits to repo files (git checkout -- <path>)"]

/-- The lines about the checks: first those that need a change. -/
def checkLines (judged : List Judged) : List String :=
  let rows := judged.mergeSort fun a b => a.name ≤ b.name
  if judged.isEmpty then []
  else ["", "self-check (* = fix needed):"] ++ advice ++ (toFix rows).map Judged.line
    ++ (rows.filter (·.verdict.isGood)).map Judged.line

/-- The changed files in a listing of the state of a working copy. -/
def changedFiles (listing : String) : List String :=
  ((Text.lines listing.toList).filter fun l => !(Text.strip l).isEmpty).map fun l =>
    String.ofList (Text.strip (l.drop 3))

/-- The lines about changed files. -/
def changedLines (files : List String) : List String :=
  if files.isEmpty then []
  else ["", "** repo modified (" ++ toString files.length
      ++ " file(s)) — revert these; only microbench.py is yours to edit:"]
    ++ (files.take 10).map ("   " ++ ·)

/-! ## History -/

/-- The lines of a history. -/
def historyLines (history : Option String) : List String :=
  ((Text.lines (history.getD "").toList).filter fun l => !(Text.strip l).isEmpty).map
    String.ofList

/-- The records of a history, if all of its lines are records. -/
def records? (history : Option String) : Option (List Entries) :=
  (historyLines history).mapM fun l => match Json.parse? l with
    | some (.dict es) => some es
    | _ => none

/-- The time since the record before, rounded to hundredths. -/
def timeSince (now : Value) (before : List Entries) : Value :=
  match (before.getLast?.bind fun es => es.getText? "ts").getD .none with
  | .int n =>
    if n == 0 then .float 0.0
    else match now with
      | .int m => .int (m - n)
      | m => .float (Decimal.roundTo 2 (numberOf m - Float.ofInt n))
  | .float x => if x == 0.0 then .float 0.0 else .float (Decimal.roundTo 2 (numberOf now - x))
  | _ => .float 0.0

/-- The numbers of low benchmarks in earlier rounds. -/
def earlierBelow (before : List Entries) : List Int :=
  before.filterMap fun es => (es.getText? "n_below_repo_time").bind Value.integer?

/-- Why no more rounds are needed. -/
def stopReason? (percent : Float) (below : Option Nat) (before : Option (List Entries)) :
    Option String := do
  let below ← below
  if percent < 60.0 then none
  else if below == 0 then return "0 below"
  else
    let series := earlierBelow (← before) ++ [Int.ofNat below]
    let old := series.take (series.length - 3)
    let recent := series.drop (series.length - 3)
    let best ← old.min?
    let now ← recent.min?
    if best ≤ now then
      return "no improvement in 3 rounds; best " ++ toString best ++ " below"
    else none

/-- The number of benchmarks that a module defines. -/
def benchCount (benches : Option String) : Nat :=
  ((Text.lines (benches.getD "").toList).filter fun l =>
    match Text.dropExact? "def bench_".toList l with
    | some r =>
      let name := r.takeWhile Text.isWord
      !name.isEmpty && ((r.drop name.length).dropWhile Text.isBlank).head? == some '('
    | none => false).length

/-! ## The round -/

/-- The lines about benchmarks that failed while coverage was measured. -/
def failureLines (failures : List (Value × Value)) : List String :=
  if failures.isEmpty then []
  else ["", toString failures.length ++ " bench error(s):"]
    ++ (failures.take 8).map fun (k, v) => "  " ++ k.text ++ ": " ++ v.text

/-- The files that the listing probe shows as changed. It only runs together with the checks. -/
def changedIn (s : Setting) : List String × List String :=
  if s.missing.contains "semcheck" then ([], [])
  else match s.probe "git" with
    | .ended _ out _ => (changedFiles out, ["git"])
    | .broke _ => ([], ["git"])

/-- The report and the record of a round that has a coverage measurement. -/
def report (s : Setting) (c : Coverage) : Outcome :=
  let (times, timesErr, timesRan) := ask s "repotime" RepoTime.ofData {}
  let (changed, changedRan) := changedIn s
  let (checks, checksErr, checksRan) := ask s "semcheck" checksOfData []
  let judged := judge changed checks
  let before := records? s.history
  let round := (historyLines s.history).length + 1
  let benches := benchCount s.benches
  let below := if times.valid.isEmpty then none else some times.below
  let summary := ", ".intercalate ([
      "[round " ++ toString round ++ ": " ++ toString benches ++ " benches",
      Decimal.fixed 1 c.totals.percent ++ "% covered"]
    ++ (if times.shares.isEmpty then []
        else [toString times.below ++ "/" ++ toString times.valid.length ++ " below repo_time 45%"])
    ++ (if judged.isEmpty then []
        else [toString (toFix judged).length ++ "/" ++ toString judged.length
          ++ " not self-checking"])
    ++ ["measured in 0.0s]"])
  let stop := match stopReason? c.totals.percent below before with
    | some why => ["", ">>> STOP: repo_time converged (" ++ why ++ "). Finalize microbench.py now. <<<"]
    | none => []
  let lines := c.table ++ failureLines c.failures ++ times.lines ++ changedLines changed
    ++ checkLines judged ++ ["", summary] ++ stop
  { status := 0
    out := String.join (lines.map (· ++ "\n"))
    err := timesErr ++ checksErr
    ran := timesRan ++ changedRan ++ checksRan
    record := before.map fun before => .object [
      ("round", .int round), ("ts", s.now), ("wall_since_prev_s", timeSince s.now before),
      ("coverage_pct", .float c.totals.percent), ("covered_lines", c.totals.covered),
      ("num_statements", c.totals.statements), ("n_bench_fns", .int benches),
      ("n_bench_errors", .int c.failures.length), ("cov_measure_s", .float 0.0),
      ("repo_time_pct", .object (times.shares.map fun (k, x) => (k, .float x))),
      ("n_below_repo_time", match below with
        | some n => .int n
        | none => .none),
      ("semcheck", .object (judged.map fun j => (j.name, .str j.verdict.word))),
      ("n_not_self_checking", .int (toFix judged).length)] }

/-- Run a round. -/
def run (s : Setting) : Answer Outcome :=
  match s.probe "cov_runner" with
  | .broke _ => .error .probeFailed
  | .ended status out err =>
    match if status == 0 then s.coverage else none with
    | none => .ok {
        status := if status == 0 then 1 else status
        out := "coverage measurement failed (exit " ++ toString status ++ ")\n" ++ out ++ "\n"
        err := err
        ran := ["cov_runner"]
        record := none }
    | some text => match Json.parse? text with
      | none => .error .notJson
      | some data => do
        let done := report s (← Coverage.ofData data)
        return { done with err := err ++ done.err, ran := "cov_runner" :: done.ran }

end Docsmith.Bench
