-- SUMMARY: Checking that benchmarks measure what they should.
import Docsmith.Bench.Result
import Docsmith.Value.Access

/-!
# Self-checks of benchmarks

A benchmark that returns nothing, or a result that its parameters do not affect,
measures little. A check runs a benchmark twice and once for each choice of its
parameters, and keeps fingerprints of the results. The verdict on a check names the
first thing that is wrong.
-/

namespace Docsmith.Bench

/-! ## Checks -/

/-- What a run of a benchmark gives. -/
inductive Trial where
  | returned (r : Result)
  | raised (kind : String)

/-- A benchmark: the parameters with the values to try, and what a run with some choice gives. -/
structure Benchmark where
  params : List (String × List Value) := []
  run : List (String × Value) → Trial

/-- What is known about a benchmark from its runs. -/
structure Check where
  kind : String
  stable : List Value := []
  byParams : List (String × Value) := []
  paramPrints : List Value := []
  cases : List String := []
  repoShares : List Float := []
  repoTimes : List Float := []

/-- All choices of one value for each parameter. -/
def choices : List (String × List Value) → List (List (String × Value))
  | [] => [[]]
  | (name, values) :: rest =>
    values.flatMap fun v => (choices rest).map fun choice => (name, v) :: choice

/-- The label of a choice: names in order, with the texts of their values. -/
def label (choice : List (String × Value)) : String :=
  let sorted := choice.mergeSort fun a b => a.1 ≤ b.1
  ",".intercalate (sorted.map fun (k, v) => k ++ "=" ++ v.text)

/-- The fingerprint that a run gives. -/
def Trial.print? : Trial → Option Value
  | .returned r => some (.str r.fingerprint)
  | .raised _ => none

/-- Check a benchmark. -/
def Benchmark.check (b : Benchmark) : Check :=
  match b.run [] with
  | .raised kind => { kind := "<" ++ kind ++ ">" }
  | .returned r =>
    let tried := if b.params.isEmpty then [] else choices b.params
    let prints := tried.filterMap fun choice => ((b.run choice).print?).map (label choice, ·)
    let values := b.params.flatMap (·.2)
    { kind := r.kind
      stable := [.str r.fingerprint, .str r.fingerprint]
      byParams := prints
      paramPrints := values.map fun v => .str (Result.ofValue v).fingerprint
      cases := if tried.isEmpty then ["<default>"] else tried.map label }

/-- The benchmarks among the members of a module: those that can be run and are named so. -/
def named (members : List (String × Option Benchmark)) : List (String × Benchmark) :=
  members.filterMap fun (name, b) => if name.startsWith "bench_" then b.map (name, ·) else none

/-! ## Verdicts -/

/-- What a check says about a benchmark. -/
inductive Verdict where
  | ok
  | withoutParams
  | failed
  | returnsNone
  | unstable
  | returnsInput
  | lowRepoTime
  | tooFast
  | paramInvariant
  | repoModified
deriving Repr, DecidableEq

/-- The word for a verdict. -/
def Verdict.word : Verdict → String
  | .ok => "ok"
  | .withoutParams => "ok-unparam"
  | .failed => "error"
  | .returnsNone => "returns-none"
  | .unstable => "unstable"
  | .returnsInput => "returns-input"
  | .lowRepoTime => "low-repo-time"
  | .tooFast => "too-fast"
  | .paramInvariant => "param-invariant"
  | .repoModified => "repo-modified"

/-- The verdict asks for no change. -/
def Verdict.isGood (v : Verdict) : Bool := v == .ok || v == .withoutParams

/-- The middle of numbers; of two middle ones, their mean. -/
def median (xs : List Float) : Float :=
  let sorted := xs.mergeSort fun a b => a ≤ b
  let n := sorted.length
  if n == 0 then 0.0
  else if n % 2 == 1 then sorted.getD (n / 2) 0.0
  else (sorted.getD (n / 2 - 1) 0.0 + sorted.getD (n / 2) 0.0) / 2.0

/-- The least of numbers, zero if there are none. -/
def least : List Float → Float
  | [] => 0.0
  | x :: xs => xs.foldl (fun a b => if b < a then b else a) x

/-- The two runs gave the same fingerprint. -/
def Check.isStable (c : Check) : Bool :=
  match c.stable with
  | first :: rest => !rest.isEmpty && rest.all (· == first)
  | [] => false

/-- The verdict on a check; `modified` says that files of the project were changed. -/
def Check.verdict (c : Check) (modified : Bool) : Verdict :=
  if modified then .repoModified
  else if c.kind.isEmpty || c.kind == "?" || c.kind.startsWith "<" then .failed
  else if c.kind == "NoneType" then .returnsNone
  else if !c.isStable then .unstable
  else if c.stable.head?.any fun p => c.paramPrints.any (· == p) then .returnsInput
  else if !c.repoShares.isEmpty && least c.repoShares < 0.5 then .lowRepoTime
  else if !c.repoTimes.isEmpty && median c.repoTimes < 1.0 then .tooFast
  else if c.byParams.length < 2 then .withoutParams
  else if (c.byParams.drop 1).all fun p => some p.2 == (c.byParams.head?.map (·.2)) then
    .paramInvariant
  else .ok

end Docsmith.Bench
