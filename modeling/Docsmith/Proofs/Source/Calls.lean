-- SUMMARY: The calls of a function are the names of all callees in it; its call text joins them.
import Docsmith.Proofs.Source.Node
import Docsmith.Proofs.Value.Order
import Docsmith.Source.Calls

/-!
# Calls anywhere in a function

Outlines carry the callees of the nodes they follow, so the calls of a function
are named after all call nodes below it. The two ways to name a callee differ in
subscripts only: where following attributes never leads to one, the call text of
a function is the list of its calls.
-/

namespace Docsmith.Source

/-! ## Callees -/

/-- The callee, if the node is a call. -/
def Node.callee? : Node → Option Expr
  | .expr (.call func _ _) => some func
  | _ => none

/-- A call of the expression stands somewhere in the function. -/
def FunctionDef.HasCall (f : FunctionDef) (callee : Expr) : Prop :=
  ∃ p ∈ f.occurrences, ∃ args keywords, p.node = .expr (.call callee args keywords)

theorem Node.callee?_eq_some {n : Node} {callee : Expr} :
    n.callee? = some callee ↔ ∃ args keywords, n = .expr (.call callee args keywords) := by
  constructor
  · intro h
    unfold callee? at h
    split at h
    · obtain rfl := Option.some.inj h
      exact ⟨_, _, rfl⟩
    · cases h
  · rintro ⟨args, keywords, rfl⟩
    rfl

@[simp]
theorem Node.callee?_mark (n : Node) : n.mark.callee? = n.callee? := by
  cases n with
  | expr e => cases e <;> simp [mark, outline, Expr.outline, Outline.plain, Mark.callee?, callee?]
  | stmt s =>
    cases s
    case withBlock isAsync items body => cases isAsync <;> rfl
    all_goals rfl
  | pattern p => cases p <;> rfl
  | withItem i => rfl
  | clause x | keyword x | param x | handler x | matchCase x => cases x; rfl

/-- Outlines beside one another carry the callees of all nodes below them. -/
theorem calleesOf_map_outline {ns above : List Node}
    (h : ∀ n ∈ ns, n.outline.callees = (n.occurrences above).filterMap (·.node.callee?)) :
    calleesOf (ns.map Node.outline)
      = (ns.flatMap (Node.occurrences above)).filterMap (·.node.callee?) := by
  induction ns with
  | nil => rfl
  | cons n ns ih =>
    obtain ⟨hn, hns⟩ := List.forall_mem_cons.mp h
    rw [List.map_cons, List.flatMap_cons, List.filterMap_append, calleesOf, hn, ih hns]

theorem Node.callees_outline (n : Node) (above : List Node) :
    n.outline.callees = (n.occurrences above).filterMap (·.node.callee?) := by
  induction n using Node.induction generalizing above with
  | step n ih =>
    have hchildren := calleesOf_map_outline fun c hc => ih c hc (n :: above)
    rw [n.outline_eq, n.occurrences_eq, Outline.callees, hchildren, Node.callee?_mark,
      List.filterMap_cons]
    cases n.callee? <;> rfl

theorem FunctionDef.mem_calleesOf {f : FunctionDef} {callee : Expr} :
    callee ∈ calleesOf f.outlines ↔ f.HasCall callee := by
  have hcallees : calleesOf f.outlines = f.occurrences.filterMap (·.node.callee?) := by
    rw [f.outlines_eq]
    exact calleesOf_map_outline fun n _ => n.callees_outline []
  rw [hcallees, List.mem_filterMap]
  simp only [Node.callee?_eq_some]
  rfl

theorem FunctionDef.mem_calls {f : FunctionDef} {name : String} :
    name ∈ f.calls ↔ ∃ e ∈ calleesOf f.outlines, e.calledName = some name := by
  rw [FunctionDef.calls, Text.mem_sortedDistinct, List.mem_filterMap]

/-! ## Names -/

/-- Following the values of attributes leads to a subscript. -/
def Expr.reachesSubscript : Expr → Bool
  | .subscript _ _ => true
  | .attribute value _ => value.reachesSubscript
  | _ => false

theorem ne_empty_of_nonempty? {name n : String} (h : nonempty? name = some n) : n ≠ "" := by
  unfold nonempty? at h
  split at h
  · cases h
  · rename_i hne
    exact Option.some.inj h ▸ hne

theorem Expr.calledName_ne_empty {e : Expr} {name : String} (h : e.calledName = some name) :
    name ≠ "" := by
  induction e using Expr.calledName.induct with
  | case1 id => exact ne_empty_of_nonempty? h
  | case2 value attr n hvalue _ =>
    rw [calledName, hvalue] at h
    obtain rfl := Option.some.inj h
    simp
  | case3 value attr hvalue _ =>
    rw [calledName, hvalue] at h
    exact ne_empty_of_nonempty? h
  | case4 value index ih => exact ih h
  | case5 e hname hattribute hsubscript =>
    rw [calledName] at h
    · cases h
    all_goals assumption

theorem Expr.dottedName_eq_calledName {e : Expr} (h : e.reachesSubscript = false) :
    e.dottedName = e.calledName := by
  induction e using Expr.reachesSubscript.induct with
  | case1 value index => cases h
  | case2 value attr ih => rw [dottedName, calledName, ih h]
  | case3 e hsubscript hattribute =>
    unfold dottedName calledName
    split <;> simp_all

/-- The calls of a function stand in increasing order and are the names of the callees of all
    calls in it, empty ones apart. Its call text joins them, if no callee leads to a subscript. -/
theorem calls_name_all_callees (f : FunctionDef) :
    f.calls.Pairwise (· < ·)
      ∧ (∀ name, name ∈ f.calls
          ↔ name ≠ "" ∧ ∃ callee, f.HasCall callee ∧ callee.calledName = some name)
      ∧ ((∀ callee, f.HasCall callee → callee.reachesSubscript = false) →
          f.callText = "|".intercalate f.calls) := by
  refine ⟨Text.pairwise_sortedDistinct _, ?_, ?_⟩
  · intro name
    simp only [FunctionDef.mem_calls, FunctionDef.mem_calleesOf]
    constructor
    · rintro ⟨callee, hcall, hname⟩
      exact ⟨Expr.calledName_ne_empty hname, callee, hcall, hname⟩
    · intro h
      exact h.2
  · intro h
    have hnames : (calleesOf f.outlines).filterMap Expr.dottedName
        = (calleesOf f.outlines).filterMap Expr.calledName := by
      apply List.filterMap_congr
      intro callee hcallee
      exact Expr.dottedName_eq_calledName (h callee (FunctionDef.mem_calleesOf.mp hcallee))
    rw [FunctionDef.callText, hnames, FunctionDef.calls]

/-- A function that sorts what it loads: `return load(rows[0]).sort(load)`. -/
def sortsLoaded : FunctionDef :=
  let loaded := Expr.call (.name "load") [.subscript (.name "rows") (.constant (.int 0))] []
  let sorted := Expr.call (.attribute loaded "sort") [.name "load"] []
  ⟨false, ⟨1, 0, 0⟩, "f", ⟨[], [], none, [], none⟩, [.ret (some sorted)], [], none⟩

/-- A subscript in an argument is not reached from the callee. -/
theorem sortsLoaded_callText :
    (∀ callee, sortsLoaded.HasCall callee → callee.reachesSubscript = false)
      ∧ (∀ name, name ∈ sortsLoaded.calls ↔ name = "load" ∨ name = "sort")
      ∧ sortsLoaded.callText = "|".intercalate sortsLoaded.calls := by
  have hreaches : ∀ callee ∈ calleesOf sortsLoaded.outlines, callee.reachesSubscript = false := by
    decide
  have hcalls : ∀ callee, sortsLoaded.HasCall callee → callee.reachesSubscript = false := by
    intro callee hcall
    exact hreaches callee (FunctionDef.mem_calleesOf.mpr hcall)
  have hnames : (calleesOf sortsLoaded.outlines).filterMap Expr.calledName = ["sort", "load"] := by
    decide
  refine ⟨hcalls, ?_, (calls_name_all_callees sortsLoaded).2.2 hcalls⟩
  intro name
  rw [FunctionDef.calls, Text.mem_sortedDistinct, hnames]
  simp [or_comm]

end Docsmith.Source
