-- SUMMARY: The nodes of a syntax tree with what is above them, and how the two measures are tied.
import Docsmith.Proofs.Signature.RoundTrip
import Docsmith.Source.Metrics

/-!
# Nodes

The nodes of a function are enumerated with the nodes above them. Operators and
parameter lists are parts of a node and not nodes themselves. The outline of a
tree follows its nodes, so a measure is a sum over them. Cognitive weight and
complexity count the same connectives and branches; complexity also counts
contexts, checks and comprehensions, and cognitive weight how often branches
stand in one another.
-/

namespace Docsmith.Source

/-! ## Nodes and their children -/

/-- A node of a syntax tree. -/
inductive Node where
  | expr (e : Expr)
  | clause (c : Clause)
  | keyword (k : Keyword)
  | param (p : Param)
  | pattern (p : Pattern)
  | withItem (i : WithItem)
  | stmt (s : Stmt)
  | handler (h : Handler)
  | matchCase (c : MatchCase)

/-- The nodes of an entry of a dictionary display. -/
def DictItem.nodes : DictItem → List Node
  | .pair key value => [.expr key, .expr value]
  | .spread value => [.expr value]

/-- The right operand of a comparison. -/
def Comparand.right : Comparand → Expr
  | .mk _ right => right

/-- The nodes right below a node. -/
def Node.children : Node → List Node
  | .expr (.boolOp _ values) => values.map .expr
  | .expr (.named target value) => [.expr target, .expr value]
  | .expr (.binary left _ right) => [.expr left, .expr right]
  | .expr (.unary _ operand) => [.expr operand]
  | .expr (.lambda params body) => params.all.map .param ++ [.expr body]
  | .expr (.ifElse test body orelse) => [.expr test, .expr body, .expr orelse]
  | .expr (.dict items) => items.flatMap DictItem.nodes
  | .expr (.set elts) => elts.map .expr
  | .expr (.listComp elt clauses) => .expr elt :: clauses.map .clause
  | .expr (.setComp elt clauses) => .expr elt :: clauses.map .clause
  | .expr (.dictComp key value clauses) => .expr key :: .expr value :: clauses.map .clause
  | .expr (.generator elt clauses) => .expr elt :: clauses.map .clause
  | .expr (.await value) => [.expr value]
  | .expr (.yield value) => value.toList.map .expr
  | .expr (.yieldFrom value) => [.expr value]
  | .expr (.compare left rest) => .expr left :: rest.map fun c => .expr c.right
  | .expr (.call func args keywords) => .expr func :: (args.map .expr ++ keywords.map .keyword)
  | .expr (.formatted value _ spec) => .expr value :: spec.toList.map .expr
  | .expr (.joined values) => values.map .expr
  | .expr (.constant _) => []
  | .expr (.attribute value _) => [.expr value]
  | .expr (.subscript value index) => [.expr value, .expr index]
  | .expr (.starred value) => [.expr value]
  | .expr (.name _) => []
  | .expr (.list elts) => elts.map .expr
  | .expr (.tuple elts) => elts.map .expr
  | .expr (.slice lower upper step) => (lower.toList ++ upper.toList ++ step.toList).map .expr
  | .clause (.mk _ target iter conditions) => .expr target :: .expr iter :: conditions.map .expr
  | .keyword (.mk _ value) => [.expr value]
  | .param (.mk _ type value) => (type.toList ++ value.toList).map .expr
  | .pattern (.value e) => [.expr e]
  | .pattern (.singleton _) => []
  | .pattern (.sequence items) => items.map .pattern
  | .pattern (.mapping keys items _) => keys.map .expr ++ items.map .pattern
  | .pattern (.record cls items _ named) =>
    .expr cls :: (items.map .pattern ++ named.map .pattern)
  | .pattern (.star _) => []
  | .pattern (.capture inner _) => inner.toList.map .pattern
  | .pattern (.choice items) => items.map .pattern
  | .withItem i => .expr i.context :: i.target.toList.map .expr
  | .stmt (.function _ _ _ params body decorators returns) =>
    params.all.map .param ++ body.map .stmt ++ decorators.map .expr ++ returns.toList.map .expr
  | .stmt (.classDef _ _ bases keywords body decorators) =>
    bases.map .expr ++ keywords.map .keyword ++ body.map .stmt ++ decorators.map .expr
  | .stmt (.ret value) => value.toList.map .expr
  | .stmt (.delete targets) => targets.map .expr
  | .stmt (.assign targets value) => targets.map .expr ++ [.expr value]
  | .stmt (.augAssign target _ value) => [.expr target, .expr value]
  | .stmt (.annAssign target type value _) =>
    .expr target :: .expr type :: value.toList.map .expr
  | .stmt (.forLoop _ target iter body orelse) =>
    .expr target :: .expr iter :: (body ++ orelse).map .stmt
  | .stmt (.whileLoop test body orelse) => .expr test :: (body ++ orelse).map .stmt
  | .stmt (.ifElse test body orelse) => .expr test :: (body ++ orelse).map .stmt
  | .stmt (.withBlock _ items body) => items.map .withItem ++ body.map .stmt
  | .stmt (.matchOn subject cases) => .expr subject :: cases.map .matchCase
  | .stmt (.raise exc cause) => (exc.toList ++ cause.toList).map .expr
  | .stmt (.tryBlock _ body handlers orelse final) =>
    body.map .stmt ++ handlers.map .handler ++ orelse.map .stmt ++ final.map .stmt
  | .stmt (.assert test message) => .expr test :: message.toList.map .expr
  | .stmt (.importNames _) => []
  | .stmt (.importFrom _ _ _) => []
  | .stmt (.global _) => []
  | .stmt (.nonlocal _) => []
  | .stmt (.expr value) => [.expr value]
  | .stmt .pass => []
  | .stmt .breakLoop => []
  | .stmt .continueLoop => []
  | .handler (.mk type _ body) => type.toList.map .expr ++ body.map .stmt
  | .matchCase (.mk p guard body) =>
    .pattern p :: (guard.toList.map .expr ++ body.map .stmt)

/-- The nodes right below a function. -/
def FunctionDef.children (f : FunctionDef) : List Node := Node.children (.stmt f.toStmt)

/-! ## Outlines follow nodes -/

/-- The outline of a node. -/
def Node.outline : Node → Outline
  | .expr e => e.outline
  | .clause (.mk _ target iter conditions) =>
    .plain (target.outline :: iter.outline :: outlines conditions)
  | .keyword (.mk _ value) => .plain [value.outline]
  | .param (.mk _ type value) => .plain (outline? type ++ outline? value)
  | .pattern p => p.outline
  | .withItem i => i.outline
  | .stmt s => s.outline
  | .handler (.mk type _ body) => .mk .branch (outline? type ++ outlinesOfBody body)
  | .matchCase (.mk p guard body) =>
    .plain (p.outline :: (outline? guard ++ outlinesOfBody body))

/-- The mark of a node. -/
def Node.mark (n : Node) : Mark :=
  match n.outline with
  | .mk mark _ => mark

section

variable {α : Type}

/-- Outlines made one by one are the outlines of the nodes. -/
theorem outlines_eq_map {f : List α → List Outline} {g : α → Node} (hnil : f [] = [])
    (hcons : ∀ x xs, f (x :: xs) = (g x).outline :: f xs) (xs : List α) :
    f xs = (xs.map g).map Node.outline := by
  induction xs with
  | nil => exact hnil
  | cons x xs ih => rw [hcons, ih]; rfl

@[simp]
theorem outlines_eq (es : List Expr) : outlines es = (es.map Node.expr).map Node.outline :=
  outlines_eq_map (by simp [outlines]) (fun _ _ => by simp [outlines, Node.outline]) es

@[simp]
theorem outline?_eq (e : Option Expr) : outline? e = (e.toList.map Node.expr).map Node.outline := by
  cases e <;> simp [outline?, Node.outline]

@[simp]
theorem outlinesOfItems_eq (items : List DictItem) :
    outlinesOfItems items = (items.flatMap DictItem.nodes).map Node.outline := by
  induction items with
  | nil => simp [outlinesOfItems]
  | cons i items ih => cases i <;> simp [outlinesOfItems, DictItem.nodes, Node.outline, ih]

@[simp]
theorem outlinesOfComparands_eq (cs : List Comparand) :
    outlinesOfComparands cs = (cs.map fun c => Node.expr c.right).map Node.outline :=
  outlines_eq_map (by simp [outlinesOfComparands])
    (fun ⟨_, _⟩ _ => by simp [outlinesOfComparands, Node.outline, Comparand.right]) cs

@[simp]
theorem outlinesOfClauses_eq (cs : List Clause) :
    outlinesOfClauses cs = (cs.map Node.clause).map Node.outline :=
  outlines_eq_map (by simp [outlinesOfClauses])
    (fun ⟨_, _, _, _⟩ _ => by rw [outlinesOfClauses, Node.outline]) cs

@[simp]
theorem outlinesOfKeywords_eq (ks : List Keyword) :
    outlinesOfKeywords ks = (ks.map Node.keyword).map Node.outline :=
  outlines_eq_map (by simp [outlinesOfKeywords])
    (fun ⟨_, _⟩ _ => by rw [outlinesOfKeywords, Node.outline]) ks

@[simp]
theorem outlinesOfParams_eq (ps : List Param) :
    outlinesOfParams ps = (ps.map Node.param).map Node.outline :=
  outlines_eq_map (by simp [outlinesOfParams])
    (fun ⟨_, _, _⟩ _ => by rw [outlinesOfParams, Node.outline]) ps

@[simp]
theorem outlineOfParam?_eq (p : Option Param) :
    outlineOfParam? p = (p.toList.map Node.param).map Node.outline := by
  obtain _ | ⟨_, _, _⟩ := p
  · simp [outlineOfParam?]
  · rw [outlineOfParam?]
    rfl

@[simp]
theorem Params.outlines_eq (ps : Params) :
    ps.outlines = (ps.all.map Node.param).map Node.outline := by
  cases ps
  simp [Params.outlines, Params.all]

@[simp]
theorem outlinesOfPatterns_eq (ps : List Pattern) :
    outlinesOfPatterns ps = (ps.map Node.pattern).map Node.outline :=
  outlines_eq_map (by simp [outlinesOfPatterns])
    (fun _ _ => by rw [outlinesOfPatterns, Node.outline]) ps

@[simp]
theorem outlineOfPattern?_eq (p : Option Pattern) :
    outlineOfPattern? p = (p.toList.map Node.pattern).map Node.outline := by
  cases p <;> simp [outlineOfPattern?, Node.outline]

@[simp]
theorem outlinesOfBody_eq (ss : List Stmt) :
    outlinesOfBody ss = (ss.map Node.stmt).map Node.outline :=
  outlines_eq_map (by simp [outlinesOfBody])
    (fun _ _ => by rw [outlinesOfBody, Node.outline]) ss

@[simp]
theorem outlinesOfHandlers_eq (hs : List Handler) :
    outlinesOfHandlers hs = (hs.map Node.handler).map Node.outline :=
  outlines_eq_map (by simp [outlinesOfHandlers])
    (fun ⟨_, _, _⟩ _ => by rw [outlinesOfHandlers, Node.outline]) hs

@[simp]
theorem outlinesOfCases_eq (cs : List MatchCase) :
    outlinesOfCases cs = (cs.map Node.matchCase).map Node.outline :=
  outlines_eq_map (by simp [outlinesOfCases])
    (fun ⟨_, _, _⟩ _ => by rw [outlinesOfCases, Node.outline]) cs

end

/-- Below the outline of a node are the outlines of its children. -/
theorem Node.outline_eq (n : Node) : n.outline = .mk n.mark (n.children.map Node.outline) := by
  cases n with
  | expr e => cases e <;> simp [Node.mark, Node.outline, Node.children, Expr.outline, Outline.plain]
  | clause c => cases c; simp [Node.mark, Node.outline, Node.children, Outline.plain]
  | keyword k => cases k; simp [Node.mark, Node.outline, Node.children, Outline.plain]
  | param p => cases p; simp [Node.mark, Node.outline, Node.children, Outline.plain]
  | pattern p =>
    cases p <;> simp [Node.mark, Node.outline, Node.children, Pattern.outline, Outline.plain]
  | withItem i => simp [Node.mark, Node.outline, Node.children, WithItem.outline, Outline.plain]
  | stmt s => cases s <;> simp [Node.mark, Node.outline, Node.children, Stmt.outline, Outline.plain]
  | handler h => cases h; simp [Node.mark, Node.outline, Node.children]
  | matchCase c => cases c; simp [Node.mark, Node.outline, Node.children, Outline.plain]

/-! ## Occurrences -/

/-- A node with the nodes above it, the nearest first. -/
structure Occurrence where
  node : Node
  above : List Node

theorem Node.sizeOf_outline_lt {n c : Node} (h : c ∈ n.children) :
    sizeOf c.outline < sizeOf n.outline := by
  have hlt := List.sizeOf_lt_of_mem (List.mem_map_of_mem (f := Node.outline) h)
  rw [n.outline_eq, Outline.mk.sizeOf_spec]
  omega

/-- A node and all nodes below it, each with the nodes above it. -/
def Node.occurrences (above : List Node) (n : Node) : List Occurrence :=
  ⟨n, above⟩ :: n.children.attach.flatMap fun c => Node.occurrences (n :: above) c.1
termination_by sizeOf n.outline
decreasing_by exact Node.sizeOf_outline_lt c.2

/-- All nodes below a function, each with the nodes between it and the function. -/
def FunctionDef.occurrences (f : FunctionDef) : List Occurrence :=
  f.children.flatMap (Node.occurrences [])

theorem Node.occurrences_eq (above : List Node) (n : Node) :
    n.occurrences above = ⟨n, above⟩ :: n.children.flatMap (Node.occurrences (n :: above)) := by
  rw [Node.occurrences, List.flatMap_subtype (g := Node.occurrences (n :: above)) fun _ _ => rfl,
    List.unattach_attach]

/-- What holds of a node once it holds of its children holds of every node. -/
theorem Node.induction {motive : Node → Prop}
    (step : ∀ n : Node, (∀ c ∈ n.children, motive c) → motive n) (n : Node) : motive n :=
  step n fun c _ => Node.induction step c
termination_by sizeOf n.outline
decreasing_by exact Node.sizeOf_outline_lt ‹_›

/-! ## Measures -/

/-- The sum of a measure over a list. -/
def total {α : Type} (measure : α → Nat) : List α → Nat
  | [] => 0
  | x :: xs => measure x + total measure xs

/-- A choice, a loop or a handler. -/
def Node.isBranch : Node → Bool
  | .expr (.ifElse _ _ _) => true
  | .stmt (.ifElse _ _ _) => true
  | .stmt (.forLoop _ _ _ _ _) => true
  | .stmt (.whileLoop _ _ _) => true
  | .handler _ => true
  | _ => false

/-- A `with` block that is not asynchronous. -/
def Node.isWith : Node → Bool
  | .stmt (.withBlock isAsync _ _) => !isAsync
  | _ => false

/-- An assertion. -/
def Node.isAssert : Node → Bool
  | .stmt (.assert _ _) => true
  | _ => false

/-- The number of clauses, if the node is a comprehension. -/
def Node.clauses : Node → Nat
  | .expr (.listComp _ clauses) => clauses.length
  | .expr (.setComp _ clauses) => clauses.length
  | .expr (.dictComp _ _ clauses) => clauses.length
  | .expr (.generator _ clauses) => clauses.length
  | _ => 0

/-- What complexity counts at a node and cognitive weight does not. -/
def Node.uncharged (n : Node) : Nat :=
  (if n.isWith then 1 else 0) + (if n.isAssert then 1 else 0) + n.clauses

/-- The number of branches that a branch stands in. -/
def Occurrence.nesting (p : Occurrence) : Nat :=
  if p.node.isBranch then p.above.countP Node.isBranch else 0

/-- The mark of a branch. -/
def Mark.isBranch : Mark → Bool
  | .branch => true
  | _ => false

/-- The paths that are not charged as weight. -/
def Mark.uncharged : Mark → Nat
  | .context => 1
  | .check => 1
  | .comprehension n => n
  | _ => 0

theorem Mark.weight_add (m : Mark) (depth : Nat) :
    m.weight depth + m.uncharged = m.paths + if m.isBranch then depth else 0 := by
  cases m <;> simp [weight, uncharged, paths, isBranch]

theorem Mark.deeper_eq (m : Mark) (depth : Nat) :
    m.deeper depth = depth + if m.isBranch then 1 else 0 := by
  cases m <;> rfl

@[simp]
theorem Node.isBranch_mark (n : Node) : n.mark.isBranch = n.isBranch := by
  cases n with
  | expr e => cases e <;> simp [mark, outline, Expr.outline, Outline.plain, Mark.isBranch, isBranch]
  | stmt s =>
    cases s
    case withBlock isAsync items body => cases isAsync <;> rfl
    all_goals rfl
  | pattern p => cases p <;> rfl
  | withItem i => rfl
  | clause x | keyword x | param x | handler x | matchCase x => cases x; rfl

@[simp]
theorem Node.uncharged_mark (n : Node) : n.mark.uncharged = n.uncharged := by
  cases n with
  | expr e =>
    cases e <;> simp [mark, outline, Expr.outline, Outline.plain, Mark.uncharged, uncharged, isWith,
      isAssert, clauses]
  | stmt s =>
    cases s
    case withBlock isAsync items body => cases isAsync <;> rfl
    all_goals rfl
  | pattern p => cases p <;> rfl
  | withItem i => rfl
  | clause x | keyword x | param x | handler x | matchCase x => cases x; rfl

theorem total_append {α : Type} (measure : α → Nat) (xs ys : List α) :
    total measure (xs ++ ys) = total measure xs + total measure ys := by
  induction xs with
  | nil => simp [total]
  | cons x xs ih => simp only [List.cons_append, total, ih]; omega

/-- Trees whose measures are tied are tied when put beside one another. -/
theorem weightOf_outlines {ns : List Node} {above : List Node}
    (h : ∀ n ∈ ns, n.outline.weight (above.countP Node.isBranch)
        + total (·.node.uncharged) (n.occurrences above)
      = n.outline.paths + total Occurrence.nesting (n.occurrences above)) :
    weightOf (above.countP Node.isBranch) (ns.map Node.outline)
        + total (·.node.uncharged) (ns.flatMap (Node.occurrences above))
      = pathsOf (ns.map Node.outline)
        + total Occurrence.nesting (ns.flatMap (Node.occurrences above)) := by
  induction ns with
  | nil => rfl
  | cons n ns ih =>
    obtain ⟨hn, hns⟩ := List.forall_mem_cons.mp h
    have hrest := ih hns
    simp only [List.map_cons, List.flatMap_cons, weightOf, pathsOf, total_append]
    omega

/-- The weight of a tree is its number of paths, less what is not charged, and more by what its
    branches stand in. -/
theorem Node.weight_outline (n : Node) (above : List Node) :
    n.outline.weight (above.countP Node.isBranch) + total (·.node.uncharged) (n.occurrences above)
      = n.outline.paths + total Occurrence.nesting (n.occurrences above) := by
  induction n using Node.induction generalizing above with
  | step n ih =>
    -- A branch moves its children one level down, which is what its mark says.
    have hchildren := weightOf_outlines fun c hc => ih c hc (n :: above)
    have hmark := n.mark.weight_add (above.countP Node.isBranch)
    have hdeeper := n.mark.deeper_eq (above.countP Node.isBranch)
    rw [Node.isBranch_mark, Node.uncharged_mark] at hmark
    rw [Node.isBranch_mark, ← List.countP_cons] at hdeeper
    rw [n.outline_eq, n.occurrences_eq, Outline.weight, Outline.paths, total, total, hdeeper]
    dsimp only [Occurrence.nesting]
    omega

theorem total_uncharged (ps : List Occurrence) : total (·.node.uncharged) ps =
    ps.countP (·.node.isWith) + ps.countP (·.node.isAssert) + total (·.node.clauses) ps := by
  induction ps with
  | nil => rfl
  | cons p ps ih =>
    rw [total, ih, List.countP_cons, List.countP_cons, total, Node.uncharged]
    omega

theorem total_nesting (ps : List Occurrence) : total Occurrence.nesting ps =
    total (fun p => p.above.countP Node.isBranch) (ps.filter (·.node.isBranch)) := by
  induction ps with
  | nil => rfl
  | cons p ps ih =>
    rw [total, ih, Occurrence.nesting, List.filter_cons]
    split
    · rw [total]
    · rw [Nat.zero_add]

theorem FunctionDef.outlines_eq (f : FunctionDef) :
    f.outlines = f.children.map Node.outline := by
  simp [FunctionDef.outlines, FunctionDef.children, FunctionDef.toStmt, Node.children]

/-- Cognitive weight is complexity without its first path, the `with` blocks, the assertions and
    the clauses of comprehensions, and with one more for each branch that another one stands in. -/
theorem cognitiveWeight_eq_complexity (f : FunctionDef) :
    (f.cognitiveWeight : Int) = f.complexity - 1 - f.occurrences.countP (·.node.isWith)
      - f.occurrences.countP (·.node.isAssert) - total (·.node.clauses) f.occurrences
      + total (fun p => p.above.countP Node.isBranch) (f.occurrences.filter (·.node.isBranch)) := by
  have hsum : weightOf 0 (f.children.map Node.outline) + total (·.node.uncharged) f.occurrences
      = pathsOf (f.children.map Node.outline) + total Occurrence.nesting f.occurrences :=
    weightOf_outlines fun n _ => n.weight_outline []
  rw [← f.outlines_eq, total_uncharged, total_nesting] at hsum
  rw [FunctionDef.cognitiveWeight, FunctionDef.complexity]
  omega

end Docsmith.Source
