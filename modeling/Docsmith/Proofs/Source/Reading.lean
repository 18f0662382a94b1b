-- SUMMARY: How rules of the grammar read lexemes.
import Docsmith.Proofs.Source.Cutting
import Docsmith.Proofs.Text.Lines
import Docsmith.Source.Parse

/-!
# Reading

`Reads` says that a rule reads some lexemes as a result and leaves others ahead,
wherever in a text they stand. There is a law for each way of putting rules
together. An operand that stands before a comma, before a closing parenthesis or
at the end is read by the rules of every strength in the same way.
-/

namespace Docsmith.Source

/-! ## Lexemes -/

/-- The lexeme is the given keyword or symbol. -/
def Lexeme.is (l : Lexeme) (text : String) : Bool :=
  (l.kind == .symbol || l.kind == .name) && l.text == text

/-- The name that the lexeme is. -/
def Lexeme.name? (l : Lexeme) : Option String :=
  if l.kind == .name && !keywords.contains l.text then some (Text.normalName l.text) else none

/-- The lexeme does not stand for a fault. -/
def Lexeme.isSound (l : Lexeme) : Bool :=
  match l.kind with
  | .fault _ => false
  | _ => true

/-- The lexeme ends an operand. -/
def Lexeme.isEnd (l : Lexeme) : Bool :=
  l == ⟨.symbol, ","⟩ || l == ⟨.symbol, ")"⟩ || l == ⟨.finish, ""⟩

/-- The lexeme starts an operand that has no operator in front. -/
def Lexeme.isStart (l : Lexeme) : Bool :=
  l.isSound && ["lambda", "not", "+", "-", "~", "await"].all fun text => !l.is text

theorem Lexeme.isSound_of_isEnd {l : Lexeme} (h : l.isEnd = true) : l.isSound = true := by
  simp only [isEnd, Bool.or_eq_true, beq_iff_eq] at h
  obtain (rfl | rfl) | rfl := h <;> rfl

theorem Lexeme.kind_of_isEnd {l : Lexeme} (h : l.isEnd = true) : l.kind ≠ .string := by
  simp only [isEnd, Bool.or_eq_true, beq_iff_eq] at h
  obtain (rfl | rfl) | rfl := h <;> nofun

theorem Lexeme.is_of_isEnd {l : Lexeme} (h : l.isEnd = true) {text : String}
    (htext : text ∉ [",", ")"]) : l.is text = false := by
  simp only [isEnd, Bool.or_eq_true, beq_iff_eq] at h
  simp only [List.mem_cons, List.not_mem_nil, or_false, not_or] at htext
  obtain (rfl | rfl) | rfl := h
  · simpa [Lexeme.is] using Ne.symm htext.1
  · simpa [Lexeme.is] using Ne.symm htext.2
  · rfl

/-! ## Rules -/

theorem Rule.bind_assoc {α β γ : Type} (r : Rule α) (f : α → Rule β) (g : β → Rule γ) :
    r >>= f >>= g = r >>= fun a => f a >>= g := by
  funext c
  show Rule.bind (Rule.bind r f) g c = Rule.bind r (fun a => Rule.bind (f a) g) c
  unfold Rule.bind
  cases r c <;> rfl

/-- The rule reads some lexemes as a result and leaves the rest ahead. -/
def Reads {α : Type} (r : Rule α) (ls : List Lexeme) (a : α) (rest : List Lexeme) : Prop :=
  ∀ c : Cursor, c.ahead.map Token.lexeme = ls →
    ∃ c', r c = .read a c' ∧ c'.ahead.map Token.lexeme = rest

/-- The rule does not apply to some lexemes. -/
def Refuses {α : Type} (r : Rule α) (ls : List Lexeme) : Prop :=
  ∀ c : Cursor, c.ahead.map Token.lexeme = ls → ∃ far, r c = .stuck far

namespace Reads

open Rule

variable {α β : Type} {l : Lexeme} {ls mid rest : List Lexeme} {a : α} {b : β}

theorem pure : Reads (Pure.pure a) ls a ls := fun c hc => ⟨c, rfl, hc⟩

theorem bind {r : Rule α} {f : α → Rule β} (hr : Reads r ls a mid) (hf : Reads (f a) mid b rest) :
    Reads (r >>= f) ls b rest := by
  intro c hc
  obtain ⟨c₁, hc₁, hmid⟩ := hr c hc
  obtain ⟨c₂, hc₂, hrest⟩ := hf c₁ hmid
  refine ⟨c₂, ?_, hrest⟩
  show Rule.bind r f c = _
  rw [Rule.bind, hc₁]
  exact hc₂

theorem peek {f : Token → Rule α} (hl : l.isSound = true)
    (h : ∀ t : Token, t.lexeme = l → Reads (f t) (l :: ls) a rest) :
    Reads (Rule.peek >>= f) (l :: ls) a rest := by
  rintro ⟨ahead, far, last⟩ hc
  obtain ⟨t, ts, rfl, rfl, rfl⟩ := List.map_eq_cons_iff.mp hc
  have hpeek : Rule.peek ⟨t :: ts, far, last⟩ = .read t ⟨t :: ts, max far t.index, last⟩ := by
    simp only [Lexeme.isSound, Token.lexeme] at hl
    unfold Rule.peek
    split at hl <;> simp_all
  obtain ⟨c', hc', hrest⟩ := h t rfl ⟨t :: ts, max far t.index, last⟩ rfl
  refine ⟨c', ?_, hrest⟩
  show Rule.bind Rule.peek f _ = _
  rw [Rule.bind, hpeek]
  exact hc'

theorem peekSecond {l' : Lexeme} {f : Token → Rule α} (hl : l'.isSound = true)
    (h : ∀ t : Token, t.lexeme = l' → Reads (f t) (l :: l' :: ls) a rest) :
    Reads (Rule.peekSecond >>= f) (l :: l' :: ls) a rest := by
  rintro ⟨ahead, far, last⟩ hc
  obtain ⟨t, ts, rfl, rfl, hts⟩ := List.map_eq_cons_iff.mp hc
  obtain ⟨u, us, rfl, rfl, rfl⟩ := List.map_eq_cons_iff.mp hts
  have hpeek : Rule.peekSecond ⟨t :: u :: us, far, last⟩
      = .read u ⟨t :: u :: us, max far u.index, last⟩ := by
    simp only [Lexeme.isSound, Token.lexeme] at hl
    unfold Rule.peekSecond
    split at hl <;> simp_all
  obtain ⟨c', hc', hrest⟩ := h u rfl ⟨t :: u :: us, max far u.index, last⟩ rfl
  refine ⟨c', ?_, hrest⟩
  show Rule.bind Rule.peekSecond f _ = _
  rw [Rule.bind, hpeek]
  exact hc'

theorem advance : Reads Rule.advance (l :: ls) () ls := by
  rintro ⟨ahead, far, last⟩ hc
  obtain ⟨t, ts, rfl, rfl, rfl⟩ := List.map_eq_cons_iff.mp hc
  cases h : t.kind <;> simp [Rule.advance, h]

/-- A keyword or symbol that is not next is not read. -/
theorem accept_no {text : String} (hl : l.isSound = true) (h : l.is text = false) :
    Reads (accept text) (l :: ls) false (l :: ls) := by
  refine peek hl fun t ht => ?_
  have htext : t.is text = false := by
    subst ht
    exact h
  rw [htext]
  exact pure

theorem accept_yes {text : String} (hl : l.isSound = true) (h : l.is text = true) :
    Reads (accept text) (l :: ls) true ls := by
  refine peek hl fun t ht => ?_
  have htext : t.is text = true := by
    subst ht
    exact h
  rw [htext]
  exact bind advance pure

theorem sees {text : String} (hl : l.isSound = true) :
    Reads (Rule.sees text) (l :: ls) (l.is text) (l :: ls) := by
  refine peek hl fun t ht => ?_
  subst ht
  exact pure

theorem expect {text : String} (hl : l.isSound = true) (h : l.is text = true) :
    Reads (Rule.expect text) (l :: ls) () ls :=
  bind (accept_yes hl h) pure

/-- A token of a kind is read, and what it is does not matter. -/
theorem expectKind {f : Rule α} (hl : l.isSound = true) (hf : Reads f ls a rest) :
    Reads (Rule.expectKind l.kind >>= fun _ => f) (l :: ls) a rest := by
  rw [Rule.expectKind, Rule.bind_assoc]
  refine peek hl fun t ht => ?_
  have hkind : (t.kind == l.kind) = true := by
    subst ht
    exact beq_self_eq_true t.kind
  rw [hkind]
  exact bind (bind advance pure) hf

theorem name {n : String} (hl : l.isSound = true) (h : l.name? = some n) :
    Reads Rule.name (l :: ls) n ls := by
  refine peek hl fun t ht => ?_
  have htext : t.name? = some n := by
    subst ht
    exact h
  rw [htext]
  exact bind advance pure

/-- A branch that is left out because a keyword or symbol is not next. -/
theorem otherwise {text : String} {p q : Rule α} (hl : l.isSound = true) (h : l.is text = false)
    (hq : Reads q (l :: ls) a rest) :
    Reads (do if ← accept text then p else q) (l :: ls) a rest :=
  bind (accept_no hl h) hq

/-- A branch that is taken because a keyword or symbol is next. -/
theorem after {text : String} {p q : Rule α} (hl : l.isSound = true) (h : l.is text = true)
    (hp : Reads p ls a rest) :
    Reads (do if ← accept text then p else q) (l :: ls) a rest :=
  bind (accept_yes hl h) hp

/-! ## Repetition -/

theorem foldFrom_stop {p : α → Rule (Option α)} (h : Reads (p a) ls none rest) (fuel : Nat) :
    Reads (foldFrom p a (fuel + 1)) ls a rest :=
  bind h pure

theorem foldFrom_step {p : α → Rule (Option α)} {a' a'' : α} {fuel : Nat}
    (h : Reads (p a) ls (some a') mid) (hrest : Reads (foldFrom p a' fuel) mid a'' rest) :
    Reads (foldFrom p a (fuel + 1)) ls a'' rest :=
  bind h hrest

/-- As many rounds as there are tokens ahead. -/
theorem sized {r : Nat → Rule α} (h : Reads (r (ls.length + 1)) ls a rest) :
    Reads (fun c => r (c.ahead.length + 1) c) ls a rest := by
  intro c hc
  have hlength : c.ahead.length = ls.length := by rw [← hc, List.length_map]
  show ∃ c', r (c.ahead.length + 1) c = .read a c' ∧ _
  rw [hlength]
  exact h c hc

theorem fold {p : α → Rule (Option α)} {a' : α}
    (h : Reads (foldFrom p a (ls.length + 1)) ls a' rest) : Reads (Rule.fold p a) ls a' rest :=
  sized h

theorem many {p : Rule (Option α)} {as : List α}
    (h : Reads (manyFrom p [] (ls.length + 1)) ls as rest) : Reads (Rule.many p) ls as rest :=
  sized h

/-- Nothing is repeated. -/
theorem many_nil {p : Rule (Option α)} (h : Reads p ls none rest) : Reads (Rule.many p) ls [] rest :=
  many (bind h pure)

/-- Something is read once. -/
theorem many_one {p : Rule (Option α)} (mid : List Lexeme) (h : Reads p (l :: ls) (some a) mid)
    (hstop : Reads p mid none rest) : Reads (Rule.many p) (l :: ls) [a] rest :=
  many (bind h (bind hstop pure))

end Reads

/-! ## Operands -/

namespace Grammar

open Rule Reads

variable {b : Below} {l u : Lexeme} {ls rest : List Lexeme} {e : Expr}

/-- At the end of an operand no keyword or symbol is read but those that end one. -/
theorem reads_otherwise {α : Type} {a : α} {text : String} {p q : Rule α} (hu : u.isEnd = true)
    (htext : text ∉ [",", ")"]) (hq : Reads q (u :: ls) a rest) :
    Reads (do if ← accept text then p else q) (u :: ls) a rest :=
  otherwise (Lexeme.isSound_of_isEnd hu) (Lexeme.is_of_isEnd hu htext) hq

theorem reads_leftChain {ops : List (String × BinaryOp)} {operand : Rule Expr}
    (hu : u.isEnd = true) (hops : ∀ op ∈ ops, op.1 ∉ [",", ")"])
    (h : Reads operand ls e (u :: rest)) : Reads (leftChain ops operand) ls e (u :: rest) := by
  refine bind h (fold (foldFrom_stop (peek (Lexeme.isSound_of_isEnd hu) fun t ht => ?_) _))
  have hnone : ops.find? (fun op => t.is op.1) = none := by
    refine List.find?_eq_none.mpr fun op hop => ?_
    subst ht
    exact Bool.eq_false_iff.mp (Lexeme.is_of_isEnd hu (hops op hop))
  rw [hnone]
  exact pure

theorem reads_bitOr (hu : u.isEnd = true) (h : Reads (factor b) ls e (u :: rest)) :
    Reads (bitOr b) ls e (u :: rest) := by
  refine reads_leftChain hu (by decide) (reads_leftChain hu (by decide)
    (reads_leftChain hu (by decide) (reads_leftChain hu (by decide)
    (reads_leftChain hu (by decide) (reads_leftChain hu (by decide) h)))))

theorem reads_compareOp? (hu : u.isEnd = true) :
    Reads compareOp? (u :: rest) none (u :: rest) := by
  iterate 8 refine reads_otherwise hu (by decide) ?_
  refine bind (sees (Lexeme.isSound_of_isEnd hu)) ?_
  rw [Lexeme.is_of_isEnd hu (by decide)]
  exact pure

theorem reads_comparison (hu : u.isEnd = true) (h : Reads (factor b) ls e (u :: rest)) :
    Reads (comparison b) ls e (u :: rest) :=
  bind (reads_bitOr hu h) (bind (many_nil (bind (reads_compareOp? hu) pure)) pure)

theorem reads_connective {word : String} {op : BoolOp} {operand : Rule Expr} (hu : u.isEnd = true)
    (hword : word ∉ [",", ")"]) (h : Reads operand ls e (u :: rest)) :
    Reads (connective word op operand) ls e (u :: rest) :=
  bind h (bind (many_nil (reads_otherwise hu hword pure)) pure)

theorem is_of_isStart (hl : l.isStart = true) {text : String}
    (htext : text ∈ ["lambda", "not", "+", "-", "~", "await"]) : l.is text = false := by
  simpa using List.all_eq_true.mp (Bool.and_eq_true_iff.mp hl).2 text htext

/-- Before an operand no keyword or symbol is read that could stand in front of one. -/
theorem reads_unprefixed {α : Type} {a : α} {text : String} {p q : Rule α} (hl : l.isStart = true)
    (htext : text ∈ ["lambda", "not", "+", "-", "~", "await"]) (hq : Reads q (l :: ls) a rest) :
    Reads (do if ← accept text then p else q) (l :: ls) a rest :=
  otherwise (Bool.and_eq_true_iff.mp hl).1 (is_of_isStart hl htext) hq

theorem reads_factor (hl : l.isStart = true) (hu : u.isEnd = true)
    (h : Reads (primary b) (l :: ls) e (u :: rest)) : Reads (factor b) (l :: ls) e (u :: rest) := by
  iterate 3 refine reads_unprefixed hl (by decide) ?_
  exact bind (reads_unprefixed hl (by decide) h) (reads_otherwise hu (by decide) pure)

theorem reads_disjunction (hl : l.isStart = true) (hu : u.isEnd = true)
    (h : Reads (primary b) (l :: ls) e (u :: rest)) :
    Reads (disjunction b) (l :: ls) e (u :: rest) := by
  refine reads_connective hu (by decide) (reads_connective hu (by decide) ?_)
  exact reads_unprefixed hl (by decide) (reads_comparison hu (reads_factor hl hu h))

/-- A primary expression at the end of an operand is the whole expression. -/
theorem reads_expression (hl : l.isStart = true) (hu : u.isEnd = true)
    (h : Reads (primary b) (l :: ls) e (u :: rest)) :
    Reads (expression b) (l :: ls) e (u :: rest) := by
  refine bind (sees (Bool.and_eq_true_iff.mp hl).1) ?_
  rw [is_of_isStart hl (by decide)]
  exact bind (reads_disjunction hl hu h) (reads_otherwise hu (by decide) pure)

/-! ## Atoms -/

theorem reads_primary_atom (hu : u.isEnd = true) (h : Reads (atom b) ls e (u :: rest)) :
    Reads (primary b) ls e (u :: rest) := by
  refine bind h (fold (foldFrom_stop ?_ _))
  iterate 3 refine reads_otherwise hu (by decide) ?_
  exact pure

theorem reads_atom_name {w n : String} (hname : Lexeme.name? ⟨.name, w⟩ = some n) :
    Reads (atom b) (⟨.name, w⟩ :: ls) (.name n) ls := by
  refine peek rfl fun t ht => ?_
  have hkind : t.kind = .name := congrArg Lexeme.kind ht
  have hn : t.name? = some n := by
    rw [← hname, ← ht]
    rfl
  simp only [hkind, hn]
  exact bind advance pure

/-- One of adjacent text literals. -/
theorem reads_string {w : String} : Reads (do
    let t ← Rule.peek
    if t.kind == .string then
      Rule.advance
      return some t.text.toList
    else return none) (⟨.string, w⟩ :: ls) (some w.toList) ls := by
  refine peek rfl fun t ht => ?_
  have hkind : t.kind = .string := congrArg Lexeme.kind ht
  have htext : t.text = w := congrArg Lexeme.text ht
  rw [hkind, htext]
  exact bind advance pure

/-- A text literal that no other one follows. -/
theorem reads_atom_string {w : String} (hu : u.isEnd = true)
    (hw : Format.literals? (starExpressions b) [w.toList] = some e) :
    Reads (atom b) (⟨.string, w⟩ :: u :: rest) e (u :: rest) := by
  have hone : Reads (Rule.many do
      let t ← Rule.peek
      if t.kind == .string then
        Rule.advance
        return some t.text.toList
      else return none) (⟨.string, w⟩ :: u :: rest) [w.toList] (u :: rest) := by
    refine many_one (u :: rest) reads_string (peek (Lexeme.isSound_of_isEnd hu) fun t ht => ?_)
    have hkind : t.kind ≠ .string := by
      have hend := Lexeme.kind_of_isEnd hu
      rw [← ht] at hend
      exact hend
    rw [beq_false_of_ne hkind]
    exact pure
  refine peek rfl fun t ht => ?_
  have hkind : t.kind = .string := congrArg Lexeme.kind ht
  simp only [hkind]
  refine bind hone ?_
  rw [hw]
  exact pure

/-- Quotable characters between quotation marks. -/
theorem cut_quoted {w : List Char} (hw : w.all Lexer.isQuotable = true) (hne : w ≠ []) :
    Format.cut ('"' :: (w ++ ['"'])) = ([], w) := by
  obtain ⟨c, w, rfl⟩ := List.exists_cons_of_ne_nil hne
  have hc : '"' ≠ c := by
    have hquotable := (Bool.and_eq_true_iff.mp hw).1
    simp only [Lexer.isQuotable, Bool.and_eq_true, bne_iff_ne] at hquotable
    exact Ne.symm hquotable.1.1
  have halpha : Char.isAlpha '"' = false := rfl
  -- Three quotation marks would have to be told apart from one only in a longer literal.
  cases w with
  | nil => simp [Format.cut, halpha]
  | cons d w => cases w <;> simp [Format.cut, halpha, hc]

theorem literals?_quoted {w : List Char} (hw : w.all Lexer.isQuotable = true) (hne : w ≠ [])
    (rule : Rule Expr) :
    Format.literals? rule [(String.ofList ('"' :: (w ++ ['"']))).toList]
      = some (.constant (.str (String.ofList w) false)) := by
  have hslash : '\\' ∉ w := fun hmem => by
    cases List.all_eq_true.mp hw _ hmem
  simp [Format.literals?, Format.part?, cut_quoted hw hne, hslash, Format.resolve?, Format.combine?]

/-! ## Calls -/

theorem reads_seesNamed {w n text : String} (hname : Lexeme.name? ⟨.name, w⟩ = some n)
    (hl : l.isSound = true) :
    Reads (seesNamed text) (⟨.name, w⟩ :: l :: ls) (l.is text) (⟨.name, w⟩ :: l :: ls) := by
  refine peek rfl fun t ht => ?_
  have hn : t.name?.isSome = true := by
    have hn : t.name? = some n := by
      rw [← hname, ← ht]
      rfl
    rw [hn]
    rfl
  rw [hn]
  refine peekSecond hl fun u hu => ?_
  subst hu
  exact pure

/-- An argument that is given by name. -/
theorem reads_argument {w n : String} (hname : Lexeme.name? ⟨.name, w⟩ = some n)
    (hw : w ∉ ["**", "*", ")"]) (args : Arguments) (h : Reads b.expression ls e rest) :
    Reads (argument b args) (⟨.name, w⟩ :: ⟨.symbol, "="⟩ :: ls)
      { args with keywords := .mk (some n) e :: args.keywords, sawKeyword := true } rest := by
  simp only [List.mem_cons, List.not_mem_nil, or_false, not_or] at hw
  refine otherwise rfl (by simp [Lexeme.is, hw]) (otherwise rfl (by simp [Lexeme.is, hw]) ?_)
  refine bind (reads_seesNamed hname rfl) ?_
  exact bind (name rfl hname) (bind advance (bind h pure))

theorem reads_arguments_last {args args' : Arguments} {w : String} (hw : w ≠ ")")
    (h : Reads (argument b args) (⟨.name, w⟩ :: ls) args' (⟨.symbol, ")"⟩ :: rest)) (fuel : Nat) :
    Reads (arguments b (fuel + 1) args) (⟨.name, w⟩ :: ls) args' rest := by
  refine otherwise rfl (by simp [Lexeme.is, hw]) (bind h ?_)
  exact otherwise rfl (by decide) (bind (expect rfl (by decide)) pure)

theorem reads_arguments_more {args args' args'' : Arguments} {w : String} {fuel : Nat}
    {mid : List Lexeme} (hw : w ≠ ")")
    (h : Reads (argument b args) (⟨.name, w⟩ :: ls) args' (⟨.symbol, ","⟩ :: mid))
    (hmore : Reads (arguments b fuel args') mid args'' rest) :
    Reads (arguments b (fuel + 1) args) (⟨.name, w⟩ :: ls) args'' rest :=
  otherwise rfl (by simp [Lexeme.is, hw]) (bind h (after rfl (by decide) hmore))

/-- The first argument is given by name. -/
theorem reads_callArguments {w n : String} {args : Arguments}
    (hname : Lexeme.name? ⟨.name, w⟩ = some n) (hw : w ∉ ["**", "*", ")"])
    (h : Reads (arguments b (ls.length + 3) ⟨[], [], false, false⟩)
      (⟨.name, w⟩ :: ⟨.symbol, "="⟩ :: ls) args rest) :
    Reads (callArguments b) (⟨.name, w⟩ :: ⟨.symbol, "="⟩ :: ls) args rest := by
  simp only [List.mem_cons, List.not_mem_nil, or_false, not_or] at hw
  have hstars : Reads (seesAny ["*", "**"]) (⟨.name, w⟩ :: ⟨.symbol, "="⟩ :: ls) false
      (⟨.name, w⟩ :: ⟨.symbol, "="⟩ :: ls) := by
    refine peek rfl fun t ht => ?_
    have hany : ["*", "**"].any t.is = false := by
      show ["*", "**"].any t.lexeme.is = false
      rw [ht]
      simp [Lexeme.is, hw]
    rw [hany]
    exact pure
  refine otherwise rfl (by simp [Lexeme.is, hw]) (bind hstars (bind (reads_seesNamed hname rfl) ?_))
  exact sized (r := fun fuel => arguments b fuel ⟨[], [], false, false⟩) h

/-- A call of an attribute at the end of an operand. -/
theorem reads_primary_call {v f n m : String} {args : Arguments} (hu : u.isEnd = true)
    (hv : Lexeme.name? ⟨.name, v⟩ = some n) (hf : Lexeme.name? ⟨.name, f⟩ = some m)
    (h : Reads (callArguments b) ls args (u :: rest)) :
    Reads (primary b) (⟨.name, v⟩ :: ⟨.symbol, "."⟩ :: ⟨.name, f⟩ :: ⟨.symbol, "("⟩ :: ls)
      (.call (.attribute (.name n) m) args.args.reverse args.keywords.reverse) (u :: rest) := by
  refine bind (reads_atom_name hv) (fold (foldFrom_step (after rfl (by decide)
    (bind (name rfl hf) pure)) (foldFrom_step (otherwise rfl (by decide) (after rfl (by decide)
    (bind h pure))) (foldFrom_stop ?_ _))))
  iterate 3 refine reads_otherwise hu (by decide) ?_
  exact pure

/-! ## Whole texts -/

theorem refuses_expect {text : String} (hl : l.isSound = true) (h : l.is text = false) (f : Rule Expr) :
    Refuses (Rule.expect text >>= fun _ => f) (l :: ls) := by
  intro c hc
  obtain ⟨c', hc', -⟩ := accept_no hl h c hc
  refine ⟨c'.far, ?_⟩
  show Rule.bind (Rule.bind (accept text) _) _ c = _
  rw [Rule.bind, Rule.bind, hc']
  rfl

theorem reads_option {r : Rule Expr} (h : Refuses r ls) : Reads (Rule.option r) ls none ls := by
  intro c hc
  obtain ⟨far, hfar⟩ := h c hc
  refine ⟨{ c with far := max c.far far }, ?_, hc⟩
  rw [Rule.option, hfar]

/-- One item up to the end of the text. -/
theorem reads_tupleOf {item : Rule Expr} (h : Reads item ls e [⟨.finish, ""⟩]) :
    Reads (tupleOf item) ls e [⟨.finish, ""⟩] := by
  have hlist : Reads (commaList item) ls ([e], false) [⟨.finish, ""⟩] := by
    refine bind h (bind (many_nil (reads_option (refuses_expect rfl rfl _))) ?_)
    exact bind (accept_no rfl rfl) pure
  exact bind hlist pure

/-- An expression that is the whole text. -/
theorem reads_single {size : Nat} (h : Reads (rules size).expression ls e [⟨.finish, ""⟩]) :
    Reads (single size) ls e [] := by
  have hlines : Reads (Rule.many do
      let t ← Rule.peek
      if t.kind == .newline then
        Rule.advance
        return some ()
      else return none) [⟨.finish, ""⟩] [] [⟨.finish, ""⟩] := by
    refine many_nil (peek rfl fun t ht => ?_)
    have hkind : t.kind = .finish := congrArg Lexeme.kind ht
    rw [hkind]
    exact pure
  refine bind (reads_tupleOf h) (bind hlines ?_)
  exact Reads.expectKind (l := ⟨.finish, ""⟩) rfl pure

end Grammar

/-- A text without line breaks is read as an expression if its lexemes are. -/
theorem parseExpr_of_reads {source : String} {ls : List Lexeme} {e : Expr}
    (hbreaks : '\r' ∉ source.toList) (hnul : '\x00' ∉ source.toList)
    (hls : (tokens source.toList).map Token.lexeme = ls)
    (h : Reads (Grammar.rules (source.toList.length + 2)).expression ls e [⟨.finish, ""⟩]) :
    parseExpr source = .ok e := by
  obtain ⟨c', hc', -⟩ := Grammar.reads_single h ⟨tokens source.toList, 0, 0⟩ hls
  simp only [parseExpr, apply, Text.unifyBreaks_of_not_mem hbreaks, hc']
  rw [if_neg (by simpa using hnul)]

end Docsmith.Source
