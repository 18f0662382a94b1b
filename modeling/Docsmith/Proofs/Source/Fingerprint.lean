-- SUMMARY: What the fingerprint of a signature tells apart.
import Docsmith.Proofs.Source.Separator
import Docsmith.Source.Fingerprint

/-!
# What fingerprints tell apart

The text that stands for a signature joins the name, the parameters, the result type
and the decorators by bars. The parts can be told from the text, but not which of them
is what: a result type and a first decorator look alike, and so do a last base and a
first decorator. So signatures are told apart exactly up to where decorators begin.
-/

namespace Docsmith.Source

/-! ## Expressions without formatted texts -/

mutual

/-- The expression holds no formatted text, its names are names, and its connectives have
    operands. -/
def Expr.isUnformatted : Expr → Bool
  | .boolOp _ values => !values.isEmpty && allUnformatted values
  | .named target value => target.isUnformatted && value.isUnformatted
  | .binary left _ right => left.isUnformatted && right.isUnformatted
  | .unary _ operand => operand.isUnformatted
  | .lambda params body => params.isUnformatted && body.isUnformatted
  | .ifElse test body orelse => test.isUnformatted && body.isUnformatted && orelse.isUnformatted
  | .dict items => itemsUnformatted items
  | .set elts => allUnformatted elts
  | .listComp elt clauses => elt.isUnformatted && clausesUnformatted clauses
  | .setComp elt clauses => elt.isUnformatted && clausesUnformatted clauses
  | .dictComp key value clauses =>
    key.isUnformatted && value.isUnformatted && clausesUnformatted clauses
  | .generator elt clauses => elt.isUnformatted && clausesUnformatted clauses
  | .await value => value.isUnformatted
  | .yield value => optionUnformatted value
  | .yieldFrom value => value.isUnformatted
  | .compare left rest => left.isUnformatted && comparandsUnformatted rest
  | .call func args keywords =>
    func.isUnformatted && allUnformatted args && keywordsUnformatted keywords
  | .formatted _ _ _ => false
  | .joined _ => false
  | .constant _ => true
  | .attribute value attr => value.isUnformatted && Lexer.isName attr.toList
  | .subscript value index => value.isUnformatted && index.isUnformatted
  | .starred value => value.isUnformatted
  | .name id => Lexer.isName id.toList
  | .list elts => allUnformatted elts
  | .tuple elts => allUnformatted elts
  | .slice lower upper step =>
    optionUnformatted lower && optionUnformatted upper && optionUnformatted step

/-- No expression holds a formatted text. -/
def allUnformatted : List Expr → Bool
  | [] => true
  | e :: es => e.isUnformatted && allUnformatted es

/-- An expression that may be left out holds no formatted text. -/
def optionUnformatted : Option Expr → Bool
  | none => true
  | some e => e.isUnformatted

/-- No comparison holds a formatted text. -/
def comparandsUnformatted : List Comparand → Bool
  | [] => true
  | .mk _ right :: rest => right.isUnformatted && comparandsUnformatted rest

/-- No entry of a dictionary display holds a formatted text. -/
def itemsUnformatted : List DictItem → Bool
  | [] => true
  | .pair key value :: items => key.isUnformatted && value.isUnformatted && itemsUnformatted items
  | .spread value :: items => value.isUnformatted && itemsUnformatted items

/-- No clause of a comprehension holds a formatted text. -/
def clausesUnformatted : List Clause → Bool
  | [] => true
  | .mk _ target iter conditions :: rest =>
    target.isUnformatted && iter.isUnformatted && allUnformatted conditions
      && clausesUnformatted rest

/-- No named argument holds a formatted text. -/
def keywordsUnformatted : List Keyword → Bool
  | [] => true
  | .mk name value :: rest =>
    name.all (Lexer.isName ·.toList) && value.isUnformatted && keywordsUnformatted rest

/-- The parameter holds no formatted text. -/
def Param.isUnformatted : Param → Bool
  | .mk name type value =>
    Lexer.isName name.toList && optionUnformatted type && optionUnformatted value

/-- No parameter holds a formatted text. -/
def paramsUnformatted : List Param → Bool
  | [] => true
  | p :: ps => p.isUnformatted && paramsUnformatted ps

/-- A parameter that may be left out holds no formatted text. -/
def restUnformatted : Option Param → Bool
  | none => true
  | some p => p.isUnformatted

/-- The parameter list holds no formatted text. -/
def Params.isUnformatted : Params → Bool
  | .mk positional regular rest named namedRest =>
    paramsUnformatted positional && paramsUnformatted regular && restUnformatted rest
      && paramsUnformatted named && restUnformatted namedRest

end

/-! ## Their texts -/

variable {s t : String} {ts : List String}

/-- All texts are read as a whole. -/
def AllComplete (ts : List String) : Prop := ∀ t ∈ ts, Completes t

/-- Texts that are read as a whole, one for each of so many things. -/
def CompleteTexts (n : Nat) (ts : List String) : Prop := ts.length = n ∧ AllComplete ts

theorem CompleteTexts.nil : CompleteTexts 0 [] := ⟨rfl, List.forall_mem_nil _⟩

theorem CompleteTexts.cons {n : Nat} (ht : Completes t) (h : CompleteTexts n ts) :
    CompleteTexts (n + 1) (t :: ts) :=
  ⟨congrArg (· + 1) h.1, List.forall_mem_cons.mpr ⟨ht, h.2⟩⟩

theorem passes_commaList (h : AllComplete ts) : Passes (", ".intercalate ts) :=
  Passes.intercalate (by decide) h

theorem continues_commaList (h : AllComplete ts) : Continues (", ".intercalate ts) := by
  cases ts with
  | nil => exact continues_empty
  | cons t ts => exact (Completes.intercalate (by decide) (List.cons_ne_nil t ts) h).continues

/-- A text between brackets is read as a whole. -/
theorem Passes.between (h : Passes t) {l r : String} (hl : Passes l) (hr : Completes r) :
    Completes (l ++ t ++ r) :=
  (hl.append h).completes hr

theorem completes_commas (hne : ts ≠ []) (h : AllComplete ts) : Completes (commas ts) := by
  unfold commas
  split
  · exact (h _ List.mem_cons_self).passes.completes (by decide)
  · exact Completes.intercalate (by decide) hne h

/-- The sign of an operator stands between blanks. -/
theorem completes_binary {l r : String} (op : BinaryOp) (hl : Completes l) (hr : Completes r) :
    Completes (l ++ " " ++ op.sign ++ " " ++ r) := by
  have hsign : Passes (" " ++ op.sign ++ " ") := by cases op <;> decide
  have htext := (hl.passes.append hsign).completes hr
  simpa only [String.append_assoc] using htext

theorem continues_comparand {r rest : String} (op : CompareOp) (hr : Completes r)
    (hrest : Continues rest) : Continues (" " ++ op.sign ++ " " ++ r ++ rest) := by
  have hsign : Passes (" " ++ op.sign ++ " ") := by cases op <;> decide
  exact ((hsign.completes hr).append hrest).continues

/-- The text of an expression that may be left out, with a mark before it. -/
def markedText (mark : String) : Option Expr → Printed
  | none => .ok ""
  | some e => (mark ++ ·) <$> e.print false Strength.test

theorem stepText_eq (e : Option Expr) : stepText false e = markedText ":" e := by
  cases e <;> rfl

theorem print_param (name : String) (type value : Option Expr) :
    (Param.mk name type value).print false = do
      let a ← markedText ": " type
      let d ← markedText "=" value
      return name ++ a ++ d := by
  cases type <;> cases value <;> rw [Param.print] <;> rfl

/-- The text of a parameter that takes what is left, or what stands in its place. -/
def restTexts (mark : String) (otherwise : List String) :
    Option Param → Except PrintFault (List String)
  | none => .ok otherwise
  | some p => (fun t => [mark ++ t]) <$> p.print false

theorem print_params (positional regular : List Param) (rest : Option Param) (named : List Param)
    (namedRest : Option Param) :
    (Params.mk positional regular rest named namedRest).print false = do
      let ps ← printParams false positional
      let rs ← printParams false regular
      let star ← restTexts "*" (if named.isEmpty then [] else ["*"]) rest
      let ns ← printParams false named
      let last ← restTexts "**" [] namedRest
      let slash := if ps.isEmpty then [] else ["/"]
      return ", ".intercalate (ps ++ slash ++ rs ++ star ++ ns ++ last) := by
  cases rest <;> cases namedRest <;> rw [Params.print] <;> rfl

/-- A comprehension between brackets. -/
theorem completes_comprehension {l cs r : String} (hl : Passes l) (ht : Completes t)
    (hcs : Continues cs) (hr : Completes r) : Completes (l ++ t ++ cs ++ r) :=
  ((hl.completes ht).append hcs).passes.completes hr

/-- The conditions of a clause. -/
theorem continues_conditions (h : AllComplete ts) :
    Continues (String.join (ts.map (" if " ++ ·))) := by
  induction ts with
  | nil => exact continues_empty
  | cons t ts ih =>
    obtain ⟨ht, hts⟩ := List.forall_mem_cons.mp h
    rw [List.map_cons, String.join_cons]
    exact (((by decide : Passes " if ").completes ht).append (ih hts)).continues

mutual

/-- The text of an expression without formatted texts is read as a whole. -/
theorem Expr.completes_print : ∀ (e : Expr) (outer : Strength), e.isUnformatted = true →
    Gives Completes (e.print false outer)
  | .boolOp op values, outer, h => by
    simp only [Expr.isUnformatted, Bool.and_eq_true, Bool.not_eq_true'] at h
    rw [Expr.print]
    refine (completes_printRising values op.strength h.2).bind fun ts hts => .pure ?_
    have hsep : Passes (" " ++ op.word ++ " ") := by cases op <;> decide
    have hne : ts ≠ [] := by
      rintro rfl
      obtain rfl := List.length_eq_zero_iff.mp hts.1.symm
      cases h.1
    exact (Completes.intercalate hsep hne hts.2).wrap _ _
  | .named target value, outer, h => by
    simp only [Expr.isUnformatted, Bool.and_eq_true] at h
    rw [Expr.print]
    refine (target.completes_print Strength.atom h.1).bind fun l hl => ?_
    refine (value.completes_print Strength.atom h.2).bind fun r hr => .pure ?_
    exact ((hl.passes.append (by decide)).completes hr).wrap _ _
  | .binary left op right, outer, h => by
    simp only [Expr.isUnformatted, Bool.and_eq_true] at h
    rw [Expr.print]
    refine (left.completes_print _ h.1).bind fun l hl => ?_
    refine (right.completes_print _ h.2).bind fun r hr => .pure ?_
    exact (completes_binary op hl hr).wrap _ _
  | .unary op operand, outer, h => by
    rw [Expr.print]
    refine (operand.completes_print op.strength h).bind fun t ht => .pure ?_
    have hsign : Passes op.sign := by cases op <;> decide
    exact (hsign.completes ht).wrap _ _
  | .lambda params body, outer, h => by
    simp only [Expr.isUnformatted, Bool.and_eq_true] at h
    rw [Expr.print]
    refine (params.continues_print h.1).bind fun ps hps => ?_
    refine (body.completes_print Strength.test h.2).bind fun t ht => .pure ?_
    have hparams : Passes ("lambda" ++ (if ps.isEmpty then "" else " " ++ ps)) := by
      split
      · decide
      · exact (by decide : Passes "lambda").append ((by decide : Passes " ").append hps.1)
    exact ((hparams.append (by decide)).completes ht).wrap _ _
  | .ifElse test body orelse, outer, h => by
    simp only [Expr.isUnformatted, Bool.and_eq_true] at h
    rw [Expr.print]
    refine (body.completes_print _ h.1.2).bind fun b hb => ?_
    refine (test.completes_print _ h.1.1).bind fun t ht => ?_
    refine (orelse.completes_print _ h.2).bind fun e he => .pure ?_
    have htest := (hb.passes.append (by decide : Passes " if ")).append ht.passes
    exact ((htest.append (by decide : Passes " else ")).completes he).wrap _ _
  | .dict items, outer, h => by
    rw [Expr.print]
    refine (completes_printItems items h).bind fun ts hts => .pure ?_
    exact (passes_commaList hts).between (by decide) (by decide)
  | .set elts, outer, h => by
    rw [Expr.print]
    refine (completes_printAll elts Strength.test h).bind fun ts hts => .pure ?_
    split
    · decide
    · exact (passes_commaList hts.2).between (by decide) (by decide)
  | .listComp elt clauses, outer, h => by
    simp only [Expr.isUnformatted, Bool.and_eq_true] at h
    rw [Expr.print]
    refine (elt.completes_print _ h.1).bind fun t ht => ?_
    refine (continues_printClauses clauses h.2).bind fun cs hcs => .pure ?_
    exact completes_comprehension (by decide) ht hcs (by decide)
  | .setComp elt clauses, outer, h => by
    simp only [Expr.isUnformatted, Bool.and_eq_true] at h
    rw [Expr.print]
    refine (elt.completes_print _ h.1).bind fun t ht => ?_
    refine (continues_printClauses clauses h.2).bind fun cs hcs => .pure ?_
    exact completes_comprehension (by decide) ht hcs (by decide)
  | .dictComp key value clauses, outer, h => by
    simp only [Expr.isUnformatted, Bool.and_eq_true] at h
    rw [Expr.print]
    refine (key.completes_print _ h.1.1).bind fun k hk => ?_
    refine (value.completes_print _ h.1.2).bind fun v hv => ?_
    refine (continues_printClauses clauses h.2).bind fun cs hcs => .pure ?_
    have hkey := ((by decide : Passes "\x7b").append hk.passes).append (by decide : Passes ": ")
    exact completes_comprehension hkey hv hcs (by decide)
  | .generator elt clauses, outer, h => by
    simp only [Expr.isUnformatted, Bool.and_eq_true] at h
    rw [Expr.print]
    refine (elt.completes_print _ h.1).bind fun t ht => ?_
    refine (continues_printClauses clauses h.2).bind fun cs hcs => .pure ?_
    exact completes_comprehension (by decide) ht hcs (by decide)
  | .await value, outer, h => by
    rw [Expr.print]
    refine (value.completes_print _ h).bind fun t ht => .pure ?_
    exact ((by decide : Passes "await ").completes ht).wrap _ _
  | .yield none, outer, _ => by
    rw [Expr.print]
    exact .pure (Completes.wrap (by decide) _ _)
  | .yield (some value), outer, h => by
    rw [Expr.print]
    refine (value.completes_print _ h).bind fun t ht => .pure ?_
    exact ((by decide : Passes "yield ").completes ht).wrap _ _
  | .yieldFrom value, outer, h => by
    rw [Expr.print]
    refine (value.completes_print _ h).bind fun t ht => .pure ?_
    exact ((by decide : Passes "yield from ").completes ht).wrap _ _
  | .compare left rest, outer, h => by
    simp only [Expr.isUnformatted, Bool.and_eq_true] at h
    rw [Expr.print]
    refine (left.completes_print _ h.1).bind fun l hl => ?_
    refine (continues_printComparands rest h.2).bind fun r hr => .pure ?_
    exact (hl.append hr).wrap _ _
  | .call func args keywords, outer, h => by
    simp only [Expr.isUnformatted, Bool.and_eq_true] at h
    rw [Expr.print]
    refine (func.completes_print _ h.1.1).bind fun f hf => ?_
    refine (completes_printAll args _ h.1.2).bind fun as has => ?_
    refine (completes_printKeywords keywords h.2).bind fun ks hks => .pure ?_
    have hargs := passes_commaList (List.forall_mem_append.mpr ⟨has.2, hks⟩)
    exact hargs.between (hf.passes.append (by decide)) (by decide)
  | .constant c, outer, _ => by
    rw [Expr.print]
    exact .pure (completes_constant c)
  | .attribute value attr, outer, h => by
    simp only [Expr.isUnformatted, Bool.and_eq_true] at h
    rw [Expr.print]
    refine (value.completes_print _ h.1).bind fun v hv => .pure ?_
    have hpoint : Passes (if value.isInteger then " ." else ".") := by split <;> decide
    exact (hv.passes.append hpoint).completes (completes_of_isName h.2)
  | .subscript value index, outer, h => by
    simp only [Expr.isUnformatted, Bool.and_eq_true] at h
    rw [Expr.print]
    refine (value.completes_print _ h.1).bind fun v hv => ?_
    refine (index.completes_print _ h.2).bind fun i hi => .pure ?_
    exact hi.passes.between (hv.passes.append (by decide)) (by decide)
  | .starred value, outer, h => by
    rw [Expr.print]
    refine (value.completes_print _ h).bind fun t ht => .pure ?_
    exact (by decide : Passes "*").completes ht
  | .name id, outer, h => by
    rw [Expr.print]
    exact .pure (completes_of_isName h)
  | .list elts, outer, h => by
    rw [Expr.print]
    refine (completes_printAll elts _ h).bind fun ts hts => .pure ?_
    exact (passes_commaList hts.2).between (by decide) (by decide)
  | .tuple elts, outer, h => by
    rw [Expr.print]
    refine (completes_printAll elts _ h).bind fun ts hts => .pure ?_
    split
    · decide
    · rename_i hne
      exact (completes_commas (by simpa using hne) hts.2).wrap _ _
  | .slice lower upper step, outer, h => by
    simp only [Expr.isUnformatted, Bool.and_eq_true] at h
    rw [print_slice, stepText_eq]
    refine (optionText_passes lower h.1.1).bind fun l hl => ?_
    refine (optionText_passes upper h.1.2).bind fun u hu => ?_
    refine (markedText_continues (by decide) step h.2).bind fun r hr => .pure ?_
    exact ((hl.1.completes (by decide)).append hu.2).append hr

/-- The text of an expression that may be left out. -/
theorem optionText_passes : ∀ (e : Option Expr), optionUnformatted e = true →
    Gives (fun t => Passes t ∧ Continues t) (optionText (·.print false Strength.test) e)
  | none, _ => .pure ⟨by decide, continues_empty⟩
  | some e, h => by
    obtain ⟨t, ht, hcompletes⟩ := e.completes_print Strength.test h
    exact ⟨t, ht, hcompletes.passes, hcompletes.continues⟩

theorem markedText_continues {mark : String} (hmark : Passes mark) : ∀ (e : Option Expr),
    optionUnformatted e = true → Gives Continues (markedText mark e)
  | none, _ => .pure continues_empty
  | some e, h => (e.completes_print Strength.test h).map fun _ ht => (hmark.completes ht).continues

theorem completes_printAll : ∀ (es : List Expr) (outer : Strength), allUnformatted es = true →
    Gives (CompleteTexts es.length) (printAll false outer es)
  | [], _, _ => .pure .nil
  | e :: es, outer, h => by
    simp only [allUnformatted, Bool.and_eq_true] at h
    rw [printAll]
    refine (e.completes_print outer h.1).bind fun t ht => ?_
    exact (completes_printAll es outer h.2).bind fun ts hts => .pure (.cons ht hts)

theorem completes_printRising : ∀ (es : List Expr) (s : Strength), allUnformatted es = true →
    Gives (CompleteTexts es.length) (printRising false s es)
  | [], _, _ => .pure .nil
  | e :: es, s, h => by
    simp only [allUnformatted, Bool.and_eq_true] at h
    rw [printRising]
    refine (e.completes_print s.next h.1).bind fun t ht => ?_
    exact (completes_printRising es s.next h.2).bind fun ts hts => .pure (.cons ht hts)

theorem continues_printComparands : ∀ cs : List Comparand, comparandsUnformatted cs = true →
    Gives Continues (printComparands false cs)
  | [], _ => .pure continues_empty
  | .mk op right :: rest, h => by
    simp only [comparandsUnformatted, Bool.and_eq_true] at h
    rw [printComparands]
    refine (right.completes_print _ h.1).bind fun t ht => ?_
    exact (continues_printComparands rest h.2).bind fun r hr => .pure (continues_comparand op ht hr)

theorem completes_printItems : ∀ items : List DictItem, itemsUnformatted items = true →
    Gives AllComplete (printItems false items)
  | [], _ => .pure (List.forall_mem_nil _)
  | .pair key value :: items, h => by
    simp only [itemsUnformatted, Bool.and_eq_true] at h
    rw [printItems]
    refine (key.completes_print _ h.1.1).bind fun k hk => ?_
    refine (value.completes_print _ h.1.2).bind fun v hv => ?_
    refine (completes_printItems items h.2).bind fun ts hts => .pure ?_
    exact List.forall_mem_cons.mpr ⟨(hk.passes.append (by decide)).completes hv, hts⟩
  | .spread value :: items, h => by
    simp only [itemsUnformatted, Bool.and_eq_true] at h
    rw [printItems]
    refine (value.completes_print _ h.1).bind fun v hv => ?_
    refine (completes_printItems items h.2).bind fun ts hts => .pure ?_
    exact List.forall_mem_cons.mpr ⟨(by decide : Passes "**").completes hv, hts⟩

theorem continues_printClauses : ∀ cs : List Clause, clausesUnformatted cs = true →
    Gives Continues (printClauses false cs)
  | [], _ => .pure continues_empty
  | .mk isAsync target iter conditions :: rest, h => by
    simp only [clausesUnformatted, Bool.and_eq_true] at h
    rw [printClauses]
    refine (target.completes_print _ h.1.1.1).bind fun t ht => ?_
    refine (iter.completes_print _ h.1.1.2).bind fun i hi => ?_
    refine (completes_printAll conditions _ h.1.2).bind fun cs hcs => ?_
    refine (continues_printClauses rest h.2).bind fun r hr => .pure ?_
    have hfor : Passes (if isAsync then " async for " else " for ") := by split <;> decide
    have hhead := ((hfor.append ht.passes).append (by decide : Passes " in ")).completes hi
    exact ((hhead.append (continues_conditions hcs.2)).append hr).continues

theorem completes_printKeywords : ∀ ks : List Keyword, keywordsUnformatted ks = true →
    Gives AllComplete (printKeywords false ks)
  | [], _ => .pure (List.forall_mem_nil _)
  | .mk none value :: rest, h => by
    simp only [keywordsUnformatted, Bool.and_eq_true] at h
    rw [printKeywords]
    refine (value.completes_print _ h.1.2).bind fun v hv => ?_
    refine (completes_printKeywords rest h.2).bind fun ts hts => .pure ?_
    exact List.forall_mem_cons.mpr ⟨(by decide : Passes "**").completes hv, hts⟩
  | .mk (some name) value :: rest, h => by
    simp only [keywordsUnformatted, Bool.and_eq_true] at h
    rw [printKeywords]
    refine (value.completes_print _ h.1.2).bind fun v hv => ?_
    refine (completes_printKeywords rest h.2).bind fun ts hts => .pure ?_
    have hname := (completes_of_isName h.1.1).passes
    exact List.forall_mem_cons.mpr ⟨(hname.append (by decide)).completes hv, hts⟩

theorem Param.completes_print : ∀ p : Param, p.isUnformatted = true →
    Gives Completes (p.print false)
  | .mk name type value, h => by
    simp only [Param.isUnformatted, Bool.and_eq_true] at h
    rw [print_param]
    refine (markedText_continues (by decide) type h.1.2).bind fun a ha => ?_
    refine (markedText_continues (by decide) value h.2).bind fun d hd => .pure ?_
    exact ((completes_of_isName h.1.1).append ha).append hd

theorem completes_printParams : ∀ ps : List Param, paramsUnformatted ps = true →
    Gives AllComplete (printParams false ps)
  | [], _ => .pure (List.forall_mem_nil _)
  | p :: ps, h => by
    simp only [paramsUnformatted, Bool.and_eq_true] at h
    rw [printParams]
    refine (p.completes_print h.1).bind fun t ht => ?_
    refine (completes_printParams ps h.2).bind fun ts hts => .pure ?_
    exact List.forall_mem_cons.mpr ⟨ht, hts⟩

theorem completes_restTexts {mark : String} {otherwise : List String} (hmark : Passes mark)
    (hotherwise : AllComplete otherwise) : ∀ (p : Option Param), restUnformatted p = true →
    Gives AllComplete (restTexts mark otherwise p)
  | none, _ => .pure hotherwise
  | some p, h => (p.completes_print h).map fun _ ht =>
    List.forall_mem_singleton.mpr (hmark.completes ht)

/-- The text of a parameter list is empty or read as a whole. -/
theorem Params.continues_print : ∀ ps : Params, ps.isUnformatted = true →
    Gives (fun t => Passes t ∧ Continues t) (ps.print false)
  | .mk positional regular rest named namedRest, h => by
    have hmark (isLeft : Bool) {mark : String} (h : Completes mark) :
        AllComplete (if isLeft then [] else [mark]) := by
      cases isLeft with
      | true => exact List.forall_mem_nil _
      | false => exact List.forall_mem_singleton.mpr h
    simp only [Params.isUnformatted, Bool.and_eq_true] at h
    rw [print_params]
    refine (completes_printParams positional h.1.1.1.1).bind fun ps hps => ?_
    refine (completes_printParams regular h.1.1.1.2).bind fun rs hrs => ?_
    refine (completes_restTexts (by decide) (hmark _ (by decide)) rest h.1.1.2).bind
      fun star hstar => ?_
    refine (completes_printParams named h.1.2).bind fun ns hns => ?_
    refine (completes_restTexts (by decide) (List.forall_mem_nil _) namedRest h.2).bind
      fun last hlast => .pure ?_
    have hall : AllComplete
        (ps ++ (if ps.isEmpty then [] else ["/"]) ++ rs ++ star ++ ns ++ last) := by
      simp only [AllComplete, List.forall_mem_append]
      exact ⟨⟨⟨⟨⟨hps, hmark _ (by decide)⟩, hrs⟩, hstar⟩, hns⟩, hlast⟩
    exact ⟨passes_commaList hall, continues_commaList hall⟩

end

/-! ## Signatures -/

/-- The texts of the parts of a function's signature. -/
structure FunctionParts where
  name : String
  params : String
  returns : Option String
  decorators : List String
deriving DecidableEq

/-- The texts of the parts of a class's signature. -/
structure ClassParts where
  name : String
  bases : List String
  decorators : List String
deriving DecidableEq

/-- The parts are those of the function. -/
structure FunctionDef.HasParts (f : FunctionDef) (p : FunctionParts) : Prop where
  name : f.name = p.name
  params : f.params.text = .ok p.params
  returns : f.returns.mapM Expr.text = .ok p.returns
  decorators : f.decorators.mapM Expr.text = .ok p.decorators

/-- The parts are those of the class. -/
structure ClassDef.HasParts (c : ClassDef) (p : ClassParts) : Prop where
  name : c.name = p.name
  bases : c.bases.mapM Expr.text = .ok p.bases
  decorators : c.decorators.mapM Expr.text = .ok p.decorators

/-- The signature holds no formatted text, and its names are names. -/
def FunctionDef.isUnformatted (f : FunctionDef) : Bool :=
  Lexer.isName f.name.toList && f.params.isUnformatted && optionUnformatted f.returns
    && allUnformatted f.decorators

/-- The signature holds no formatted text, and its names are names. -/
def ClassDef.isUnformatted (c : ClassDef) : Bool :=
  Lexer.isName c.name.toList && allUnformatted c.bases && allUnformatted c.decorators

theorem completes_texts : ∀ {es : List Expr}, allUnformatted es = true →
    Gives AllComplete (es.mapM Expr.text)
  | [], _ => .pure (List.forall_mem_nil _)
  | e :: es, h => by
    simp only [allUnformatted, Bool.and_eq_true] at h
    rw [List.mapM_cons]
    refine (e.completes_print Strength.test h.1).bind fun t ht => ?_
    refine (completes_texts h.2).bind fun ts hts => .pure ?_
    exact List.forall_mem_cons.mpr ⟨ht, hts⟩

theorem completes_result : ∀ {e : Option Expr}, optionUnformatted e = true →
    Gives (fun r => ∀ t ∈ r.toList, Completes t) (e.mapM Expr.text)
  | none, _ => .pure (List.forall_mem_nil _)
  | some e, h => by
    rw [Option.mapM_some]
    refine (e.completes_print Strength.test h).bind fun t ht => .pure ?_
    exact List.forall_mem_singleton.mpr ht

/-- What is joined of the parts of a function. -/
def FunctionParts.joined (p : FunctionParts) : List String :=
  p.name :: p.params :: (p.returns.toList ++ p.decorators)

/-- What is joined of the parts of a class. -/
def ClassParts.joined (p : ClassParts) : List String := p.name :: (p.bases ++ p.decorators)

theorem FunctionDef.HasParts.signatureText {f : FunctionDef} {p : FunctionParts} (h : f.HasParts p) :
    f.signatureText = .ok ("|".intercalate p.joined) := by
  obtain ⟨name, params, returns, ds⟩ := p
  obtain ⟨rfl, hparams, hreturns, hdecorators⟩ := h
  rw [FunctionDef.signatureText, hparams, hdecorators]
  cases hf : f.returns with
  | none =>
    rw [hf] at hreturns
    cases hreturns
    rfl
  | some e =>
    rw [hf, Option.mapM_some] at hreturns
    obtain ⟨t, ht, heq⟩ := bind_eq_ok.mp hreturns
    cases heq
    simp only [ht]
    rfl

theorem FunctionDef.HasParts.unique {f : FunctionDef} {p q : FunctionParts} (hp : f.HasParts p)
    (hq : f.HasParts q) : p = q := by
  obtain ⟨name, params, returns, ds⟩ := p
  cases hp.name.symm.trans hq.name
  cases hp.params.symm.trans hq.params
  cases hp.returns.symm.trans hq.returns
  cases hp.decorators.symm.trans hq.decorators
  rfl

theorem ClassDef.HasParts.unique {c : ClassDef} {p q : ClassParts} (hp : c.HasParts p)
    (hq : c.HasParts q) : p = q := by
  obtain ⟨name, bases, ds⟩ := p
  cases hp.name.symm.trans hq.name
  cases hp.bases.symm.trans hq.bases
  cases hp.decorators.symm.trans hq.decorators
  rfl

theorem ClassDef.HasParts.signatureText {c : ClassDef} {p : ClassParts} (h : c.HasParts p) :
    c.signatureText = .ok ("|".intercalate p.joined) := by
  rw [ClassDef.signatureText, h.bases, h.decorators, h.name]
  rfl

theorem FunctionDef.exists_hasParts {f : FunctionDef} (h : f.isUnformatted = true) :
    ∃ p, f.HasParts p ∧ ∀ t ∈ p.joined, Continues t := by
  simp only [FunctionDef.isUnformatted, Bool.and_eq_true] at h
  obtain ⟨params, hparams, -, hps⟩ := f.params.continues_print h.1.1.2
  obtain ⟨returns, hreturns, hrs⟩ := completes_result h.1.2
  obtain ⟨ds, hdecorators, hds⟩ := completes_texts h.2
  refine ⟨⟨f.name, params, returns, ds⟩, ⟨rfl, hparams, hreturns, hdecorators⟩, ?_⟩
  simp only [FunctionParts.joined, List.forall_mem_cons, List.forall_mem_append]
  exact ⟨(completes_of_isName h.1.1.1).continues, hps, fun t ht => (hrs t ht).continues,
    fun t ht => (hds t ht).continues⟩

theorem ClassDef.exists_hasParts {c : ClassDef} (h : c.isUnformatted = true) :
    ∃ p, c.HasParts p ∧ ∀ t ∈ p.joined, Continues t := by
  simp only [ClassDef.isUnformatted, Bool.and_eq_true] at h
  obtain ⟨bs, hbases, hbs⟩ := completes_texts h.1.2
  obtain ⟨ds, hdecorators, hds⟩ := completes_texts h.2
  refine ⟨⟨c.name, bs, ds⟩, ⟨rfl, hbases, hdecorators⟩, ?_⟩
  simp only [ClassParts.joined, List.forall_mem_cons, List.forall_mem_append]
  exact ⟨(completes_of_isName h.1.1).continues, fun t ht => (hbs t ht).continues,
    fun t ht => (hds t ht).continues⟩

/-- Parts of which both or neither have a result type are told apart by what is joined. -/
theorem FunctionParts.eq_iff {p q : FunctionParts} (h : p.returns.isSome = q.returns.isSome) :
    p = q ↔ p.name = q.name ∧ p.params = q.params
      ∧ p.returns.toList ++ p.decorators = q.returns.toList ++ q.decorators := by
  obtain ⟨name, params, returns, ds⟩ := p
  obtain ⟨name', params', returns', ds'⟩ := q
  cases returns <;> cases returns' <;> simp_all

theorem ClassParts.eq_iff {p q : ClassParts} (h : p.bases.length = q.bases.length) :
    p = q ↔ p.name = q.name ∧ p.bases ++ p.decorators = q.bases ++ q.decorators := by
  constructor
  · rintro rfl
    exact ⟨rfl, rfl⟩
  · rintro ⟨hname, hjoined⟩
    obtain ⟨hbases, hdecorators⟩ := List.append_inj hjoined h
    obtain ⟨name, bs, ds⟩ := p
    cases hname
    cases hbases
    cases hdecorators
    rfl

/-- The text of a signature tells the name, the parameters, and the result type followed by the
    decorators. It tells apart functions of which both or neither have a result type, and
    classes with equally many bases, and no others. -/
theorem signatureText_eq_iff (f g : FunctionDef) (c d : ClassDef) :
    (f.isUnformatted = true → g.isUnformatted = true →
      ∃ p q s t, f.HasParts p ∧ g.HasParts q ∧ f.signatureText = .ok s ∧ g.signatureText = .ok t
        ∧ (s = t ↔ p.name = q.name ∧ p.params = q.params
          ∧ p.returns.toList ++ p.decorators = q.returns.toList ++ q.decorators)
        ∧ (p.returns.isSome = q.returns.isSome → (s = t ↔ p = q)))
    ∧ (c.isUnformatted = true → d.isUnformatted = true →
      ∃ p q s t, c.HasParts p ∧ d.HasParts q ∧ c.signatureText = .ok s ∧ d.signatureText = .ok t
        ∧ (s = t ↔ p.name = q.name ∧ p.bases ++ p.decorators = q.bases ++ q.decorators)
        ∧ (p.bases.length = q.bases.length → (s = t ↔ p = q))) := by
  constructor
  · intro hf hg
    obtain ⟨p, hp, hparts⟩ := FunctionDef.exists_hasParts hf
    obtain ⟨q, hq, hparts'⟩ := FunctionDef.exists_hasParts hg
    have htexts := intercalate_bar_inj hparts hparts' (List.cons_ne_nil _ _) (List.cons_ne_nil _ _)
    simp only [FunctionParts.joined, List.cons.injEq] at htexts
    exact ⟨p, q, _, _, hp, hq, hp.signatureText, hq.signatureText, htexts,
      fun hreturns => htexts.trans (FunctionParts.eq_iff hreturns).symm⟩
  · intro hc hd
    obtain ⟨p, hp, hparts⟩ := ClassDef.exists_hasParts hc
    obtain ⟨q, hq, hparts'⟩ := ClassDef.exists_hasParts hd
    have htexts := intercalate_bar_inj hparts hparts' (List.cons_ne_nil _ _) (List.cons_ne_nil _ _)
    simp only [ClassParts.joined, List.cons.injEq] at htexts
    exact ⟨p, q, _, _, hp, hq, hp.signatureText, hq.signatureText, htexts,
      fun hbases => htexts.trans (ClassParts.eq_iff hbases).symm⟩

/-- A function without parameters. -/
def constantFunction (returns : Option Expr) (decorators : List Expr) : FunctionDef where
  isAsync := false
  span := ⟨1, 0, 0⟩
  name := "f"
  params := .mk [] [] none [] none
  body := [.pass]
  decorators := decorators
  returns := returns

/-- A class without members. -/
def emptyClass (bases decorators : List Expr) : ClassDef where
  span := ⟨1, 0, 0⟩
  name := "C"
  bases := bases
  keywords := []
  body := [.pass]
  decorators := decorators

/-- A result type and a decorator have the same text, and so have a base and a decorator. -/
theorem decorator_read_as_result_type :
    let f := constantFunction (some (.name "a")) []
    let g := constantFunction none [.name "a"]
    let c := emptyClass [.name "a"] []
    let d := emptyClass [] [.name "a"]
    (f.isUnformatted = true ∧ g.isUnformatted = true
      ∧ ∃ p q, f.HasParts p ∧ g.HasParts q ∧ p ≠ q ∧ f.signatureText = g.signatureText)
    ∧ c.isUnformatted = true ∧ d.isUnformatted = true
      ∧ ∃ p q, c.HasParts p ∧ d.HasParts q ∧ p ≠ q ∧ c.signatureText = d.signatureText := by
  intro f g c d
  have hf : f.HasParts ⟨"f", "", some "a", []⟩ := ⟨rfl, rfl, rfl, rfl⟩
  have hg : g.HasParts ⟨"f", "", none, ["a"]⟩ := ⟨rfl, rfl, rfl, rfl⟩
  have hc : c.HasParts ⟨"C", ["a"], []⟩ := ⟨rfl, rfl, rfl⟩
  have hd : d.HasParts ⟨"C", [], ["a"]⟩ := ⟨rfl, rfl, rfl⟩
  obtain ⟨hfunctions, hclasses⟩ := signatureText_eq_iff f g c d
  refine ⟨⟨by decide, by decide, _, _, hf, hg, by decide, ?_⟩,
    by decide, by decide, _, _, hc, hd, by decide, ?_⟩
  · obtain ⟨p, q, s, t, hp, hq, hs, ht, heq, -⟩ := hfunctions (by decide) (by decide)
    obtain rfl := hp.unique hf
    obtain rfl := hq.unique hg
    rw [hs, ht, heq.mpr ⟨rfl, rfl, rfl⟩]
  · obtain ⟨p, q, s, t, hp, hq, hs, ht, heq, -⟩ := hclasses (by decide) (by decide)
    obtain rfl := hp.unique hc
    obtain rfl := hq.unique hd
    rw [hs, ht, heq.mpr ⟨rfl, rfl⟩]

end Docsmith.Source
