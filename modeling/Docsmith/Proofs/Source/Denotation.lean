-- SUMMARY: Which literals denote a value, and which values their literals denote.
import Docsmith.Proofs.Answer
import Docsmith.Proofs.Value.Keyed
import Docsmith.Source.Denotation

/-!
# Literals that denote a value

A literal denotes a value unless a dictionary in it has a key that no dictionary
can have. Such a key is a list or a dictionary, alone or in a tuple. The literal
of a value denotes that value, entries in order, if no dictionary in it has two
keys that are equal.
-/

namespace Docsmith.Source

mutual

/-- The literal denotes something that may be a key. -/
def Expr.isKeyLiteral : Expr → Bool
  | .list _ => false
  | .dict _ => false
  | .tuple elts => Expr.areKeyLiterals elts
  | _ => true

/-- All of the literals denote something that may be a key. -/
def Expr.areKeyLiterals : List Expr → Bool
  | [] => true
  | e :: es => e.isKeyLiteral && Expr.areKeyLiterals es

end

mutual

/-- The keys of all dictionaries in the literal may be keys. -/
def Expr.isReadable : Expr → Bool
  | .list elts => Expr.areReadable elts
  | .tuple elts => Expr.areReadable elts
  | .dict items => DictItem.areReadable items
  | .unary .minus operand => operand.isReadable
  | _ => true

/-- All of the literals are readable. -/
def Expr.areReadable : List Expr → Bool
  | [] => true
  | e :: es => e.isReadable && Expr.areReadable es

/-- The entries have readable keys, which may be keys, and readable values. -/
def DictItem.areReadable : List DictItem → Bool
  | [] => true
  | .spread _ :: items => DictItem.areReadable items
  | .pair k v :: items =>
    k.isReadable && v.isReadable && k.isKeyLiteral && DictItem.areReadable items

end

theorem isKey_negated (v : Value) : v.negated.isKey = true := by
  cases v <;> rfl

theorem Constant.isKey_value (c : Constant) : c.value.isKey = true := by
  cases c <;> rfl

/-- An expression that is no literal counts as a missing value. -/
theorem Expr.value_of_not_literal {e : Expr} (hconstant : ∀ c, e = .constant c → False)
    (hlist : ∀ es, e = .list es → False) (htuple : ∀ es, e = .tuple es → False)
    (hdict : ∀ items, e = .dict items → False)
    (hminus : ∀ operand, e = .unary .minus operand → False) :
    e.value = .ok .none ∧ e.isKeyLiteral = true ∧ e.isReadable = true := by
  refine ⟨?_, ?_, ?_⟩
  · rw [Expr.value.eq_def]
    split <;> simp_all
  · rw [Expr.isKeyLiteral.eq_def]
    split <;> simp_all
  · rw [Expr.isReadable.eq_def]
    split <;> simp_all

/-- Whether a literal denotes a key can be seen from its form. -/
theorem Expr.isKey_value {e : Expr} {v : Value} (h : e.value = .ok v) :
    v.isKey = e.isKeyLiteral := by
  induction e using Expr.value.induct _ (fun _ _ => True)
    (fun es => ∀ vs, Expr.values es = .ok vs → Value.areKeys vs = Expr.areKeyLiterals es)
    generalizing v with
  | case1 c =>
    obtain rfl := Except.ok.inj h
    exact c.isKey_value
  | case2 es =>
    obtain ⟨vs, -, h⟩ := bind_eq_ok.mp h
    obtain rfl := Except.ok.inj h
    rfl
  | case3 es ih =>
    obtain ⟨vs, hvs, h⟩ := bind_eq_ok.mp h
    obtain rfl := Except.ok.inj h
    exact ih vs hvs
  | case4 items =>
    obtain ⟨es, -, h⟩ := bind_eq_ok.mp h
    obtain rfl := Except.ok.inj h
    rfl
  | case5 operand =>
    obtain ⟨w, -, h⟩ := bind_eq_ok.mp h
    obtain rfl := Except.ok.inj h
    exact isKey_negated w
  | case6 e hconstant hlist htuple hdict hminus =>
    obtain ⟨hvalue, hkey, -⟩ := value_of_not_literal hconstant hlist htuple hdict hminus
    obtain rfl := Except.ok.inj (hvalue.symm.trans h)
    rw [hkey]
    rfl
  | case7 vs hvs =>
    obtain rfl := Except.ok.inj hvs
    rfl
  | case8 e es ihe ihes vs hvs =>
    obtain ⟨v, hv, hvs⟩ := bind_eq_ok.mp hvs
    obtain ⟨ws, hws, hvs⟩ := bind_eq_ok.mp hvs
    obtain rfl := Except.ok.inj hvs
    rw [Value.areKeys, Expr.areKeyLiterals, ihe hv, ihes ws hws]
  | case9 => trivial
  | case10 => trivial
  | case11 => trivial

/-- A literal denotes a value exactly if all keys in it may be keys. -/
theorem Expr.hasAnswer_value (e : Expr) : HasAnswer e.value ↔ e.isReadable = true := by
  induction e using Expr.value.induct _
    (fun items found =>
      HasAnswer (DictItem.addAll items found) ↔ DictItem.areReadable items = true)
    (fun es => HasAnswer (Expr.values es) ↔ Expr.areReadable es = true) with
  | case1 c => simp [Expr.value, Expr.isReadable]
  | case2 es ih =>
    rw [Expr.value, Expr.isReadable, ← ih, hasAnswer_bind_pure]
  | case3 es ih =>
    rw [Expr.value, Expr.isReadable, ← ih, hasAnswer_bind_pure]
  | case4 items ih =>
    rw [Expr.value, Expr.isReadable, ← ih, hasAnswer_bind_pure]
  | case5 operand ih =>
    rw [Expr.value, Expr.isReadable, ← ih, hasAnswer_bind_pure]
  | case6 e hconstant hlist htuple hdict hminus =>
    obtain ⟨hvalue, -, hreadable⟩ := value_of_not_literal hconstant hlist htuple hdict hminus
    rw [hvalue, hreadable]
    simp
  | case7 => simp [Expr.values, Expr.areReadable]
  | case8 e es ihe ihes =>
    rw [Expr.values, Expr.areReadable, Bool.and_eq_true, ← ihe, ← ihes]
    exact hasAnswer_bind_iff_and fun v => hasAnswer_bind_pure
  | case9 found => simp [DictItem.addAll, DictItem.areReadable]
  | case10 value items found ih => rwa [DictItem.addAll, DictItem.areReadable]
  | case11 k v items found ihk ihv ih =>
    rw [DictItem.addAll, DictItem.areReadable]
    simp only [Bool.and_eq_true, hasAnswer_bind, ← ihk, ← ihv]
    constructor
    · rintro ⟨key, hkey, val, hval, h⟩
      split at h
      · rename_i hisKey
        exact ⟨⟨⟨⟨key, hkey⟩, val, hval⟩, isKey_value hkey ▸ hisKey⟩, (ih key val).mp h⟩
      · exact absurd h (not_hasAnswer_error _)
    · rintro ⟨⟨⟨⟨key, hkey⟩, val, hval⟩, hisKey⟩, hitems⟩
      refine ⟨key, hkey, val, hval, ?_⟩
      rw [if_pos ((isKey_value hkey).trans hisKey)]
      exact (ih key val).mpr hitems

end Docsmith.Source

namespace Docsmith

open Source

/-! ## Values and their literals -/

/-- A value that is written as a literal: it is made of missing values, truth values, whole
    numbers, texts, bytes, lists, tuples, and dictionaries in which no two keys are equal. -/
inductive Value.HasLiteral : Value → Prop
  | none : HasLiteral .none
  | bool (b : Bool) : HasLiteral (.bool b)
  | int (n : Int) : HasLiteral (.int n)
  | str (s : String) : HasLiteral (.str s)
  | bytes (bs : List UInt8) : HasLiteral (.bytes bs)
  | list {xs : List Value} : (∀ x ∈ xs, HasLiteral x) → HasLiteral (.list xs)
  | tuple {xs : List Value} : (∀ x ∈ xs, HasLiteral x) → HasLiteral (.tuple xs)
  | dict {es : Entries} : (∀ e ∈ es, HasLiteral e.1) → (∀ e ∈ es, HasLiteral e.2) →
      (∀ e ∈ es, e.1.isKey = true) → es.Pairwise (fun e f => e.1.same f.1 = false) →
      HasLiteral (.dict es)

theorem Keyed.put_of_distinct {β : Type} {es : Keyed β} {key : Value}
    (h : ∀ e ∈ es, e.1.same key = false) (b : β) : es.put key b = es ++ [(key, b)] := by
  apply put_of_get?_eq_none
  rw [get?, Option.map_eq_none_iff, List.find?_eq_none]
  intro e he
  simp [h e he]

/-- The sign of a negative number is read as a minus in front of its size. -/
theorem Value.value_wholeLiteral (n : Int) : (Value.wholeLiteral n).value = .ok (.int n) := by
  cases n with
  | ofNat n => rfl
  | negSucc n => rfl

theorem Value.values_literals {xs : List Value} (h : ∀ x ∈ xs, x.literal.value = .ok x) :
    Expr.values (Value.literals xs) = .ok xs := by
  induction xs with
  | nil => rfl
  | cons x xs ih =>
    obtain ⟨hx, hxs⟩ := List.forall_mem_cons.mp h
    rw [Value.literals, Expr.values, hx, ih hxs]
    rfl

/-- Entries whose keys are new are put behind those that are there. -/
theorem Value.addAll_literalItems {es : Entries} (found : Entries)
    (hkeys : ∀ e ∈ es, e.1.literal.value = .ok e.1)
    (hvalues : ∀ e ∈ es, e.2.literal.value = .ok e.2) (hkey : ∀ e ∈ es, e.1.isKey = true)
    (hdistinct : (found ++ es).Pairwise fun e f => e.1.same f.1 = false) :
    DictItem.addAll (Value.literalItems es) found = .ok (found ++ es) := by
  induction es generalizing found with
  | nil => rw [List.append_nil, Value.literalItems, DictItem.addAll]
  | cons e es ih =>
    obtain ⟨k, v⟩ := e
    obtain ⟨hk, hks⟩ := List.forall_mem_cons.mp hkeys
    obtain ⟨hv, hvs⟩ := List.forall_mem_cons.mp hvalues
    obtain ⟨hisKey, hareKeys⟩ := List.forall_mem_cons.mp hkey
    have hput : found.put k v = found ++ [(k, v)] := by
      apply Keyed.put_of_distinct
      intro e he
      exact (List.pairwise_append.mp hdistinct).2.2 e he (k, v) List.mem_cons_self
    have hrest := ih (found ++ [(k, v)]) hks hvs hareKeys (by simpa using hdistinct)
    rw [Value.literalItems, DictItem.addAll, hk, hv]
    show (if k.isKey then DictItem.addAll (Value.literalItems es) (found.put k v)
      else throw .wrongKind) = _
    rw [if_pos hisKey, hput, hrest]
    simp

/-- The literal of a value denotes that value, with the entries of dictionaries in order. -/
theorem Value.value_literal (v : Value) (h : v.HasLiteral) : v.literal.value = .ok v := by
  induction h with
  | none => rfl
  | bool b => rfl
  | int n => exact Value.value_wholeLiteral n
  | str s => rfl
  | bytes bs => rfl
  | list _ ih =>
    rw [Value.literal, Expr.value, Value.values_literals ih]
    rfl
  | tuple _ ih =>
    rw [Value.literal, Expr.value, Value.values_literals ih]
    rfl
  | dict _ _ hkey hdistinct ihkeys ihvalues =>
    have hitems := Value.addAll_literalItems [] ihkeys ihvalues hkey hdistinct
    rw [Value.literal, Expr.value, hitems]
    rfl

/-- A dictionary with keys of several kinds, one of them a negative number. -/
def Value.mixedKeys : Value :=
  .dict [(.int (-1), .list [.none, .bytes [0]]), (.bool true, .dict []),
    (.tuple [.str "a", .int 1], .str "b")]

theorem Value.mixedKeys_readBack :
    Value.mixedKeys.HasLiteral ∧ Value.mixedKeys.literal.value = .ok Value.mixedKeys := by
  have hpair : ∀ x ∈ [Value.str "a", .int 1], x.HasLiteral := by
    simp [Value.HasLiteral.str, Value.HasLiteral.int]
  have hlist : ∀ x ∈ [Value.none, .bytes [0]], x.HasLiteral := by
    simp [Value.HasLiteral.none, Value.HasLiteral.bytes]
  have hdict : (Value.dict []).HasLiteral := .dict (by simp) (by simp) (by simp) .nil
  have hmixed : Value.mixedKeys.HasLiteral := by
    refine .dict ?_ ?_ (by decide) (by decide)
    · simp [Value.HasLiteral.int, Value.HasLiteral.bool, Value.HasLiteral.tuple hpair]
    · simp [Value.HasLiteral.list hlist, hdict, Value.HasLiteral.str]
  exact ⟨hmixed, Value.value_literal Value.mixedKeys hmixed⟩

end Docsmith
