-- SUMMARY: Which changes of a signature are reported as breaking.
import Docsmith.Proofs.Report.Changes

/-!
# Breaking changes

A changed signature is reported as breaking exactly if a parameter is gone, the
type of a parameter changed, or the type of the result changed. A new parameter
that a caller has to give is not among the reasons: the reader gives every
parameter a default, so it counts as optional. The verdict is that of a rule with
this fourth reason exactly if such a parameter never comes alone.
-/

namespace Docsmith.Report

open Signature (Param)

/-! ## Parameters by name -/

/-- The last parameter with a name. -/
def lastNamed? (ps : List Param) (name : String) : Option Param :=
  ps.reverse.find? fun p => p.name == name

theorem lastNamed?_cons (p : Param) (ps : List Param) (name : String) :
    lastNamed? (p :: ps) name
      = (lastNamed? ps name).or (if p.name = name then some p else none) := by
  rw [lastNamed?, List.reverse_cons, List.find?_append, ← lastNamed?]
  by_cases h : p.name = name <;> simp [h]

theorem lastNamed?_eq_none_iff {ps : List Param} {name : String} :
    lastNamed? ps name = none ↔ ∀ p ∈ ps, p.name ≠ name := by
  simp [lastNamed?]

theorem lastNamed?_eq_some {ps : List Param} {name : String} {p : Param}
    (h : lastNamed? ps name = some p) : p ∈ ps ∧ p.name = name := by
  have hmem := List.mem_of_find?_eq_some h
  have hname := List.find?_some h
  exact ⟨List.mem_reverse.mp hmem, by simpa using hname⟩

theorem param?_putParam (ps : List Param) (p : Param) (name : String) :
    param? (putParam ps p) name = if p.name = name then some p else param? ps name := by
  induction ps with
  | nil => by_cases h : p.name = name <;> simp [putParam, param?, h]
  | cons q ps ih =>
    rw [putParam]
    split
    · rename_i hq
      rw [beq_iff_eq] at hq
      by_cases h : p.name = name
      · simp [param?, h]
      · simp [param?, h, hq]
    · rename_i hq
      rw [param?, List.find?_cons, ← param?, ih]
      by_cases h : p.name = name
      · subst h
        rw [Bool.not_eq_true] at hq
        simp [hq]
      · simp [h, param?, List.find?_cons]

/-- Of the parameters with a name, the last one counts. -/
theorem param?_paramsByName (ps : List Param) (name : String) :
    param? (paramsByName ps) name = lastNamed? ps name := by
  have hfold : ∀ found, param? (ps.foldl putParam found) name
      = (lastNamed? ps name).or (param? found name) := by
    induction ps with
    | nil => exact fun found => rfl
    | cons p ps ih =>
      intro found
      rw [List.foldl_cons, ih, param?_putParam, lastNamed?_cons, Option.or_assoc]
      by_cases h : p.name = name <;> simp [h]
  rw [paramsByName, hfold]
  exact Option.or_none

theorem names_putParam (ps : List Param) (p : Param) :
    (putParam ps p).map (·.name)
      = if p.name ∈ ps.map (·.name) then ps.map (·.name) else ps.map (·.name) ++ [p.name] := by
  induction ps with
  | nil => simp [putParam]
  | cons q ps ih =>
    rw [putParam]
    split
    · rename_i hname
      rw [beq_iff_eq] at hname
      simp [hname]
    · rename_i hname
      rw [beq_iff_eq] at hname
      rw [List.map_cons, ih]
      by_cases h : p.name ∈ ps.map (·.name)
      · rw [if_pos h, List.map_cons, if_pos (List.mem_cons_of_mem _ h)]
      · have hcons : p.name ∉ (q :: ps).map (·.name) := by
          rw [List.map_cons, List.mem_cons, not_or]
          exact ⟨Ne.symm hname, h⟩
        rw [if_neg h, if_neg hcons]
        rfl

theorem names_paramsByName_nodup (ps : List Param) : ((paramsByName ps).map (·.name)).Nodup := by
  have hfold : ∀ found : List Param, (found.map (·.name)).Nodup →
      ((ps.foldl putParam found).map (·.name)).Nodup := by
    induction ps with
    | nil => exact fun found h => h
    | cons p ps ih =>
      intro found h
      apply ih
      rw [names_putParam]
      split
      · exact h
      · rename_i hnew
        rw [← List.concat_eq_append]
        exact h.concat hnew
  exact hfold [] (by simp)

theorem param?_eq_some_of_mem {ps : List Param} (h : (ps.map (·.name)).Nodup) {p : Param}
    (hp : p ∈ ps) : param? ps p.name = some p := by
  induction ps with
  | nil => cases hp
  | cons q ps ih =>
    obtain ⟨hq, hps⟩ := List.nodup_cons.mp h
    obtain rfl | hp := List.mem_cons.mp hp
    · simp [param?]
    · have hne : (q.name == p.name) = false :=
        beq_eq_false_iff_ne.mpr fun heq => hq (List.mem_map.mpr ⟨p, hp, heq.symm⟩)
      rw [param?, List.find?_cons, hne]
      exact ih hps hp

/-- The parameters by name are those that count. -/
theorem mem_paramsByName {ps : List Param} {p : Param} :
    p ∈ paramsByName ps ↔ lastNamed? ps p.name = some p := by
  rw [← param?_paramsByName]
  constructor
  · exact param?_eq_some_of_mem (names_paramsByName_nodup ps)
  · exact List.mem_of_find?_eq_some

/-! ## Differences of signatures -/

open Signature (params returnType)

/-- Some parameter of the old signature is not in the new one. -/
def RemovesParam (old new : String) : Prop :=
  ∃ p ∈ params old, ∀ q ∈ params new, q.name ≠ p.name

/-- A parameter that has a type in both signatures has another one in the new signature. -/
def RetypesParam (old new : String) : Prop :=
  ∃ name p q, lastNamed? (params old) name = some p ∧ lastNamed? (params new) name = some q
    ∧ p.type ≠ "" ∧ q.type ≠ "" ∧ p.type ≠ q.type

/-- The result has a type in both signatures, and another one in the new signature. -/
def RetypesResult (old new : String) : Prop :=
  returnType old ≠ "" ∧ returnType new ≠ "" ∧ returnType old ≠ returnType new

/-- The pieces of a signature between its commas. -/
def pieces (signature : String) : List (List Char) :=
  let cs := Signature.inner signature.toList
  if cs.all Text.isBlank then [] else Signature.piecesFrom 0 [] cs

/-- The parameters are read off these pieces. -/
theorem params_eq (signature : String) :
    params signature = (pieces signature).filterMap Param.ofPiece? := by
  unfold params pieces
  dsimp only
  split <;> rfl

/-- The piece shows a parameter that takes one argument, and gives no default. -/
def IsRequired (piece : List Char) : Prop :=
  (Text.strip piece).head? ≠ some '*' ∧ '=' ∉ piece

/-- The new signature has a parameter that callers have to give, and the old one does not have
    it. -/
def AddsRequired (old new : String) : Prop :=
  ∃ piece ∈ pieces new, ∃ p, Param.ofPiece? piece = some p ∧ IsRequired piece
    ∧ ∀ q ∈ params old, q.name ≠ p.name

/-- What is compared of two functions, given their signatures. -/
structure Callable.Reads (c : Callable) (signature : String) : Prop where
  params : c.params = paramsByName (Signature.params signature)
  returnType : c.returnType = Signature.returnType signature

variable {o n : Callable} {s t : String}

theorem exists_removed_iff (ho : o.Reads s) (hn : n.Reads t) :
    (∃ p ∈ o.params, param? n.params p.name = none) ↔ RemovesParam s t := by
  rw [ho.params, hn.params]
  constructor
  · rintro ⟨p, hp, hnone⟩
    rw [mem_paramsByName] at hp
    rw [param?_paramsByName, lastNamed?_eq_none_iff] at hnone
    exact ⟨p, (lastNamed?_eq_some hp).1, hnone⟩
  · rintro ⟨p, hp, hnone⟩
    have hsome : lastNamed? (Signature.params s) p.name ≠ none := by
      rw [ne_eq, lastNamed?_eq_none_iff]
      exact fun hall => hall p hp rfl
    obtain ⟨last, hlast⟩ := Option.ne_none_iff_exists'.mp hsome
    have hname := (lastNamed?_eq_some hlast).2
    refine ⟨last, mem_paramsByName.mpr (by rw [hname, hlast]), ?_⟩
    rw [param?_paramsByName, lastNamed?_eq_none_iff, hname]
    exact hnone

theorem exists_typeChange_iff (ho : o.Reads s) (hn : n.Reads t) :
    (∃ p ∈ o.params, ∃ d, typeChange? n.params p = some d) ↔ RetypesParam s t := by
  rw [ho.params, hn.params]
  constructor
  · rintro ⟨p, hp, d, hd⟩
    rw [mem_paramsByName] at hp
    rw [typeChange?, param?_paramsByName] at hd
    split at hd
    · cases hd
    · rename_i q hq
      split at hd
      · rename_i htypes
        simp only [Bool.and_eq_true, Bool.not_eq_true', String.isEmpty_eq_false_iff,
          bne_iff_ne] at htypes
        exact ⟨p.name, p, q, hp, hq, htypes.1.1, htypes.1.2, htypes.2⟩
      · cases hd
  · rintro ⟨name, p, q, hp, hq, hold, hnew, hne⟩
    obtain rfl := (lastNamed?_eq_some hp).2
    refine ⟨p, mem_paramsByName.mpr hp, .typeChanged p.name p.type q.type, ?_⟩
    rw [typeChange?, param?_paramsByName, hq]
    simp [hold, hnew, hne]

theorem isBreaking_of_typeChange? {ps : List Param} {p : Param} {d : Detail}
    (h : typeChange? ps p = some d) : d.isBreaking = true := by
  unfold typeChange? at h
  split at h
  · cases h
  · split at h
    · cases h
      rfl
    · cases h

/-- The details of a change break callers exactly for three reasons. -/
theorem any_isBreaking_iff (ho : o.Reads s) (hn : n.Reads t) :
    (details o n).any Detail.isBreaking = true
      ↔ RemovesParam s t ∨ RetypesParam s t ∨ RetypesResult s t := by
  have hgone : ((o.params.filter fun p => (param? n.params p.name).isNone).map
      fun p => Detail.removed p.name).any Detail.isBreaking = true ↔ RemovesParam s t := by
    rw [← exists_removed_iff ho hn]
    simp [Detail.isBreaking]
  have hadded : ((n.params.filter fun p => (param? o.params p.name).isNone).map
      fun p => Detail.addedOptional p.name).any Detail.isBreaking = false := by
    simp [Detail.isBreaking]
  have htypes : (o.params.filterMap (typeChange? n.params)).any Detail.isBreaking = true
      ↔ RetypesParam s t := by
    rw [← exists_typeChange_iff ho hn, List.any_eq_true]
    constructor
    · rintro ⟨d, hd, -⟩
      obtain ⟨p, hp, hd⟩ := List.mem_filterMap.mp hd
      exact ⟨p, hp, d, hd⟩
    · rintro ⟨p, hp, d, hd⟩
      exact ⟨d, List.mem_filterMap.mpr ⟨p, hp, hd⟩, isBreaking_of_typeChange? hd⟩
  have hreturns : (if !o.returnType.isEmpty && !n.returnType.isEmpty
        && o.returnType != n.returnType then
      [Detail.returnChanged o.returnType n.returnType] else []).any Detail.isBreaking = true
      ↔ RetypesResult s t := by
    rw [RetypesResult, ← ho.returnType, ← hn.returnType]
    split
    · rename_i h
      simpa [Detail.isBreaking, and_assoc] using h
    · rename_i h
      simpa [and_assoc] using h
  simp only [details, List.any_append, Bool.or_eq_true, hgone, hadded, htypes, hreturns,
    Bool.false_eq_true, or_false, or_assoc]

/-! ## The functions and endpoints of data -/

/-- A record of a function or an endpoint: it has a path and a name, and its signature, if it has
    one, is a text. -/
structure IsCallableItem (v : Value) : Prop where
  path : ∃ p, v.field "full_path" = .ok (.str p)
  name : ∃ w, v.field "name" = .ok w
  signature : ∃ s, v.getD "signature" (.str "") = .ok (.str s)

/-- The functions and endpoints that data lists. -/
structure ListsCallables (data : Value) (items : List Value) : Prop where
  lists : ∃ fs es, data.itemsOf "functions" = .ok fs ∧ data.itemsOf "api_endpoints" = .ok es
    ∧ items = fs ++ es
  items : ∀ v ∈ items, IsCallableItem v

/-- The item is the last one with a path. -/
def IsLastAt (items : List Value) (path : String) (item : Value) : Prop :=
  ∃ before after, items = before ++ item :: after ∧ item.field "full_path" = .ok (.str path)
    ∧ ∀ v ∈ after, v.field "full_path" ≠ .ok (.str path)

/-- Data has a function or an endpoint with a path, a signature and a fingerprint. -/
def HasCallable (data : Value) (path signature : String) (fingerprint : Value) : Prop :=
  ∃ items item, ListsCallables data items ∧ IsLastAt items path item
    ∧ item.getD "signature" (.str "") = .ok (.str signature)
    ∧ item.getD "signature_hash" (.str "") = .ok fingerprint

theorem Callable.ofItem_reads {v : Value} (h : IsCallableItem v) {signature : String} {hash : Value}
    (hsig : v.getD "signature" (.str "") = .ok (.str signature))
    (hhash : v.getD "signature_hash" (.str "") = .ok hash) :
    ∃ c, Callable.ofItem v = .ok c ∧ c.Reads signature ∧ c.signatureHash = hash := by
  obtain ⟨name, hname⟩ := h.name
  obtain ⟨kind, hkind⟩ := getD_ok_of_field hname "doc_type" (.str "function")
  rw [Callable.ofItem, hsig, hname, hkind, hhash]
  exact ⟨_, rfl, ⟨rfl, rfl⟩, rfl⟩

theorem addCallable_of_isCallableItem {v : Value} (h : IsCallableItem v) :
    ∃ p c, v.field "full_path" = .ok (.str p) ∧ Callable.ofItem v = .ok c
      ∧ ∀ index, addCallable index v = .ok (index.put (.str p) c) := by
  obtain ⟨p, hp⟩ := h.path
  obtain ⟨sig, hsig⟩ := h.signature
  obtain ⟨hash, hhash⟩ := getD_ok_of_field hp "signature_hash" (.str "")
  obtain ⟨c, hc, -, -⟩ := Callable.ofItem_reads h hsig hhash
  refine ⟨p, c, hp, hc, fun index => ?_⟩
  rw [addCallable, hc, hp]
  rfl

theorem callables_eq_foldlM {data : Value} {items : List Value} (h : ListsCallables data items) :
    callables data = items.foldlM addCallable [] := by
  obtain ⟨fs, es, hfs, hes, rfl⟩ := h.lists
  rw [callables, hfs, hes, List.foldlM_append]
  rfl

/-- Of the functions with a path, the last one counts. -/
theorem HasCallable.get? {data : Value} {path signature : String} {fingerprint : Value}
    (h : HasCallable data path signature fingerprint) :
    ∃ index c, callables data = .ok index ∧ index.HasTextKeys ∧ index.get? (.str path) = some c
      ∧ c.Reads signature ∧ c.signatureHash = fingerprint := by
  obtain ⟨_, item, h, ⟨before, after, rfl, hpath, hafter⟩, hsig, hhash⟩ := h
  have hitems := h.items
  simp only [List.forall_mem_append, List.forall_mem_cons] at hitems
  obtain ⟨hbefore, hitem, hrest⟩ := hitems
  obtain ⟨p, c, hp, hc, hput⟩ := addCallable_of_isCallableItem hitem
  cases hpath.symm.trans hp
  obtain ⟨start, hstart, hkeys⟩ : ∃ index, before.foldlM addCallable [] = .ok index
      ∧ index.HasTextKeys := by
    refine foldlM_ok (fun v hv index hindex => ?_) Keyed.hasTextKeys_nil
    obtain ⟨q, d, -, -, hadd⟩ := addCallable_of_isCallableItem (hbefore v hv)
    exact ⟨_, hadd index, hindex.put q d⟩
  -- no later item has the path, so what is under it stays
  obtain ⟨index, hindex, hkeys, hget⟩ : ∃ index,
      after.foldlM addCallable (start.put (.str path) c) = .ok index
        ∧ index.HasTextKeys ∧ index.get? (.str path) = some c := by
    refine foldlM_ok
      (P := fun index : Keyed Callable => index.HasTextKeys ∧ index.get? (.str path) = some c)
      (fun v hv index hindex => ?_) ⟨hkeys.put path c, Keyed.get?_put_self start path c⟩
    obtain ⟨q, d, hq, -, hadd⟩ := addCallable_of_isCallableItem (hrest v hv)
    have hne : q ≠ path := by
      rintro rfl
      exact hafter v hv hq
    refine ⟨_, hadd index, hindex.1.put q d, ?_⟩
    rw [Keyed.get?_put_of_ne hne]
    exact hindex.2
  obtain ⟨c', hc', hreads⟩ := Callable.ofItem_reads hitem hsig hhash
  cases hc.symm.trans hc'
  refine ⟨index, c, ?_, hkeys, hget, hreads⟩
  rw [callables_eq_foldlM h, List.foldlM_append, hstart]
  simp only [bind, Except.bind, List.foldlM_cons, hput]
  exact hindex

/-! ## The verdict -/

/-- The report calls the change of a path breaking. -/
def ReportsBreaking (report : List SignatureChange) (path : String) : Prop :=
  ∃ d ∈ report, d.path = .str path ∧ d.isBreaking = true

theorem reportsBreaking_iff {olds news : Keyed Callable} {ds : List SignatureChange}
    {path : String} (hperm : ds.Perm (olds.filterMap (signatureChange? news)))
    (hkeys : olds.HasTextKeys) (ho : olds.get? (.str path) = some o)
    (hn : news.get? (.str path) = some n)
    (hchanged : o.signatureHash.same n.signatureHash = false) :
    ReportsBreaking ds path ↔ (details o n).any Detail.isBreaking = true := by
  constructor
  · rintro ⟨d, hd, hpath, hbreaking⟩
    obtain ⟨⟨q, c⟩, he, hd⟩ := List.mem_filterMap.mp (hperm.mem_iff.mp hd)
    obtain ⟨m, hm, -, -, rfl⟩ := signatureChange?_eq_some hd
    cases hpath
    cases ho.symm.trans (hkeys.get?_of_mem he)
    cases hn.symm.trans hm
    exact hbreaking
  · intro hbreaking
    have hdetails : details o n ≠ [] := by
      intro hnil
      rw [hnil] at hbreaking
      cases hbreaking
    refine ⟨⟨.str path, n.name, n.kind, details o n⟩, ?_, rfl, hbreaking⟩
    refine hperm.mem_iff.mpr (List.mem_filterMap.mpr
      ⟨(.str path, o), Keyed.mem_of_get?_eq_some ho, ?_⟩)
    simp only [signatureChange?, hn, hchanged]
    cases hds : details o n with
    | nil => exact absurd hds hdetails
    | cons d ds => rfl

/-- A function or endpoint of both builds whose fingerprint changed is reported as breaking
    exactly if a parameter is gone, a parameter has another type, or the result has another type.
    Added to these, new parameters that callers have to give make the rule that is meant: the
    report follows it exactly where such a parameter does not come alone. -/
theorem breaking_iff {old new : Value} {path s t : String} {x y : Value}
    (hold : HasCallable old path s x) (hnew : HasCallable new path t y)
    (hchanged : x.same y = false) :
    ∃ report, signatureChanges old new = .ok report
      ∧ (ReportsBreaking report path ↔ RemovesParam s t ∨ RetypesParam s t ∨ RetypesResult s t)
      ∧ ((ReportsBreaking report path
          ↔ RemovesParam s t ∨ RetypesParam s t ∨ RetypesResult s t ∨ AddsRequired s t)
        ↔ (AddsRequired s t → RemovesParam s t ∨ RetypesParam s t ∨ RetypesResult s t)) := by
  obtain ⟨olds, o, hoi, hkeys, ho, hoReads, rfl⟩ := hold.get?
  obtain ⟨news, n, hni, -, hn, hnReads, rfl⟩ := hnew.get?
  obtain ⟨report, hreport, hperm⟩ := signatureChanges_ok hoi hni hkeys
  have hverdict : ReportsBreaking report path
      ↔ RemovesParam s t ∨ RetypesParam s t ∨ RetypesResult s t :=
    (reportsBreaking_iff hperm hkeys ho hn hchanged).trans (any_isBreaking_iff hoReads hnReads)
  refine ⟨report, hreport, hverdict, ?_⟩
  rw [hverdict]
  constructor
  · intro h hadds
    exact h.mpr (.inr (.inr (.inr hadds)))
  · intro h
    constructor
    · rintro (hremoves | hretypes | hresult)
      · exact .inl hremoves
      · exact .inr (.inl hretypes)
      · exact .inr (.inr (.inl hresult))
    · rintro (hremoves | hretypes | hresult | hadds)
      · exact .inl hremoves
      · exact .inr (.inl hretypes)
      · exact .inr (.inr hresult)
      · exact h hadds

/-- Data that lists one function. -/
def oneFunction (signature hash : String) : Value := .object [("functions", .list [.object [
  ("full_path", .str "m.f"), ("name", .str "f"), ("signature", .str signature),
  ("signature_hash", .str hash)]])]

theorem hasCallable_oneFunction (signature hash : String) :
    HasCallable (oneFunction signature hash) "m.f" signature (.str hash) := by
  refine ⟨_, _, ⟨⟨_, _, rfl, rfl, rfl⟩, ?_⟩, ⟨[], [], rfl, rfl, by simp⟩, rfl, rfl⟩
  simp only [List.append_nil, List.forall_mem_singleton]
  exact ⟨⟨_, rfl⟩, ⟨_, rfl⟩, ⟨_, rfl⟩⟩

/-- A parameter that callers have to give is added, and the change is not called breaking. -/
theorem required_param_not_breaking :
    HasCallable (oneFunction "(a)" "1") "m.f" "(a)" (.str "1")
      ∧ HasCallable (oneFunction "(a, b)" "2") "m.f" "(a, b)" (.str "2")
      ∧ AddsRequired "(a)" "(a, b)"
      ∧ ∃ report, signatureChanges (oneFunction "(a)" "1") (oneFunction "(a, b)" "2") = .ok report
        ∧ ¬ ReportsBreaking report "m.f" := by
  have hold := hasCallable_oneFunction "(a)" "1"
  have hnew := hasCallable_oneFunction "(a, b)" "2"
  obtain ⟨report, hreport, hverdict, -⟩ := breaking_iff hold hnew (by decide)
  have hparams : params "(a)" = [⟨"a", "", ""⟩] := by decide +kernel
  have hparams' : params "(a, b)" = [⟨"a", "", ""⟩, ⟨"b", "", ""⟩] := by decide +kernel
  have hpieces : pieces "(a, b)" = [['a'], [' ', 'b']] := by decide +kernel
  have hresult : returnType "(a)" = "" := by decide +kernel
  refine ⟨hold, hnew, ?_, report, hreport, ?_⟩
  · refine ⟨[' ', 'b'], by simp [hpieces], ⟨"b", "", ""⟩, by decide +kernel, ?_, by simp [hparams]⟩
    exact ⟨by decide, by decide⟩
  · rw [hverdict]
    simp only [RemovesParam, RetypesParam, RetypesResult, hparams, hparams', hresult]
    rintro (⟨p, hp, hnone⟩ | ⟨name, p, q, hp, -, htype, -⟩ | ⟨hne, -⟩)
    · rw [List.mem_singleton] at hp
      exact hnone p (by simp [hp]) rfl
    · have hmem := (lastNamed?_eq_some hp).1
      rw [List.mem_singleton] at hmem
      rw [hmem] at htype
      exact htype rfl
    · exact hne rfl

end Docsmith.Report
