-- SUMMARY: Exchanging two builds turns the report on their signatures around.
import Docsmith.Proofs.Report.Agreement

/-!
# Duality of the report on signatures

Signatures are compared by rules that have no direction: a parameter that is gone
one way is added the other way, and a type that changed one way changed back the
other way. So two builds report the same paths whichever comes first, with the same
details turned around, and a build reports nothing about itself.
-/

namespace Docsmith.Report

open Signature (Param)

/-- What a detail says about the way back. -/
def Detail.exchanged : Detail → Detail
  | .removed arg => .addedOptional arg
  | .addedOptional arg => .removed arg
  | .typeChanged arg old new => .typeChanged arg new old
  | .returnChanged old new => .returnChanged new old

/-! ## Parameters -/

variable {ps qs : List Param} {o n : Callable}

theorem typeChange?_eq_some {p : Param} {d : Detail} :
    typeChange? qs p = some d ↔ ∃ q, param? qs p.name = some q ∧ p.type ≠ "" ∧ q.type ≠ ""
      ∧ p.type ≠ q.type ∧ d = .typeChanged p.name p.type q.type := by
  unfold typeChange?
  cases param? qs p.name with
  | none => simp
  | some q =>
    simp only [Option.ite_none_right_eq_some, Bool.and_eq_true, Bool.not_eq_true', bne_iff_ne,
      String.isEmpty_eq_false_iff, Option.some.injEq, exists_eq_left', and_assoc,
      eq_comm (a := d)]

/-- A parameter whose type changed has the other type on the way back. -/
theorem exchanged_mem_typeChanges (hps : (ps.map (·.name)).Nodup) {d : Detail}
    (h : d ∈ ps.filterMap (typeChange? qs)) : d.exchanged ∈ qs.filterMap (typeChange? ps) := by
  obtain ⟨p, hp, hd⟩ := List.mem_filterMap.mp h
  obtain ⟨q, hq, hpt, hqt, hne, rfl⟩ := typeChange?_eq_some.mp hd
  have hname : q.name = p.name := by simpa using List.find?_some hq
  refine List.mem_filterMap.mpr ⟨q, List.mem_of_find?_eq_some hq, typeChange?_eq_some.mpr ⟨p, ?_⟩⟩
  rw [hname]
  exact ⟨param?_eq_some_of_mem hps hp, hqt, hpt, hne.symm, rfl⟩

theorem nodup_typeChanges (hps : (ps.map (·.name)).Nodup) :
    (ps.filterMap (typeChange? qs)).Nodup := by
  refine List.Pairwise.filterMap _ ?_ (List.pairwise_map.mp hps)
  intro p p' hne d hd d' hd' heq
  obtain ⟨q, -, -, -, -, rfl⟩ := typeChange?_eq_some.mp hd
  obtain ⟨q', -, -, -, -, rfl⟩ := typeChange?_eq_some.mp hd'
  exact hne (Detail.typeChanged.inj heq).1

theorem Detail.exchanged_exchanged (d : Detail) : d.exchanged.exchanged = d := by cases d <;> rfl

theorem typeChanges_exchange (hps : (ps.map (·.name)).Nodup) (hqs : (qs.map (·.name)).Nodup) :
    (qs.filterMap (typeChange? ps)).Perm
      ((ps.filterMap (typeChange? qs)).map Detail.exchanged) := by
  have hinjective : Function.Injective Detail.exchanged :=
    Function.LeftInverse.injective Detail.exchanged_exchanged
  rw [List.perm_ext_iff_of_nodup (nodup_typeChanges hqs) ((nodup_typeChanges hps).map hinjective)]
  intro d
  rw [List.mem_map]
  constructor
  · intro hd
    exact ⟨d.exchanged, exchanged_mem_typeChanges hqs hd, d.exchanged_exchanged⟩
  · rintro ⟨d, hd, rfl⟩
    exact exchanged_mem_typeChanges hps hd

/-! ## Details -/

/-- The parameters are under different names. -/
def Callable.HasDistinctParams (c : Callable) : Prop := (c.params.map (·.name)).Nodup

/-- On the way back the details are turned around. -/
theorem details_exchange (ho : o.HasDistinctParams) (hn : n.HasDistinctParams) :
    (details n o).Perm ((details o n).map Detail.exchanged) := by
  have hreturns : (if !n.returnType.isEmpty && !o.returnType.isEmpty && n.returnType != o.returnType
        then [Detail.returnChanged n.returnType o.returnType] else [])
      = (if !o.returnType.isEmpty && !n.returnType.isEmpty && o.returnType != n.returnType
        then [Detail.returnChanged o.returnType n.returnType] else []).map Detail.exchanged := by
    rw [Bool.and_comm (!n.returnType.isEmpty), bne_comm]
    split <;> rfl
  simp only [details, List.map_append, List.map_map, hreturns]
  refine (List.Perm.append ?_ (typeChanges_exchange ho hn)).append_right _
  exact List.perm_append_comm

theorem details_self (h : o.HasDistinctParams) : details o o = [] := by
  have hfound (p : Param) (hp : p ∈ o.params) : param? o.params p.name = some p :=
    param?_eq_some_of_mem h hp
  have hgone : o.params.filter (fun p => (param? o.params p.name).isNone) = [] := by
    rw [List.filter_eq_nil_iff]
    intro p hp
    simp [hfound p hp]
  have htypes : o.params.filterMap (typeChange? o.params) = [] := by
    rw [List.filterMap_eq_nil_iff]
    intro p hp
    simp [typeChange?, hfound p hp]
  simp [details, hgone, htypes]

/-! ## Reports -/

/-- The functions and endpoints have signature fingerprints in the form of JSON data. -/
def HasJsonFingerprints (items : List Value) : Prop :=
  ∀ v ∈ items, (held v "signature_hash").HasJsonForm

/-- The functions of an index are under texts and can be compared in both directions. -/
structure IsComparable (index : Keyed Callable) : Prop where
  keys : index.HasTextKeys
  params : ∀ {p c}, index.get? (.str p) = some c → c.HasDistinctParams
  fingerprint : ∀ {p c}, index.get? (.str p) = some c → c.signatureHash.HasJsonForm

variable {old new : Value} {olds news : List Value} {oi ni : Keyed Callable}
  {ds es : List SignatureChange}

theorem exists_isComparable (h : ListsCallables old olds) (hjson : HasJsonFingerprints olds) :
    ∃ index, callables old = .ok index ∧ IsComparable index := by
  obtain ⟨index, hindex, hkeys, hget⟩ := callables_of_listsCallables h
  have hentries {p c} (hc : index.get? (.str p) = some c) : ∃ v ∈ olds, c = callableOf v := by
    rw [hget] at hc
    obtain ⟨v, hv, heq⟩ := List.mem_map.mp (Keyed.mem_of_lastAt hc)
    exact ⟨v, hv, (Prod.mk.inj heq).2.symm⟩
  refine ⟨index, hindex, hkeys, fun hc => ?_, fun hc => ?_⟩
  · obtain ⟨v, -, rfl⟩ := hentries hc
    exact names_paramsByName_nodup _
  · obtain ⟨v, hv, rfl⟩ := hentries hc
    exact hjson v hv

/-- A path is reported exactly if both builds have it, the fingerprints differ, and there are
    details. -/
theorem mem_signatureChanges (hkeys : oi.HasTextKeys)
    (hperm : ds.Perm (oi.filterMap (signatureChange? ni))) {d : SignatureChange} :
    d ∈ ds ↔ ∃ p o n, oi.get? (.str p) = some o ∧ ni.get? (.str p) = some n
      ∧ o.signatureHash.same n.signatureHash = false ∧ details o n ≠ []
      ∧ d = ⟨.str p, n.name, n.kind, details o n⟩ := by
  rw [hperm.mem_iff, List.mem_filterMap]
  constructor
  · rintro ⟨⟨key, o⟩, hmem, hd⟩
    obtain ⟨p, rfl⟩ := hkeys.texts key (List.mem_map_of_mem hmem)
    obtain ⟨n, hn, hchanged, hdetails, rfl⟩ := signatureChange?_eq_some hd
    exact ⟨p, o, n, hkeys.get?_of_mem hmem, hn, hchanged, hdetails, rfl⟩
  · rintro ⟨p, o, n, ho, hn, hchanged, hdetails, rfl⟩
    refine ⟨(.str p, o), Keyed.mem_of_get?_eq_some ho, ?_⟩
    simp only [signatureChange?, hn, hchanged]
    cases hds : details o n with
    | nil => exact absurd hds hdetails
    | cons d ds => rfl

theorem nodup_paths (hkeys : oi.HasTextKeys)
    (hperm : ds.Perm (oi.filterMap (signatureChange? ni))) : (ds.map (·.path)).Nodup := by
  rw [(hperm.map _).nodup_iff, List.Nodup, List.pairwise_map]
  refine List.Pairwise.filterMap _ ?_ (List.pairwise_map.mp hkeys.nodup)
  intro e e' hne d hd d' hd'
  obtain ⟨-, -, -, -, rfl⟩ := signatureChange?_eq_some hd
  obtain ⟨-, -, -, -, rfl⟩ := signatureChange?_eq_some hd'
  exact hne

/-- What is reported is also reported on the way back. -/
theorem mem_paths_exchange (ho : IsComparable oi) (hn : IsComparable ni)
    (hds : ds.Perm (oi.filterMap (signatureChange? ni)))
    (hes : es.Perm (ni.filterMap (signatureChange? oi))) {path : Value}
    (h : path ∈ ds.map (·.path)) : path ∈ es.map (·.path) := by
  obtain ⟨d, hd, rfl⟩ := List.mem_map.mp h
  obtain ⟨p, o, n, hop, hnp, hchanged, hdetails, rfl⟩ := (mem_signatureChanges ho.keys hds).mp hd
  have hback : details n o ≠ [] := by
    intro hnil
    have hperm := details_exchange (ho.params hop) (hn.params hnp)
    rw [hnil, List.nil_perm, List.map_eq_nil_iff] at hperm
    exact hdetails hperm
  rw [(ho.fingerprint hop).same_comm (hn.fingerprint hnp)] at hchanged
  exact List.mem_map.mpr ⟨⟨.str p, o.name, o.kind, details n o⟩,
    (mem_signatureChanges hn.keys hes).mpr ⟨p, n, o, hnp, hop, hchanged, hback, rfl⟩, rfl⟩

theorem signatureChanges_self (h : callables old = .ok oi) (ho : IsComparable oi) :
    signatureChanges old old = .ok [] := by
  obtain ⟨ds, hds, hperm⟩ := signatureChanges_ok h h ho.keys
  have hnil : ds = [] := by
    refine List.eq_nil_iff_forall_not_mem.mpr fun d hd => ?_
    obtain ⟨p, c, c', hc, hc', -, hdetails, -⟩ := (mem_signatureChanges ho.keys hperm).mp hd
    cases hc.symm.trans hc'
    exact hdetails (details_self (ho.params hc))
  rw [hds, hnil]

/-- Where the builds are exchanged, the report has the same paths, and the details of each path are
    turned around. A build that is compared with itself reports nothing. -/
theorem signatureChanges_self_dual (hold : ListsCallables old olds) (hnew : ListsCallables new news)
    (hjson : HasJsonFingerprints olds) (hjson' : HasJsonFingerprints news) :
    signatureChanges old old = .ok []
      ∧ ∃ ds es, signatureChanges old new = .ok ds ∧ signatureChanges new old = .ok es
        ∧ (es.map (·.path)).Perm (ds.map (·.path))
        ∧ ∀ d ∈ ds, ∀ e ∈ es, e.path = d.path →
          e.details.Perm (d.details.map Detail.exchanged) := by
  obtain ⟨oi, hoi, ho⟩ := exists_isComparable hold hjson
  obtain ⟨ni, hni, hn⟩ := exists_isComparable hnew hjson'
  obtain ⟨ds, hds, hperm⟩ := signatureChanges_ok hoi hni ho.keys
  obtain ⟨es, hes, hperm'⟩ := signatureChanges_ok hni hoi hn.keys
  refine ⟨signatureChanges_self hoi ho, ds, es, hds, hes, ?_, ?_⟩
  · rw [List.perm_ext_iff_of_nodup (nodup_paths hn.keys hperm') (nodup_paths ho.keys hperm)]
    exact fun path => ⟨mem_paths_exchange hn ho hperm' hperm, mem_paths_exchange ho hn hperm hperm'⟩
  · intro d hd e he hpath
    obtain ⟨p, o, n, hop, hnp, -, -, rfl⟩ := (mem_signatureChanges ho.keys hperm).mp hd
    obtain ⟨q, n', o', hnq, hoq, -, -, rfl⟩ := (mem_signatureChanges hn.keys hperm').mp he
    cases hpath
    cases hop.symm.trans hoq
    cases hnp.symm.trans hnq
    exact details_exchange (ho.params hop) (hn.params hnp)

theorem listsCallables_oneFunction (signature hash : String) :
    ∃ items, ListsCallables (oneFunction signature hash) items ∧ HasJsonFingerprints items := by
  refine ⟨_, ⟨⟨_, _, rfl, rfl, rfl⟩, ?_⟩, ?_⟩
  · simp only [List.append_nil, List.forall_mem_singleton]
    exact ⟨⟨_, rfl⟩, ⟨_, rfl⟩, ⟨_, rfl⟩⟩
  · simp only [HasJsonFingerprints, List.append_nil, List.forall_mem_singleton]
    exact .str hash

/-- A parameter is gone and another is added, and a parameter and the result have another type. -/
theorem changed_function_self_dual :
    let old := oneFunction "(a, b: int) -> int" "1"
    let new := oneFunction "(b: str, c) -> str" "2"
    (∃ olds, ListsCallables old olds ∧ HasJsonFingerprints olds)
      ∧ (∃ news, ListsCallables new news ∧ HasJsonFingerprints news)
      ∧ (signatureChanges old new).toOption.map (·.map (·.details)) = some [[.removed "a",
        .addedOptional "c", .typeChanged "b" "int" "str", .returnChanged "int" "str"]]
      ∧ ∃ ds es, signatureChanges old new = .ok ds ∧ signatureChanges new old = .ok es
        ∧ (es.map (·.path)).Perm (ds.map (·.path))
        ∧ ∀ d ∈ ds, ∀ e ∈ es, e.path = d.path →
          e.details.Perm (d.details.map Detail.exchanged) := by
  have hold := listsCallables_oneFunction "(a, b: int) -> int" "1"
  have hnew := listsCallables_oneFunction "(b: str, c) -> str" "2"
  refine ⟨hold, hnew, by decide +kernel, ?_⟩
  obtain ⟨olds, hold, hjson⟩ := hold
  obtain ⟨news, hnew, hjson'⟩ := hnew
  exact (signatureChanges_self_dual hold hnew hjson hjson').2

end Docsmith.Report
