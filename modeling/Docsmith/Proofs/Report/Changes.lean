-- SUMMARY: The changes between two indexes say how to get from one to the other.
import Docsmith.Proofs.Report.Index
import Docsmith.Proofs.Value.Order
import Mathlib.Data.Finset.Basic
import Mathlib.Data.Finset.Dedup

/-!
# Changes between indexes

Between two indexes of texts, there is at most one change for each path. There
is none exactly where the two indexes agree, and replaying the new and removed
paths leads from the paths of the one to those of the other.
-/

namespace Docsmith.Report

open Json (readBack)

/-! ## Sorting by texts -/

/-- Things with texts as keys can be sorted, and none gets lost. -/
theorem sortedBy_perm {α : Type} (key : α → Value) {items : List α}
    (h : ∀ a ∈ items, ∃ s, key a = .str s) :
    ∃ out, Value.sortedBy key items = .ok out ∧ out.Perm items := by
  have htexts : ∀ a ∈ items, key a = .str ((key a).text?.getD "") := by
    intro a ha
    obtain ⟨s, hs⟩ := h a ha
    rw [hs]
    rfl
  exact ⟨_, Value.sortedBy_texts htexts, List.mergeSort_perm items _⟩

/-! ## Paths and fingerprints -/

/-- The paths of an index. -/
def paths (index : Index) : Finset String := (index.filterMap (·.1.text?)).toFinset

/-- The fingerprints of the signature and the body under a path. -/
def fingerprints (index : Index) (path : String) : Option (Value × Value) :=
  (index.get? (.str path)).map fun e => (e.signatureHash, e.bodyHash)

theorem text?_eq_some_iff {v : Value} {s : String} : v.text? = some s ↔ v = .str s := by
  cases v <;> simp [Value.text?]

theorem mem_paths {index : Index} {p : String} :
    p ∈ paths index ↔ ∃ e, index.get? (.str p) = some e := by
  have hkeys : p ∈ paths index ↔ Value.str p ∈ index.map (·.1) := by
    simp [paths, text?_eq_some_iff]
  rw [hkeys, ← Option.ne_none_iff_exists', ne_eq, Keyed.get?_eq_none_iff, not_not]

theorem not_mem_paths {index : Index} {p : String} :
    p ∉ paths index ↔ index.get? (.str p) = none := by
  rw [mem_paths, ← Option.ne_none_iff_exists', ne_eq, not_not]

/-! ## The change of a path -/

variable {old new : Index} {p : String} {c : Change}

theorem path_of_changeAt? {path : Value} (h : changeAt? old new path = some c) : c.path = path := by
  unfold changeAt? at h
  split at h
  · cases h
    rfl
  · cases h
    rfl
  · obtain ⟨kind, -, rfl⟩ := Option.map_eq_some_iff.mp h
    rfl
  · cases h

/-- What is in both indexes is neither new nor removed. -/
theorem difference?_changed {o n : IndexEntry} {kind : ChangeKind}
    (h : difference? o n = some kind) :
    kind ≠ .new ∧ kind ≠ .removed := by
  unfold difference? at h
  split at h <;> cases h <;> decide

/-- There is no difference exactly where the fingerprints are the same. -/
theorem difference?_eq_none_iff {o n : IndexEntry} (ho : o.IsText) (hn : n.IsText) :
    difference? o n = none ↔ o.signatureHash = n.signatureHash ∧ o.bodyHash = n.bodyHash := by
  obtain ⟨os, hos⟩ := ho.signatureHash
  obtain ⟨ob, hob⟩ := ho.bodyHash
  obtain ⟨ns, hns⟩ := hn.signatureHash
  obtain ⟨nb, hnb⟩ := hn.bodyHash
  rw [difference?, hos, hob, hns, hnb, Value.str_same_str, Value.str_same_str]
  cases hs : os == ns <;> cases hb : ob == nb <;> simp_all

theorem new_of_changeAt? (h : changeAt? old new (.str p) = some c) :
    c.change = .new ↔ p ∉ paths old := by
  rw [not_mem_paths]
  unfold changeAt? at h
  split at h
  · rename_i hold _
    cases h
    simp [hold]
  · rename_i hold _
    cases h
    simp [hold]
  · rename_i hold _
    obtain ⟨kind, hkind, rfl⟩ := Option.map_eq_some_iff.mp h
    simp [hold, (difference?_changed hkind).1]
  · cases h

theorem removed_of_changeAt? (h : changeAt? old new (.str p) = some c) :
    c.change = .removed ↔ p ∉ paths new := by
  rw [not_mem_paths]
  unfold changeAt? at h
  split at h
  · rename_i _ hnew
    cases h
    simp [hnew]
  · rename_i _ hnew
    cases h
    simp [hnew]
  · rename_i _ hnew
    obtain ⟨kind, hkind, rfl⟩ := Option.map_eq_some_iff.mp h
    simp [hnew, (difference?_changed hkind).2]
  · cases h

theorem mem_paths_iff_of_changeAt?_eq_none (h : changeAt? old new (.str p) = none) :
    p ∈ paths old ↔ p ∈ paths new := by
  rw [mem_paths, mem_paths]
  unfold changeAt? at h
  split at h
  · cases h
  · cases h
  · rename_i hold hnew
    simp [hold, hnew]
  · rename_i hold hnew
    simp [hold, hnew]

/-- A path has no change exactly where it is in neither index, or in both with the same
    fingerprints. -/
theorem changeAt?_eq_none_iff (hold : IsTextIndex old) (hnew : IsTextIndex new) :
    changeAt? old new (.str p) = none ↔ fingerprints old p = fingerprints new p := by
  unfold changeAt? fingerprints
  cases ho : old.get? (.str p) with
  | none => cases hn : new.get? (.str p) <;> simp
  | some o =>
    cases hn : new.get? (.str p) with
    | none => simp
    | some n =>
      rw [Option.map_eq_none_iff, difference?_eq_none_iff (hold.of_get? ho) (hnew.of_get? hn)]
      simp

/-! ## All changes -/

/-- The changes of paths stand in the order of the paths. -/
theorem paths_filterMap_sublist (old new : Index) (ps : List Value) :
    ((ps.filterMap (changeAt? old new)).map (·.path)).Sublist ps := by
  induction ps with
  | nil => exact List.Sublist.refl []
  | cons q ps ih =>
    rw [List.filterMap_cons]
    split
    · exact ih.cons q
    · rename_i c hc
      rw [List.map_cons, path_of_changeAt? hc]
      exact ih.cons_cons q

theorem allPaths_texts (hold : Keyed.HasTextKeys old) (hnew : Keyed.HasTextKeys new) :
    ∀ q ∈ allPaths old new, ∃ p, q = .str p := by
  intro q hq
  obtain hq | hq := List.mem_append.mp hq
  · exact hold.texts q hq
  · exact hnew.texts q (List.mem_filter.mp hq).1

theorem allPaths_nodup (hold : Keyed.HasTextKeys old) (hnew : Keyed.HasTextKeys new) :
    (allPaths old new).Nodup := by
  refine List.nodup_append.mpr ⟨hold.nodup, hnew.nodup.filter _, ?_⟩
  rintro q hq _ hother rfl
  obtain ⟨hmem, hnone⟩ := List.mem_filter.mp hother
  obtain ⟨p, rfl⟩ := hnew.texts q hmem
  rw [Option.isNone_iff_eq_none, Keyed.get?_eq_none_iff] at hnone
  exact hnone hq

/-- A path that changes is in one of the indexes. -/
theorem mem_allPaths_of_changeAt? (h : changeAt? old new (.str p) = some c) :
    .str p ∈ allPaths old new := by
  by_cases hmem : Value.str p ∈ old.map (·.1)
  · exact List.mem_append_left _ hmem
  · have hold := Keyed.get?_eq_none_iff.mpr hmem
    have hnew : Value.str p ∈ new.map (·.1) := by
      by_contra hnew
      rw [changeAt?, hold, Keyed.get?_eq_none_iff.mpr hnew] at h
      cases h
    refine List.mem_append_right _ (List.mem_filter.mpr ⟨hnew, ?_⟩)
    rw [hold]
    rfl

/-- The paths of two indexes are compared in increasing order. -/
theorem changes_eq {olds news : Value} (ho : indexOf olds = .ok old) (hn : indexOf news = .ok new)
    (hold : Keyed.HasTextKeys old) (hnew : Keyed.HasTextKeys new) :
    ∃ ps : List String, changes olds news = .ok ((ps.map .str).filterMap (changeAt? old new))
      ∧ ps.Pairwise (· < ·) ∧ ∀ p, p ∈ ps ↔ .str p ∈ allPaths old new := by
  obtain ⟨ts, hts⟩ : ∃ ts : List String, allPaths old new = ts.map .str := by
    refine ⟨(allPaths old new).filterMap Value.text?, ?_⟩
    rw [List.map_filterMap, List.filterMap_congr (g := some), List.filterMap_some]
    intro q hq
    obtain ⟨p, rfl⟩ := allPaths_texts hold hnew q hq
    rfl
  have hnodup : ts.Nodup := List.Nodup.of_map Value.str (hts ▸ allPaths_nodup hold hnew)
  refine ⟨Text.sorted ts, ?_, Text.pairwise_lt_sorted hnodup, fun p => ?_⟩
  · simp only [changes, ho, hn, hts, Value.sorted_texts, bind, Except.bind]
    rfl
  · rw [(Text.perm_sorted ts).mem_iff, hts]
    simp

/-- Each change once, of each path that changed. -/
structure AreChanges (old new : Index) (cs : List Change) : Prop where
  nodup : (cs.map (·.path)).Nodup
  mem_iff : ∀ c, c ∈ cs ↔ ∃ p, changeAt? old new (.str p) = some c

/-- Data with indexes of texts can be compared. -/
theorem changes_areChanges {olds news : Value} (ho : indexOf olds = .ok old)
    (hn : indexOf news = .ok new) (hold : IsTextIndex old) (hnew : IsTextIndex new) :
    ∃ cs, changes olds news = .ok cs ∧ AreChanges old new cs := by
  obtain ⟨ps, hchanges, hsorted, hmem⟩ := changes_eq ho hn hold.keys hnew.keys
  refine ⟨_, hchanges, ?_, fun c => ?_⟩
  · have hnodup : (ps.map Value.str).Nodup :=
      List.Nodup.map (fun _ _ heq => Value.str.inj heq) (hsorted.imp String.ne_of_lt)
    exact (paths_filterMap_sublist old new _).nodup hnodup
  · rw [List.mem_filterMap]
    constructor
    · rintro ⟨q, hq, hc⟩
      obtain ⟨p, -, rfl⟩ := List.mem_map.mp hq
      exact ⟨p, hc⟩
    · rintro ⟨p, hc⟩
      refine ⟨.str p, List.mem_map_of_mem ?_, hc⟩
      exact (hmem p).mpr (mem_allPaths_of_changeAt? hc)

namespace AreChanges

variable {cs : List Change}

theorem path_text (h : AreChanges old new cs) (hc : c ∈ cs) :
    ∃ p, c.path = .str p ∧ changeAt? old new (.str p) = some c := by
  obtain ⟨p, hp⟩ := (h.mem_iff c).mp hc
  exact ⟨p, path_of_changeAt? hp, hp⟩

/-- Nothing changed exactly if every path has the fingerprints it had. -/
theorem eq_nil_iff (h : AreChanges old new cs) (hold : IsTextIndex old) (hnew : IsTextIndex new) :
    cs = [] ↔ fingerprints old = fingerprints new := by
  have hnone : cs = [] ↔ ∀ p, changeAt? old new (.str p) = none := by
    constructor
    · rintro rfl p
      by_contra hne
      obtain ⟨c, hc⟩ := Option.ne_none_iff_exists'.mp hne
      cases (h.mem_iff c).mpr ⟨p, hc⟩
    · intro hall
      refine List.eq_nil_iff_forall_not_mem.mpr fun c hc => ?_
      obtain ⟨p, -, hp⟩ := h.path_text hc
      rw [hall p] at hp
      cases hp
  rw [hnone, funext_iff]
  exact forall_congr' fun p => changeAt?_eq_none_iff hold hnew

end AreChanges

/-! ## Replaying changes -/

/-- The paths that are present after a record of a change: a new path must not be present, a
    removed one must be. -/
def replayRecord (present : Finset String) (record : Value) : Option (Finset String) :=
  match record.field "full_path", record.field "change" with
  | .ok (.str path), .ok (.str change) =>
    if change = ChangeKind.new.name then
      if path ∈ present then none else some (insert path present)
    else if change = ChangeKind.removed.name then
      if path ∈ present then some (present.erase path) else none
    else some present
  | _, _ => none

/-- Changes of different paths that can be replayed. -/
structure Fits (cs : List Change) (present : Finset String) : Prop where
  nodup : (cs.map (·.path)).Nodup
  texts : ∀ c ∈ cs, ∃ p, c.path = .str p
  new : ∀ c ∈ cs, ∀ p, c.path = .str p → c.change = .new → p ∉ present
  removed : ∀ c ∈ cs, ∀ p, c.path = .str p → c.change = .removed → p ∈ present

theorem replayRecord_data (hpath : c.path = .str p) (present : Finset String) :
    replayRecord present c.data = match c.change with
      | .new => if p ∈ present then none else some (insert p present)
      | .removed => if p ∈ present then some (present.erase p) else none
      | _ => some present := by
  have hfield : c.data.field "full_path" = .ok (.str p) := by
    rw [← hpath]
    rfl
  have hchange : c.data.field "change" = .ok (.str c.change.name) := rfl
  rw [replayRecord, hfield, hchange]
  cases c.change <;> simp [ChangeKind.name]

/-- One change touches its own path only. -/
theorem replayRecord_of_fits {cs : List Change} {present : Finset String}
    (hpath : c.path = .str p) (h : Fits (c :: cs) present) :
    ∃ after, replayRecord present c.data = some after
      ∧ (p ∈ after ↔ c.change = .new ∨ (p ∈ present ∧ c.change ≠ .removed))
      ∧ ∀ q, q ≠ p → (q ∈ after ↔ q ∈ present) := by
  have hnew := h.new c List.mem_cons_self p hpath
  have hremoved := h.removed c List.mem_cons_self p hpath
  rw [replayRecord_data hpath]
  cases hc : c.change with
  | new =>
    refine ⟨insert p present, if_neg (hnew hc), by simp, fun q hq => ?_⟩
    simp [hq]
  | removed =>
    refine ⟨present.erase p, if_pos (hremoved hc), by simp, fun q hq => ?_⟩
    simp [hq]
  | signature => exact ⟨present, rfl, by simp, fun q _ => Iff.rfl⟩
  | body => exact ⟨present, rfl, by simp, fun q _ => Iff.rfl⟩
  | signatureAndBody => exact ⟨present, rfl, by simp, fun q _ => Iff.rfl⟩

namespace Fits

variable {cs : List Change} {present mid : Finset String}

theorem path_ne (h : Fits (c :: cs) present) (hp : c.path = .str p) :
    ∀ d ∈ cs, ∀ q, d.path = .str q → q ≠ p := by
  rintro d hd q hq rfl
  exact (List.nodup_cons.mp h.nodup).1 (List.mem_map.mpr ⟨d, hd, hq.trans hp.symm⟩)

/-- The later changes still fit when the first one has touched its own path only. -/
theorem tail (h : Fits (c :: cs) present) (hp : c.path = .str p)
    (hother : ∀ q, q ≠ p → (q ∈ mid ↔ q ∈ present)) : Fits cs mid where
  nodup := (List.nodup_cons.mp h.nodup).2
  texts d hd := h.texts d (List.mem_cons_of_mem c hd)
  new d hd q hq hnew := by
    rw [hother q (h.path_ne hp d hd q hq)]
    exact h.new d (List.mem_cons_of_mem c hd) q hq hnew
  removed d hd q hq hremoved := by
    rw [hother q (h.path_ne hp d hd q hq)]
    exact h.removed d (List.mem_cons_of_mem c hd) q hq hremoved

/-- Changes of different paths do not get into each other's way. -/
theorem replay (h : Fits cs present) :
    ∃ after, (cs.map Change.data).foldlM replayRecord present = some after
      ∧ ∀ q, q ∈ after ↔ (∃ c ∈ cs, c.path = .str q ∧ c.change = .new)
        ∨ (q ∈ present ∧ ¬ ∃ c ∈ cs, c.path = .str q ∧ c.change = .removed) := by
  induction cs generalizing present with
  | nil => exact ⟨present, rfl, by simp⟩
  | cons c cs ih =>
    obtain ⟨p, hp⟩ := h.texts c List.mem_cons_self
    obtain ⟨mid, hstep, hself, hother⟩ := replayRecord_of_fits hp h
    obtain ⟨after, hrest, hafter⟩ := ih (h.tail hp hother)
    refine ⟨after, ?_, fun q => ?_⟩
    · rw [List.map_cons, List.foldlM_cons, hstep]
      exact hrest
    · rw [hafter]
      simp only [List.exists_mem_cons_iff]
      by_cases hq : q = p
      · -- the later changes are of other paths, so the path of this one keeps what it got
        subst hq
        have hlater : ∀ kind, ¬ ∃ d ∈ cs, d.path = .str q ∧ d.change = kind := by
          rintro kind ⟨d, hd, hdq, -⟩
          exact h.path_ne hp d hd q hdq rfl
        simp only [hlater, hp, hself, true_and, false_or, or_false, not_false_eq_true, and_true,
          ne_eq]
      · have hcq : c.path ≠ .str q := by
          rw [hp]
          simpa using Ne.symm hq
        simp only [hother q hq, hcq, false_and, false_or]

end Fits

namespace AreChanges

variable {cs : List Change}

theorem changeAt?_of_mem (h : AreChanges old new cs) (hc : c ∈ cs) (hp : c.path = .str p) :
    changeAt? old new (.str p) = some c := by
  obtain ⟨q, hq, hchange⟩ := h.path_text hc
  cases hp.symm.trans hq
  exact hchange

theorem fits (h : AreChanges old new cs) : Fits cs (paths old) := by
  refine ⟨h.nodup, fun c hc => ?_, fun c hc p hp hnew => ?_, fun c hc p hp hremoved => ?_⟩
  · obtain ⟨p, hp, -⟩ := h.path_text hc
    exact ⟨p, hp⟩
  · exact (new_of_changeAt? (h.changeAt?_of_mem hc hp)).mp hnew
  · by_contra hout
    have hkind := (new_of_changeAt? (h.changeAt?_of_mem hc hp)).mpr hout
    rw [hremoved] at hkind
    cases hkind

theorem exists_kind_iff (h : AreChanges old new cs) (q : String) (kind : ChangeKind) :
    (∃ c ∈ cs, c.path = .str q ∧ c.change = kind)
      ↔ ∃ c, changeAt? old new (.str q) = some c ∧ c.change = kind := by
  constructor
  · rintro ⟨c, hc, hq, hkind⟩
    exact ⟨c, h.changeAt?_of_mem hc hq, hkind⟩
  · rintro ⟨c, hchange, hkind⟩
    exact ⟨c, (h.mem_iff c).mpr ⟨q, hchange⟩, path_of_changeAt? hchange, hkind⟩

/-- The changes between two indexes lead from the paths of the old one to those of the new
    one. -/
theorem replay (h : AreChanges old new cs) :
    (cs.map Change.data).foldlM replayRecord (paths old) = some (paths new) := by
  obtain ⟨after, hreplay, hafter⟩ := h.fits.replay
  rw [hreplay]
  congr 1
  ext q
  rw [hafter, h.exists_kind_iff, h.exists_kind_iff]
  cases hchange : changeAt? old new (.str q) with
  | none => simp [mem_paths_iff_of_changeAt?_eq_none hchange]
  | some c =>
    have hnew := new_of_changeAt? hchange
    have hremoved := removed_of_changeAt? hchange
    by_cases hkind : c.change = .new
    · have hnot : c.change ≠ .removed := by
        rw [hkind]
        decide
      have hin : q ∈ paths new := not_not.mp (hremoved.not.mp hnot)
      simp [hkind, hin]
    · have hin : q ∈ paths old := not_not.mp (hnew.not.mp hkind)
      simp [hkind, hremoved, hin]

end AreChanges

/-! ## Changed signatures -/

theorem signatureChange?_eq_some {news : Keyed Callable} {e : Value × Callable}
    {d : SignatureChange} (h : signatureChange? news e = some d) :
    ∃ n, news.get? e.1 = some n ∧ e.2.signatureHash.same n.signatureHash = false
      ∧ details e.2 n ≠ [] ∧ d = ⟨e.1, n.name, n.kind, details e.2 n⟩ := by
  unfold signatureChange? at h
  split at h
  · cases h
  · rename_i n hn
    split at h
    · cases h
    · rename_i hhash
      split at h
      · cases h
      · rename_i hdetails
        cases h
        exact ⟨n, hn, by simpa using hhash, hdetails, rfl⟩

/-- Data whose functions stand under texts can be compared. -/
theorem signatureChanges_ok {olds news : Value} {o n : Keyed Callable}
    (ho : callables olds = .ok o) (hn : callables news = .ok n) (hold : o.HasTextKeys) :
    ∃ ds, signatureChanges olds news = .ok ds
      ∧ ds.Perm (o.filterMap (signatureChange? n)) := by
  have htexts : ∀ d ∈ o.filterMap (signatureChange? n), ∃ s, d.path = .str s := by
    intro d hd
    obtain ⟨e, he, hd⟩ := List.mem_filterMap.mp hd
    obtain ⟨m, -, -, -, rfl⟩ := signatureChange?_eq_some hd
    exact hold.texts e.1 (List.mem_map.mpr ⟨e, he, rfl⟩)
  obtain ⟨ds, hsorted, hperm⟩ := sortedBy_perm SignatureChange.path htexts
  refine ⟨ds, ?_, hperm⟩
  simp only [signatureChanges, ho, hn, bind, Except.bind, hsorted]

/-! ## Reports that are written and read -/

theorem changeAt?_texts (hold : IsTextIndex old) (hnew : IsTextIndex new)
    (h : changeAt? old new (.str p) = some c) :
    (∃ s, c.name = .str s) ∧ ∃ s, c.kind = .str s := by
  unfold changeAt? at h
  split at h
  · rename_i n _ hn
    cases h
    exact ⟨(hnew.of_get? hn).name, (hnew.of_get? hn).kind⟩
  · rename_i o ho _
    cases h
    exact ⟨(hold.of_get? ho).name, (hold.of_get? ho).kind⟩
  · rename_i o n _ hn
    obtain ⟨kind, -, rfl⟩ := Option.map_eq_some_iff.mp h
    exact ⟨(hnew.of_get? hn).name, (hnew.of_get? hn).kind⟩
  · cases h

/-- Changes are read back as they were written. -/
theorem AreChanges.readBack_data {cs : List Change} (h : AreChanges old new cs)
    (hold : IsTextIndex old) (hnew : IsTextIndex new) :
    readBack (.list (cs.map Change.data)) = .list (cs.map Change.data) := by
  apply Json.readBack_list_eq_self
  simp only [List.forall_mem_map]
  intro c hc
  obtain ⟨p, hp, hchange⟩ := h.path_text hc
  obtain ⟨⟨n, hn⟩, ⟨k, hk⟩⟩ := changeAt?_texts hold hnew hchange
  rw [Change.data, hp, hn, hk]
  exact Json.readBack_object_eq_self (by simp) (by simp [readBack])

theorem Detail.readBack_data (d : Detail) : readBack d.data = d.data := by
  cases d <;> exact Json.readBack_object_eq_self (by simp) (by simp [readBack])

/-- Changed signatures are read back as they were written. -/
theorem readBack_signatureChanges {o n : Keyed Callable} (hold : o.IsMapTo Callable.IsText)
    (hnew : n.IsMapTo Callable.IsText) {ds : List SignatureChange}
    (h : ds.Perm (o.filterMap (signatureChange? n))) :
    readBack (.list (ds.map SignatureChange.data)) = .list (ds.map SignatureChange.data) := by
  apply Json.readBack_list_eq_self
  simp only [List.forall_mem_map]
  intro d hd
  obtain ⟨e, he, hd⟩ := List.mem_filterMap.mp (h.mem_iff.mp hd)
  obtain ⟨c, hc, -, -, rfl⟩ := signatureChange?_eq_some hd
  obtain ⟨p, hp⟩ := hold.keys.texts e.1 (List.mem_map.mpr ⟨e, he, rfl⟩)
  rw [hp] at hc
  obtain ⟨m, hm⟩ := (hnew.of_get? hc).name
  obtain ⟨k, hk⟩ := (hnew.of_get? hc).kind
  have hdetails : readBack (.list ((details e.2 c).map Detail.data))
      = .list ((details e.2 c).map Detail.data) := by
    apply Json.readBack_list_eq_self
    simp only [List.forall_mem_map]
    exact fun d _ => d.readBack_data
  rw [SignatureChange.data, hp, hm, hk]
  refine Json.readBack_object_eq_self (by simp) ?_
  simp only [List.forall_mem_cons]
  exact ⟨rfl, rfl, rfl, rfl, hdetails, by simp⟩

end Docsmith.Report
