-- SUMMARY: A changed signature in one report is a change in the other.
import Docsmith.Proofs.Report.Breaking
import Docsmith.Proofs.Report.Difference

/-!
# Agreement of the two reports

Signatures are compared by an index of their own, of functions and endpoints
only. As long as classes and methods keep to other paths, that index and the one
of all items resolve every path to the same item. So a path with a changed
signature is also among the changes, as a change of the signature.
-/

namespace Docsmith.Report

variable {v data : Value}

/-! ## Functions and endpoints -/

/-- The signatures of functions and endpoints are texts, as far as they are there. -/
def HasTextSignatures (data : Value) : Prop :=
  ∀ v ∈ heldItems data "functions" ++ heldItems data "api_endpoints",
    ∃ s, v.getD "signature" (.str "") = .ok (.str s)

/-- No class or method has the path of a function or an endpoint. -/
def KeepsClassesApart (data : Value) : Prop :=
  ∀ e ∈ classListing data, ∀ f ∈ functionListing data, e.1 ≠ f.1

/-- What is compared of a function. -/
def callableOf (v : Value) : Callable where
  name := held v "name"
  kind := (v.getD "doc_type" (.str "function")).toOption.getD (.str "function")
  params := paramsByName (Signature.params (held v "signature").text)
  returnType := Signature.returnType (held v "signature").text
  signatureHash := held v "signature_hash"

/-- The functions and endpoints under their paths. -/
def callableListing (data : Value) : List (String × Callable) :=
  (heldItems data "functions" ++ heldItems data "api_endpoints").map fun v => (pathIn v, callableOf v)

theorem ofItem_eq_callableOf (h : IsItem v) {s : String}
    (hs : v.getD "signature" (.str "") = .ok (.str s)) : Callable.ofItem v = .ok (callableOf v) := by
  obtain ⟨w, hname⟩ := h.name
  obtain ⟨kind, hkind⟩ := getD_ok_of_field hname "doc_type" (.str "function")
  obtain ⟨hash, hhash⟩ := getD_ok_of_field hname "signature_hash" (.str "")
  have hsignature : held v "signature" = .str s := by
    rw [held, hs]
    rfl
  rw [Callable.ofItem, hs, hname, hkind, hhash, callableOf, held_of_field hname, hsignature, hkind,
    held, hhash]
  rfl

theorem addCallable_eq_putAll (h : IsCallableItem v) (index : Keyed Callable) :
    addCallable index v = .ok (index.putAll [(pathIn v, callableOf v)]) := by
  obtain ⟨s, hs⟩ := h.signature
  obtain ⟨p, hp⟩ := h.path
  rw [addCallable, ofItem_eq_callableOf ⟨h.path, h.name⟩ hs, hp, pathIn, held_of_field hp]
  rfl

/-- The index of functions holds under each path the last function with it. -/
theorem callables_of_listsCallables {items : List Value} (h : ListsCallables data items) :
    ∃ index, callables data = .ok index ∧ index.HasTextKeys
      ∧ ∀ p, index.get? (.str p) = lastAt (items.map fun v => (pathIn v, callableOf v)) p := by
  refine ⟨Keyed.putAll [] (items.map fun v => (pathIn v, callableOf v)), ?_,
    Keyed.hasTextKeys_nil.putAll _, fun p => ?_⟩
  · rw [callables_eq_foldlM h, List.map_eq_flatMap]
    exact Keyed.foldlM_putAll (fun v hv => addCallable_eq_putAll (h.items v hv)) []
  · rw [Keyed.get?_putAll, Keyed.get?_nil, Option.or_none]

theorem callables_of_isListing (h : IsListing data) (hs : HasTextSignatures data) :
    ∃ index, callables data = .ok index ∧ index.HasTextKeys
      ∧ ∀ p, index.get? (.str p) = lastAt (callableListing data) p := by
  obtain ⟨fs, hfs, hf⟩ := h.functions
  obtain ⟨es, hes, he⟩ := h.endpoints
  have hitems : ∀ v ∈ heldItems data "functions" ++ heldItems data "api_endpoints", IsItem v := by
    rw [heldItems_of_itemsOf hfs, heldItems_of_itemsOf hes, List.forall_mem_append]
    exact ⟨hf, he⟩
  refine callables_of_listsCallables ⟨⟨fs, es, hfs, hes, ?_⟩, fun v hv => ?_⟩
  · rw [heldItems_of_itemsOf hfs, heldItems_of_itemsOf hes]
  · exact ⟨(hitems v hv).path, (hitems v hv).name, hs v hv⟩

/-- Both indexes have the same fingerprint of the signature under a path of a function. -/
theorem signatureHash_entryAt (hapart : KeepsClassesApart data) {p : String} {c : Callable}
    (h : lastAt (callableListing data) p = some c) :
    ∃ e, entryAt data p = some e ∧ e.signatureHash = c.signatureHash := by
  -- apart from what else they tell, the two listings of functions are the same
  have hsame : (functionListing data).map (fun e => (e.1, e.2.signatureHash))
      = (callableListing data).map fun e => (e.1, e.2.signatureHash) := by
    simp [functionListing, callableListing, itemEntry, entryOf, callableOf, Function.comp_def]
  have hhash : (lastAt (functionListing data) p).map IndexEntry.signatureHash
      = (lastAt (callableListing data) p).map Callable.signatureHash := by
    rw [← Keyed.lastAt_map, hsame, Keyed.lastAt_map]
  rw [h, Option.map_some] at hhash
  obtain ⟨e, he, hsignature⟩ := Option.map_eq_some_iff.mp hhash
  have hclasses : lastAt (classListing data) p = none :=
    Keyed.lastAt_eq_none fun d hd => hapart d hd (p, e) (Keyed.mem_of_lastAt he)
  refine ⟨e, ?_, hsignature⟩
  rw [entryAt, listing, Keyed.lastAt_append, hclasses, he]
  rfl

/-! ## The reports -/

theorem exists_record_of_signature {o n : Option IndexEntry} {a b : IndexEntry} (ho : o = some a)
    (hn : n = some b) (h : a.signatureHash.same b.signatureHash = false) (p : String) :
    ∃ c, IsRecord o n p c ∧ (c.change = .signature ∨ c.change = .signatureAndBody) := by
  subst ho hn
  cases hbody : a.bodyHash.same b.bodyHash with
  | true => exact ⟨⟨.str p, b.name, b.kind, .signature⟩,
      ⟨rfl, .signature h hbody, b, rfl, rfl, rfl⟩, .inl rfl⟩
  | false => exact ⟨⟨.str p, b.name, b.kind, .signatureAndBody⟩,
      ⟨rfl, .signatureAndBody h hbody, b, rfl, rfl, rfl⟩, .inr rfl⟩

/-- As long as classes and methods keep to other paths than functions and endpoints, every path
    with a changed signature has a change of the signature, or of signature and body. -/
theorem signature_reports_agree {old new : Value} (hold : IsListing old) (hnew : IsListing new)
    (hsold : HasTextSignatures old) (hsnew : HasTextSignatures new)
    (hapart : KeepsClassesApart old) (hapart' : KeepsClassesApart new) :
    ∃ ds cs, signatureChanges old new = .ok ds ∧ changes old new = .ok cs
      ∧ ∀ d ∈ ds, ∃ c ∈ cs, c.path = d.path
        ∧ (c.change = .signature ∨ c.change = .signatureAndBody) := by
  obtain ⟨oc, hoc, hockeys, hocat⟩ := callables_of_isListing hold hsold
  obtain ⟨nc, hnc, -, hncat⟩ := callables_of_isListing hnew hsnew
  obtain ⟨oi, hoi, hokeys, ho⟩ := indexOf_of_isListing hold
  obtain ⟨ni, hni, hnkeys, hn⟩ := indexOf_of_isListing hnew
  obtain ⟨ds, hds, hperm⟩ := signatureChanges_ok hoc hnc hockeys
  obtain ⟨ps, hcs, -, hps⟩ := changes_eq hoi hni hokeys hnkeys
  refine ⟨ds, _, hds, hcs, fun d hd => ?_⟩
  obtain ⟨⟨key, o⟩, hmem, hd⟩ := List.mem_filterMap.mp (hperm.mem_iff.mp hd)
  obtain ⟨n, hget, hchanged, -, rfl⟩ := signatureChange?_eq_some hd
  obtain ⟨p, rfl⟩ := hockeys.texts key (List.mem_map_of_mem hmem)
  have hlast := hockeys.get?_of_mem hmem
  rw [hocat] at hlast
  rw [hncat] at hget
  obtain ⟨a, ha, hahash⟩ := signatureHash_entryAt hapart hlast
  obtain ⟨b, hb, hbhash⟩ := signatureHash_entryAt hapart' hget
  rw [← hahash, ← hbhash] at hchanged
  obtain ⟨c, hrecord, hkind⟩ := exists_record_of_signature ha hb hchanged p
  exact ⟨c, (mem_changes_iff ho hn hps c).mpr ⟨p, hrecord⟩, hrecord.1, hkind⟩

/-- Data that lists one function and one class of another path. -/
def functionAndClass (signature hash : String) : Value := .object [
  ("functions", .list [.object [("full_path", .str "m.f"), ("name", .str "f"),
    ("signature", .str signature), ("signature_hash", .str hash)]]),
  ("classes", .list [.object [("full_path", .str "m.C"), ("name", .str "C"),
    ("methods", .list [.object [("name", .str "f")]])]])]

theorem functionAndClass_isListing (signature hash : String) :
    IsListing (functionAndClass signature hash) ∧ HasTextSignatures (functionAndClass signature hash)
      ∧ KeepsClassesApart (functionAndClass signature hash) := by
  refine ⟨⟨⟨_, rfl, ?_⟩, ⟨[], rfl, by simp⟩, ⟨_, rfl, ?_⟩⟩, ?_, ?_⟩
  · rw [List.forall_mem_singleton]
    exact ⟨⟨_, rfl⟩, ⟨_, rfl⟩⟩
  · rw [List.forall_mem_singleton]
    refine ⟨⟨⟨_, rfl⟩, ⟨_, rfl⟩⟩, _, rfl, ?_⟩
    rw [List.forall_mem_singleton]
    exact ⟨_, rfl⟩
  · intro v hv
    obtain rfl := List.mem_singleton.mp hv
    exact ⟨signature, rfl⟩
  · intro e he f hf
    obtain rfl := List.mem_singleton.mp hf
    have hpath : e.1 ∈ ["m.C", "m.C.f"] := List.mem_map_of_mem (f := Prod.fst) he
    rintro (heq : e.1 = "m.f")
    rw [heq] at hpath
    exact absurd hpath (by decide)

/-- With another fingerprint and another parameter, a function is in both reports. -/
theorem parameter_in_both_reports :
    let old := functionAndClass "(a)" "1"
    let new := functionAndClass "(b)" "2"
    (IsListing old ∧ HasTextSignatures old ∧ KeepsClassesApart old)
      ∧ (IsListing new ∧ HasTextSignatures new ∧ KeepsClassesApart new)
      ∧ (signatureChanges old new).toOption.map (·.map (·.path.text)) = some ["m.f"]
      ∧ ∃ ds cs, signatureChanges old new = .ok ds ∧ changes old new = .ok cs
        ∧ ∀ d ∈ ds, ∃ c ∈ cs, c.path = d.path
          ∧ (c.change = .signature ∨ c.change = .signatureAndBody) := by
  obtain ⟨hold, hsold, hapart⟩ := functionAndClass_isListing "(a)" "1"
  obtain ⟨hnew, hsnew, hapart'⟩ := functionAndClass_isListing "(b)" "2"
  exact ⟨⟨hold, hsold, hapart⟩, ⟨hnew, hsnew, hapart'⟩, by decide +kernel,
    signature_reports_agree hold hnew hsold hsnew hapart hapart'⟩

end Docsmith.Report
