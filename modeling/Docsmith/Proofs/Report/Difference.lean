-- SUMMARY: The reported changes are the difference of what two builds list.
import Docsmith.Proofs.Report.SharedPath
import Docsmith.Proofs.Value.Equality

/-!
# The difference of two builds

Data lists functions, endpoints and classes with their methods, each of them
under a path; of several entries under one path the last one counts. The report of
changes is the difference of two such listings: it goes up from path to path, and
has a record exactly for the paths that only one of the two lists, and for those
whose signature or body has another fingerprint. So nothing changes between data
and itself, and exchanging the two builds exchanges what is new and what is
removed.
-/

namespace Docsmith

/-! ## Putting one after the other -/

/-- The last thing under a text. -/
def lastAt {β : Type} (es : List (String × β)) (path : String) : Option β :=
  (es.reverse.find? fun e => e.1 == path).map (·.2)

namespace Keyed

variable {β γ : Type}

/-- Put things under texts, one after the other. -/
def putAll (index : Keyed β) (es : List (String × β)) : Keyed β :=
  es.foldl (fun index e => index.put (.str e.1) e.2) index

theorem putAll_append (index : Keyed β) (xs ys : List (String × β)) :
    index.putAll (xs ++ ys) = (index.putAll xs).putAll ys := List.foldl_append

theorem lastAt_append (xs ys : List (String × β)) (path : String) :
    lastAt (xs ++ ys) path = (lastAt ys path).or (lastAt xs path) := by
  rw [lastAt, List.reverse_append, List.find?_append, Option.map_or]
  rfl

theorem lastAt_map (f : β → γ) (es : List (String × β)) (path : String) :
    lastAt (es.map fun e => (e.1, f e.2)) path = (lastAt es path).map f := by
  rw [lastAt, ← List.map_reverse, List.find?_map, Option.map_map, lastAt, Option.map_map]
  rfl

theorem mem_of_lastAt {es : List (String × β)} {path : String} {b : β}
    (h : lastAt es path = some b) : (path, b) ∈ es := by
  obtain ⟨e, he, rfl⟩ := Option.map_eq_some_iff.mp h
  have hpath := List.find?_some he
  rw [beq_iff_eq] at hpath
  rw [← hpath]
  exact List.mem_reverse.mp (List.mem_of_find?_eq_some he)

theorem lastAt_eq_none {es : List (String × β)} {path : String} (h : ∀ e ∈ es, e.1 ≠ path) :
    lastAt es path = none := by
  rw [lastAt, Option.map_eq_none_iff, List.find?_eq_none]
  intro e he
  simpa using h e (List.mem_reverse.mp he)

/-- Later things win. -/
theorem get?_putAll (index : Keyed β) (es : List (String × β)) (path : String) :
    (index.putAll es).get? (.str path) = (lastAt es path).or (index.get? (.str path)) := by
  induction es generalizing index with
  | nil => rfl
  | cons e es ih =>
    rw [putAll, List.foldl_cons, ← putAll, ih, ← List.singleton_append (l := es), lastAt_append]
    by_cases h : e.1 = path
    · subst h
      simp [lastAt]
    · rw [get?_put_of_ne h]
      simp [lastAt, h]

theorem HasTextKeys.putAll {index : Keyed β} (h : index.HasTextKeys) (es : List (String × β)) :
    (index.putAll es).HasTextKeys := by
  induction es generalizing index with
  | nil => exact h
  | cons e es ih => exact ih (h.put e.1 e.2)

/-- Where each round of a loop puts some things, the loop puts all of them. -/
theorem foldlM_putAll {f : Keyed β → Value → Answer (Keyed β)} {g : Value → List (String × β)}
    {items : List Value} (h : ∀ v ∈ items, ∀ index, f index v = .ok (index.putAll (g v)))
    (index : Keyed β) : items.foldlM f index = .ok (index.putAll (items.flatMap g)) := by
  induction items generalizing index with
  | nil => rfl
  | cons v items ih =>
    obtain ⟨hv, hitems⟩ := List.forall_mem_cons.mp h
    rw [List.foldlM_cons, hv, List.flatMap_cons, putAll_append]
    exact ih hitems _

end Keyed

namespace Report

/-! ## What data lists -/

/-- An item has a path and a name. -/
structure IsItem (v : Value) : Prop where
  path : ∃ p, v.field "full_path" = .ok (.str p)
  name : ∃ w, v.field "name" = .ok w

/-- Data lists functions, endpoints and classes, which have paths and names; the methods of
    classes have names. -/
structure IsListing (data : Value) : Prop where
  functions : ∃ fs, data.itemsOf "functions" = .ok fs ∧ ∀ f ∈ fs, IsItem f
  endpoints : ∃ es, data.itemsOf "api_endpoints" = .ok es ∧ ∀ e ∈ es, IsItem e
  classes : ∃ cs, data.itemsOf "classes" = .ok cs ∧ ∀ c ∈ cs, IsItem c
    ∧ ∃ ms, c.itemsOf "methods" = .ok ms ∧ ∀ m ∈ ms, ∃ w, m.field "name" = .ok w

/-- The path of an item. -/
def pathIn (v : Value) : String := (held v "full_path").text

/-- What is told about an item: its fingerprints, of which a missing one is the empty text, its
    name, and its kind, if it gives none the kind of the list in which it stands. -/
def entryOf (kind : String) (v : Value) : IndexEntry where
  signatureHash := held v "signature_hash"
  bodyHash := held v "body_hash"
  name := held v "name"
  kind := (v.getD "doc_type" (.str kind)).toOption.getD (.str kind)

/-- An item under its path. -/
def itemEntry (kind : String) (v : Value) : String × IndexEntry := (pathIn v, entryOf kind v)

/-- A method under the path of its class and its name. -/
def methodEntry (cls method : Value) : String × IndexEntry :=
  (pathIn cls ++ "." ++ (held method "name").text, entryOf "function" method)

/-- A class, followed by its methods. -/
def classEntries (cls : Value) : List (String × IndexEntry) :=
  itemEntry "class" cls :: (heldItems cls "methods").map (methodEntry cls)

/-- The functions, then the endpoints. -/
def functionListing (data : Value) : List (String × IndexEntry) :=
  (heldItems data "functions").map (itemEntry "function")
    ++ (heldItems data "api_endpoints").map (itemEntry "api")

/-- The classes and methods. -/
def classListing (data : Value) : List (String × IndexEntry) :=
  (heldItems data "classes").flatMap classEntries

/-- All that data lists. -/
def listing (data : Value) : List (String × IndexEntry) :=
  functionListing data ++ classListing data

/-- What data lists under a path: the last entry counts. -/
def entryAt (data : Value) (path : String) : Option IndexEntry := lastAt (listing data) path

variable {v data : Value}

theorem heldItems_of_itemsOf {name : String} {items : List Value}
    (h : v.itemsOf name = .ok items) : heldItems v name = items := by
  rw [heldItems, h]
  rfl

theorem ofItem_eq_entryOf (h : ∃ w, v.field "name" = .ok w) (kind : String) :
    IndexEntry.ofItem kind v = .ok (entryOf kind v) := by
  obtain ⟨w, hname⟩ := h
  obtain ⟨signature, hsignature⟩ := getD_ok_of_field hname "signature_hash" (.str "")
  obtain ⟨body, hbody⟩ := getD_ok_of_field hname "body_hash" (.str "")
  obtain ⟨k, hkind⟩ := getD_ok_of_field hname "doc_type" (.str kind)
  rw [IndexEntry.ofItem, hsignature, hbody, hname, hkind, entryOf, held_of_field hname, held, held,
    hsignature, hbody, hkind]
  rfl

theorem addItem_eq_putAll (h : IsItem v) (kind : String) (index : Index) :
    addItem kind index v = .ok (index.putAll [itemEntry kind v]) := by
  obtain ⟨p, hp⟩ := h.path
  rw [addItem, ofItem_eq_entryOf h.name, hp, itemEntry, pathIn, held_of_field hp]
  rfl

theorem addMethod_eq_putAll {m : Value} (h : IsItem v) (hm : ∃ w, m.field "name" = .ok w)
    (index : Index) : addMethod v index m = .ok (index.putAll [methodEntry v m]) := by
  obtain ⟨p, hp⟩ := h.path
  rw [addMethod, ofItem_eq_entryOf hm, hp, methodEntry, pathIn, held_of_field hp]
  obtain ⟨w, hw⟩ := hm
  rw [hw, held_of_field hw]
  rfl

theorem addClass_eq_putAll (h : IsItem v) {ms : List Value} (hms : v.itemsOf "methods" = .ok ms)
    (hnames : ∀ m ∈ ms, ∃ w, m.field "name" = .ok w) (index : Index) :
    addClass index v = .ok (index.putAll (classEntries v)) := by
  have hmethods := Keyed.foldlM_putAll (g := fun m => [methodEntry v m])
    fun m hm index => addMethod_eq_putAll h (hnames m hm) index
  rw [addClass, addItem_eq_putAll h, hms, classEntries, heldItems_of_itemsOf hms,
    List.map_eq_flatMap]
  exact hmethods _

/-- The index is filled with what data lists, in this order. -/
theorem indexOf_eq_putAll (h : IsListing data) :
    indexOf data = .ok (Keyed.putAll [] (listing data)) := by
  obtain ⟨fs, hfs, hf⟩ := h.functions
  obtain ⟨es, hes, he⟩ := h.endpoints
  obtain ⟨cs, hcs, hc⟩ := h.classes
  have hfunctions := Keyed.foldlM_putAll (g := fun f => [itemEntry "function" f])
    fun f hmem index => addItem_eq_putAll (hf f hmem) "function" index
  have hendpoints := Keyed.foldlM_putAll (g := fun e => [itemEntry "api" e])
    fun e hmem index => addItem_eq_putAll (he e hmem) "api" index
  have hclasses : ∀ index, cs.foldlM addClass index
      = .ok (Keyed.putAll index (cs.flatMap classEntries)) := by
    refine Keyed.foldlM_putAll fun c hmem index => ?_
    obtain ⟨hitem, ms, hms, hnames⟩ := hc c hmem
    exact addClass_eq_putAll hitem hms hnames index
  simp only [indexOf, hfs, hes, hcs, bind, Except.bind, hfunctions, hendpoints, hclasses]
  rw [listing, functionListing, classListing, heldItems_of_itemsOf hfs, heldItems_of_itemsOf hes,
    heldItems_of_itemsOf hcs, List.map_eq_flatMap, List.map_eq_flatMap]
  rw [Keyed.putAll_append, Keyed.putAll_append]

/-- Listed data has an index, which holds under each path the last entry. -/
theorem indexOf_of_isListing (h : IsListing data) :
    ∃ index, indexOf data = .ok index ∧ Keyed.HasTextKeys index
      ∧ ∀ p, index.get? (.str p) = entryAt data p := by
  refine ⟨_, indexOf_eq_putAll h, Keyed.hasTextKeys_nil.putAll _, fun p => ?_⟩
  rw [Keyed.get?_putAll, Keyed.get?_nil, Option.or_none, entryAt]

/-! ## What differs -/

/-- How an entry differs from the one before. -/
inductive Differs : Option IndexEntry → Option IndexEntry → ChangeKind → Prop
  | new {n} : Differs none (some n) .new
  | removed {o} : Differs (some o) none .removed
  | signature {o n} : o.signatureHash.same n.signatureHash = false →
      o.bodyHash.same n.bodyHash = true → Differs (some o) (some n) .signature
  | body {o n} : o.signatureHash.same n.signatureHash = true →
      o.bodyHash.same n.bodyHash = false → Differs (some o) (some n) .body
  | signatureAndBody {o n} : o.signatureHash.same n.signatureHash = false →
      o.bodyHash.same n.bodyHash = false → Differs (some o) (some n) .signatureAndBody

/-- The record of how a path changed from one listing to the other. Name and kind are those of
    the new entry, unless there is none. -/
def IsRecord (old new : Option IndexEntry) (path : String) (c : Change) : Prop :=
  c.path = .str path ∧ Differs old new c.change
    ∧ ∃ e, new.or old = some e ∧ c.name = e.name ∧ c.kind = e.kind

theorem difference?_eq_some_iff {o n : IndexEntry} {kind : ChangeKind} :
    difference? o n = some kind ↔ Differs (some o) (some n) kind := by
  constructor
  · intro h
    unfold difference? at h
    split at h
    all_goals
      rename_i hsignature hbody
      rw [Bool.not_eq_eq_eq_not] at hsignature hbody
      cases h
    · exact .signatureAndBody hsignature hbody
    · exact .signature hsignature hbody
    · exact .body hsignature hbody
  · intro h
    cases h with
    | signature hs hb => simp [difference?, hs, hb]
    | body hs hb => simp [difference?, hs, hb]
    | signatureAndBody hs hb => simp [difference?, hs, hb]

theorem changeAt?_eq_some_iff {old new : Index} {p : String} {c : Change} :
    changeAt? old new (.str p) = some c
      ↔ IsRecord (old.get? (.str p)) (new.get? (.str p)) p c := by
  obtain ⟨path, name, kind, change⟩ := c
  unfold changeAt? IsRecord
  cases old.get? (.str p) with
  | none =>
    cases new.get? (.str p) with
    | none =>
      refine ⟨nofun, ?_⟩
      rintro ⟨-, ⟨⟩, -⟩
    | some n =>
      constructor
      · intro h
        cases h
        exact ⟨rfl, .new, n, rfl, rfl, rfl⟩
      · rintro ⟨hpath, hdiffers, e, he, hname, hkind⟩
        cases he
        cases hdiffers
        simp_all
  | some o =>
    cases new.get? (.str p) with
    | none =>
      constructor
      · intro h
        cases h
        exact ⟨rfl, .removed, o, rfl, rfl, rfl⟩
      · rintro ⟨hpath, hdiffers, e, he, hname, hkind⟩
        cases he
        cases hdiffers
        simp_all
    | some n =>
      constructor
      · intro h
        obtain ⟨k, hk, hc⟩ := Option.map_eq_some_iff.mp h
        cases hc
        exact ⟨rfl, difference?_eq_some_iff.mp hk, n, rfl, rfl, rfl⟩
      · rintro ⟨hpath, hdiffers, e, he, hname, hkind⟩
        cases he
        refine Option.map_eq_some_iff.mpr ⟨change, difference?_eq_some_iff.mpr hdiffers, ?_⟩
        simp_all

variable {old new : Value} {oi ni : Index}

/-- The changes of all paths are the records of how they changed. -/
theorem mem_changes_iff (hoi : ∀ p, oi.get? (.str p) = entryAt old p)
    (hni : ∀ p, ni.get? (.str p) = entryAt new p) {ps : List String}
    (hps : ∀ p, p ∈ ps ↔ .str p ∈ allPaths oi ni) (c : Change) :
    c ∈ (ps.map .str).filterMap (changeAt? oi ni)
      ↔ ∃ p, IsRecord (entryAt old p) (entryAt new p) p c := by
  rw [List.mem_filterMap]
  constructor
  · rintro ⟨q, hq, hc⟩
    obtain ⟨p, -, rfl⟩ := List.mem_map.mp hq
    exact ⟨p, hoi p ▸ hni p ▸ changeAt?_eq_some_iff.mp hc⟩
  · rintro ⟨p, hc⟩
    rw [← hoi, ← hni, ← changeAt?_eq_some_iff] at hc
    have hp := (hps p).mpr (mem_allPaths_of_changeAt? hc)
    exact ⟨.str p, List.mem_map_of_mem hp, hc⟩

/-! ## Exchanging the builds -/

/-- What a change is when it is undone. -/
def ChangeKind.undone : ChangeKind → ChangeKind
  | .new => .removed
  | .removed => .new
  | kind => kind

/-- The fingerprints that data lists are JSON values. -/
def HasJsonHashes (data : Value) : Prop :=
  ∀ e ∈ listing data, e.2.signatureHash.IsJson ∧ e.2.bodyHash.IsJson

theorem HasJsonHashes.of_entryAt (h : HasJsonHashes data) {p : String} {e : IndexEntry}
    (he : entryAt data p = some e) : e.signatureHash.IsJson ∧ e.bodyHash.IsJson :=
  h (p, e) (Keyed.mem_of_lastAt he)

theorem changeAt?_self (h : HasJsonHashes old) (hoi : ∀ p, oi.get? (.str p) = entryAt old p)
    (p : String) : changeAt? oi oi (.str p) = none := by
  rw [changeAt?, hoi]
  cases he : entryAt old p with
  | none => rfl
  | some e =>
    obtain ⟨hsignature, hbody⟩ := h.of_entryAt he
    simp [difference?, hsignature.same_self, hbody.same_self]

theorem changeAt?_exchange (hold : HasJsonHashes old) (hnew : HasJsonHashes new)
    (hoi : ∀ p, oi.get? (.str p) = entryAt old p) (hni : ∀ p, ni.get? (.str p) = entryAt new p)
    (p : String) : (changeAt? ni oi (.str p)).map (fun c => (c.path, c.change))
      = (changeAt? oi ni (.str p)).map fun c => (c.path, c.change.undone) := by
  rw [changeAt?, changeAt?, hoi, hni]
  cases ho : entryAt old p with
  | none => cases entryAt new p <;> rfl
  | some o =>
    cases hn : entryAt new p with
    | none => rfl
    | some n =>
      obtain ⟨hos, hob⟩ := hold.of_entryAt ho
      obtain ⟨hns, hnb⟩ := hnew.of_entryAt hn
      have hdifference : difference? n o = difference? o n := by
        rw [difference?, difference?, hns.hasJsonForm.same_comm hos.hasJsonForm,
          hnb.hasJsonForm.same_comm hob.hasJsonForm]
      have hundone {kind : ChangeKind} (h : difference? o n = some kind) :
          kind.undone = kind := by
        obtain ⟨hnotNew, hnotRemoved⟩ := difference?_changed h
        cases kind with
        | new => exact absurd rfl hnotNew
        | removed => exact absurd rfl hnotRemoved
        | _ => rfl
      cases hkind : difference? o n with
      | none => simp [hdifference, hkind]
      | some kind => simp [hdifference, hkind, hundone hkind]

theorem mem_allPaths_iff {old new : Index} {p : String} :
    .str p ∈ allPaths old new ↔ old.get? (.str p) ≠ none ∨ new.get? (.str p) ≠ none := by
  simp only [allPaths, List.mem_append, List.mem_filter, Option.isNone_iff_eq_none,
    ne_eq, Keyed.get?_eq_none_iff, not_not]
  tauto

/-- Increasing lists with the same members are equal. -/
theorem eq_of_increasing {ps qs : List String} (hps : ps.Pairwise (· < ·))
    (hqs : qs.Pairwise (· < ·)) (h : ∀ p, p ∈ ps ↔ p ∈ qs) : ps = qs := by
  have hperm : ps.Perm qs := (List.perm_ext_iff_of_nodup (hps.imp String.ne_of_lt)
    (hqs.imp String.ne_of_lt)).mpr h
  apply hperm.eq_of_pairwise _ hps hqs
  intro a b _ _ hab hba
  exact absurd (String.lt_trans hab hba) (String.lt_irrefl a)

/-- Data that lists functions, given their paths and the fingerprints of their signatures. -/
def functionsData (fs : List (String × String)) : Value := .object [("functions",
  .list (fs.map fun f => .object [("full_path", .str f.1), ("name", .str f.1),
    ("signature_hash", .str f.2)]))]

theorem functionsData_isListing (fs : List (String × String)) : IsListing (functionsData fs) := by
  refine ⟨⟨_, rfl, ?_⟩, ⟨[], rfl, by simp⟩, ⟨[], rfl, by simp⟩⟩
  simp only [List.forall_mem_map]
  exact fun f _ => ⟨⟨f.1, rfl⟩, ⟨.str f.1, rfl⟩⟩

theorem listing_functionsData (fs : List (String × String)) : listing (functionsData fs)
    = fs.map fun f => (f.1, ⟨.str f.2, .str "", .str f.1, .str "function"⟩) := by
  have hfunctions : heldItems (functionsData fs) "functions" = fs.map fun f => .object [
    ("full_path", .str f.1), ("name", .str f.1), ("signature_hash", .str f.2)] := rfl
  have hendpoints : heldItems (functionsData fs) "api_endpoints" = [] := rfl
  have hclasses : heldItems (functionsData fs) "classes" = [] := rfl
  rw [listing, functionListing, classListing, hfunctions, hendpoints, hclasses, List.map_map]
  rw [List.map_nil, List.flatMap_nil, List.append_nil, List.append_nil]
  rfl

theorem functionsData_hasJsonHashes (fs : List (String × String)) :
    HasJsonHashes (functionsData fs) := by
  intro e he
  rw [listing_functionsData] at he
  obtain ⟨f, -, rfl⟩ := List.mem_map.mp he
  exact ⟨.str f.2, .str ""⟩

/-- A build with two functions. -/
def earlierBuild : Value := functionsData [("m.a", "1"), ("m.b", "1")]

/-- A build in which the first function is gone, the second one has another signature, and a third
    one is new. -/
def laterBuild : Value := functionsData [("m.b", "2"), ("m.c", "1")]

end Report

end Docsmith
