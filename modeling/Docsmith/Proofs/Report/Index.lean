-- SUMMARY: The index of documentation data is a map from texts, and survives writing and reading.
import Docsmith.Proofs.Json.RoundTrip
import Docsmith.Report.Breaking
import Docsmith.Report.Changes

/-!
# The index of documentation data

Documentation data lists functions, endpoints and classes as records, in which
the fields that are indexed hold texts. Such data can be indexed, its index is a
map from texts, and the data that is read back after writing has the same index.
-/

namespace Docsmith.Report

open Json (readBack)

/-! ## Records -/

/-- A dictionary with text keys that has texts under some names. -/
structure HasTexts (names : List String) (v : Value) : Prop where
  isRecord : ∃ es, v = .dict es ∧ Keyed.HasTextKeys es
  texts : ∀ name ∈ names, ∃ s, v.field name = .ok (.str s)

theorem HasTexts.mono {names fewer : List String} {v : Value} (h : HasTexts names v)
    (hsub : fewer ⊆ names) : HasTexts fewer v :=
  ⟨h.isRecord, fun name hname => h.texts name (hsub hname)⟩

theorem field_readBack {es : Entries} (h : Keyed.HasTextKeys es) (name : String) :
    (readBack (.dict es)).field name = ((Value.dict es).field name).map readBack := by
  rw [Json.readBack_dict h]
  simp only [Value.field, Entries.getText?_mapValues]
  cases Entries.getText? es name <;> rfl

theorem getD_of_field {v w : Value} {name : String} (h : v.field name = .ok w) (d : Value) :
    v.getD name d = .ok w := by
  cases v with
  | dict es =>
    simp only [Value.field] at h
    split at h
    · rename_i hw
      cases h
      simp [Value.getD, Value.entries, hw, bind, Except.bind, pure, Except.pure]
    · cases h
  | _ => cases h

theorem getD_ok_of_field {v w : Value} {name : String} (h : v.field name = .ok w) (other : String)
    (d : Value) : ∃ x, v.getD other d = .ok x := by
  cases v with
  | dict es => exact ⟨_, rfl⟩
  | _ => cases h

theorem itemsOf_of_field {v : Value} {name : String} {items : List Value}
    (h : v.field name = .ok (.list items)) : v.itemsOf name = .ok items := by
  rw [Value.itemsOf, getD_of_field h]
  rfl

namespace HasTexts

variable {names : List String} {v : Value} {name : String}

theorem field_readBack (h : HasTexts names v) (hname : name ∈ names) :
    (readBack v).field name = v.field name := by
  obtain ⟨es, rfl, hkeys⟩ := h.isRecord
  obtain ⟨s, hs⟩ := h.texts name hname
  rw [Report.field_readBack hkeys, hs]
  rfl

theorem getD_readBack (h : HasTexts names v) (hname : name ∈ names) (d : Value) :
    (readBack v).getD name d = v.getD name d := by
  obtain ⟨s, hs⟩ := h.texts name hname
  rw [getD_of_field hs, getD_of_field ((h.field_readBack hname).trans hs)]

theorem getD_text (h : HasTexts names v) (name : String) (hname : name ∈ names) (d : Value) :
    ∃ s, v.getD name d = .ok (.str s) := by
  obtain ⟨s, hs⟩ := h.texts name hname
  exact ⟨s, getD_of_field hs d⟩

end HasTexts

/-! ## Catalogs as data -/

/-- The fields of an item that are indexed. -/
def entryFields : List String := ["name", "doc_type", "signature_hash", "body_hash"]

/-- The fields of a class that are indexed. -/
def itemFields : List String := "full_path" :: entryFields

/-- The fields of a function that are indexed, or compared by their signatures. -/
def callableFields : List String := "signature" :: itemFields

/-- The names under which data lists what is indexed. -/
def listNames : List String := ["functions", "api_endpoints", "classes"]

/-- A class with its methods. -/
structure IsClassItem (v : Value) : Prop where
  texts : HasTexts itemFields v
  methods : ∃ ms, v.field "methods" = .ok (.list ms) ∧ ∀ m ∈ ms, HasTexts entryFields m

/-- Data that lists functions, endpoints and classes. -/
structure IsCatalog (data : Entries) : Prop where
  keys : Keyed.HasTextKeys data
  functions : ∃ fs, (Value.dict data).field "functions" = .ok (.list fs)
    ∧ ∀ f ∈ fs, HasTexts callableFields f
  endpoints : ∃ fs, (Value.dict data).field "api_endpoints" = .ok (.list fs)
    ∧ ∀ f ∈ fs, HasTexts callableFields f
  classes : ∃ cs, (Value.dict data).field "classes" = .ok (.list cs) ∧ ∀ c ∈ cs, IsClassItem c

theorem itemsOf_readBack {data : Entries} (h : Keyed.HasTextKeys data) {name : String}
    {items : List Value} (hitems : (Value.dict data).field name = .ok (.list items)) :
    (readBack (.dict data)).itemsOf name = .ok (items.map readBack) := by
  apply itemsOf_of_field
  rw [field_readBack h, hitems, Except.map, Json.readBack_list]

/-! ## Loops -/

/-- What each round of a loop keeps, the loop keeps. -/
theorem foldlM_ok {P : σ → Prop} {f : σ → α → Answer σ} {items : List α}
    (h : ∀ a ∈ items, ∀ s, P s → ∃ s', f s a = .ok s' ∧ P s') {s : σ} (hs : P s) :
    ∃ s', items.foldlM f s = .ok s' ∧ P s' := by
  induction items generalizing s with
  | nil => exact ⟨s, rfl, hs⟩
  | cons a items ih =>
    obtain ⟨s₁, hstep, hs₁⟩ := h a List.mem_cons_self s hs
    obtain ⟨s₂, hrest, hs₂⟩ := ih (fun b hb => h b (List.mem_cons_of_mem a hb)) hs₁
    refine ⟨s₂, ?_, hs₂⟩
    rw [List.foldlM_cons, hstep]
    exact hrest

theorem foldlM_readBack {f g : σ → Value → Answer σ} {items : List Value}
    (h : ∀ v ∈ items, ∀ s, f s (readBack v) = g s v) (s : σ) :
    (items.map readBack).foldlM f s = items.foldlM g s := by
  induction items generalizing s with
  | nil => rfl
  | cons v items ih =>
    have hrest : ∀ s, (items.map readBack).foldlM f s = items.foldlM g s :=
      ih fun w hw => h w (List.mem_cons_of_mem v hw)
    rw [List.map_cons, List.foldlM_cons, List.foldlM_cons, h v List.mem_cons_self]
    simp only [hrest]

/-! ## The index -/

/-- All that the index holds about an item is text. -/
structure IndexEntry.IsText (e : IndexEntry) : Prop where
  signatureHash : ∃ s, e.signatureHash = .str s
  bodyHash : ∃ s, e.bodyHash = .str s
  name : ∃ s, e.name = .str s
  kind : ∃ s, e.kind = .str s

theorem IndexEntry.ofItem_isText {v : Value} (h : HasTexts entryFields v) (kind : String) :
    ∃ e, IndexEntry.ofItem kind v = .ok e ∧ e.IsText := by
  obtain ⟨sh, hsh⟩ := h.getD_text "signature_hash" (by decide) (.str "")
  obtain ⟨bh, hbh⟩ := h.getD_text "body_hash" (by decide) (.str "")
  obtain ⟨n, hn⟩ := h.texts "name" (by decide)
  obtain ⟨k, hk⟩ := h.getD_text "doc_type" (by decide) (.str kind)
  refine ⟨⟨.str sh, .str bh, .str n, .str k⟩, ?_, ⟨_, rfl⟩, ⟨_, rfl⟩, ⟨_, rfl⟩, ⟨_, rfl⟩⟩
  rw [IndexEntry.ofItem, hsh, hbh, hn, hk]
  rfl

theorem IndexEntry.ofItem_readBack {v : Value} (h : HasTexts entryFields v) (kind : String) :
    IndexEntry.ofItem kind (readBack v) = IndexEntry.ofItem kind v := by
  rw [IndexEntry.ofItem, h.getD_readBack (by decide), h.getD_readBack (by decide),
    h.field_readBack (by decide), h.getD_readBack (by decide)]
  rfl

/-- An index of texts. -/
abbrev IsTextIndex : Index → Prop := Keyed.IsMapTo IndexEntry.IsText

theorem addItem_isTextIndex {v : Value} (h : HasTexts itemFields v) (kind : String)
    (index : Index) (hindex : IsTextIndex index) :
    ∃ index', addItem kind index v = .ok index' ∧ IsTextIndex index' := by
  obtain ⟨e, he, htext⟩ := IndexEntry.ofItem_isText (h.mono (List.subset_cons_self _ _)) kind
  obtain ⟨path, hpath⟩ := h.texts "full_path" (by decide)
  refine ⟨index.put (.str path) e, ?_, hindex.put path htext⟩
  rw [addItem, he, hpath]
  rfl

theorem addItem_readBack {v : Value} (h : HasTexts itemFields v) (kind : String) (index : Index) :
    addItem kind index (readBack v) = addItem kind index v := by
  rw [addItem, IndexEntry.ofItem_readBack (h.mono (List.subset_cons_self _ _)),
    h.field_readBack (by decide)]
  rfl

theorem addMethod_isTextIndex {c m : Value} (hc : HasTexts itemFields c)
    (hm : HasTexts entryFields m) (index : Index) (hindex : IsTextIndex index) :
    ∃ index', addMethod c index m = .ok index' ∧ IsTextIndex index' := by
  obtain ⟨e, he, htext⟩ := IndexEntry.ofItem_isText hm "function"
  obtain ⟨path, hpath⟩ := hc.texts "full_path" (by decide)
  obtain ⟨name, hname⟩ := hm.texts "name" (by decide)
  refine ⟨_, ?_, hindex.put ((Value.str path).text ++ "." ++ (Value.str name).text) htext⟩
  rw [addMethod, hpath, hname, he]
  rfl

theorem addMethod_readBack {c m : Value} (hc : HasTexts itemFields c)
    (hm : HasTexts entryFields m) (index : Index) :
    addMethod (readBack c) index (readBack m) = addMethod c index m := by
  rw [addMethod, hc.field_readBack (by decide), hm.field_readBack (by decide),
    IndexEntry.ofItem_readBack hm]
  rfl

theorem addClass_isTextIndex {c : Value} (h : IsClassItem c) (index : Index)
    (hindex : IsTextIndex index) :
    ∃ index', addClass index c = .ok index' ∧ IsTextIndex index' := by
  obtain ⟨ms, hms, hall⟩ := h.methods
  obtain ⟨index₁, hitem, hindex₁⟩ := addItem_isTextIndex h.texts "class" index hindex
  obtain ⟨index₂, hmethods, hindex₂⟩ := foldlM_ok
    (fun m hm index => addMethod_isTextIndex h.texts (hall m hm) index) hindex₁
  refine ⟨index₂, ?_, hindex₂⟩
  rw [addClass, hitem, itemsOf_of_field hms]
  exact hmethods

theorem addClass_readBack {c : Value} (h : IsClassItem c) (index : Index) :
    addClass index (readBack c) = addClass index c := by
  obtain ⟨ms, hms, hall⟩ := h.methods
  obtain ⟨es, rfl, hkeys⟩ := h.texts.isRecord
  rw [addClass, addClass, addItem_readBack h.texts, itemsOf_readBack hkeys hms,
    itemsOf_of_field hms]
  congr 1
  funext index'
  exact foldlM_readBack (fun m hm index => addMethod_readBack h.texts (hall m hm) index) index'

variable {data : Entries}

/-- Data that lists functions, endpoints and classes has an index. -/
theorem indexOf_isTextIndex (h : IsCatalog data) :
    ∃ index, indexOf (.dict data) = .ok index ∧ IsTextIndex index := by
  obtain ⟨fs, hfs, hf⟩ := h.functions
  obtain ⟨es, hes, he⟩ := h.endpoints
  obtain ⟨cs, hcs, hc⟩ := h.classes
  have hsub : itemFields ⊆ callableFields := List.subset_cons_self _ _
  obtain ⟨index₁, h₁, htext₁⟩ := foldlM_ok
    (fun f hmem index => addItem_isTextIndex ((hf f hmem).mono hsub) "function" index)
    (Keyed.isMapTo_nil IndexEntry.IsText)
  obtain ⟨index₂, h₂, htext₂⟩ := foldlM_ok
    (fun f hmem index => addItem_isTextIndex ((he f hmem).mono hsub) "api" index) htext₁
  obtain ⟨index₃, h₃, htext₃⟩ := foldlM_ok
    (fun c hmem index => addClass_isTextIndex (hc c hmem) index) htext₂
  refine ⟨index₃, ?_, htext₃⟩
  simp only [indexOf, itemsOf_of_field hfs, itemsOf_of_field hes, itemsOf_of_field hcs, bind,
    Except.bind, h₁, h₂]
  exact h₃

/-- Data that is read back has the index of the data that was written. -/
theorem indexOf_readBack (h : IsCatalog data) :
    indexOf (readBack (.dict data)) = indexOf (.dict data) := by
  obtain ⟨fs, hfs, hf⟩ := h.functions
  obtain ⟨es, hes, he⟩ := h.endpoints
  obtain ⟨cs, hcs, hc⟩ := h.classes
  have hsub : itemFields ⊆ callableFields := List.subset_cons_self _ _
  have h₁ := foldlM_readBack
    (fun f hmem index => addItem_readBack ((hf f hmem).mono hsub) "function" index)
  have h₂ := foldlM_readBack
    (fun f hmem index => addItem_readBack ((he f hmem).mono hsub) "api" index)
  have h₃ := foldlM_readBack (fun c hmem index => addClass_readBack (hc c hmem) index)
  simp only [indexOf, itemsOf_readBack h.keys hfs, itemsOf_readBack h.keys hes,
    itemsOf_readBack h.keys hcs, itemsOf_of_field hfs, itemsOf_of_field hes,
    itemsOf_of_field hcs, bind, Except.bind, h₁, h₂, h₃]

theorem itemsOf_congr {other : Entries} {name : String}
    (h : data.getText? name = other.getText? name) :
    (Value.dict data).itemsOf name = (Value.dict other).itemsOf name := by
  simp only [Value.itemsOf, Value.getD, Value.entries, bind, Except.bind, h]

/-- The index depends on what is listed only. -/
theorem indexOf_congr {other : Entries}
    (h : ∀ name ∈ listNames, data.getText? name = other.getText? name) :
    indexOf (.dict data) = indexOf (.dict other) := by
  simp only [indexOf, itemsOf_congr (h "functions" (by decide)),
    itemsOf_congr (h "api_endpoints" (by decide)), itemsOf_congr (h "classes" (by decide))]

/-! ## Functions by path -/

/-- What is told about a function, its signature apart, is text. -/
structure Callable.IsText (c : Callable) : Prop where
  name : ∃ s, c.name = .str s
  kind : ∃ s, c.kind = .str s
  signatureHash : ∃ s, c.signatureHash = .str s

theorem Callable.ofItem_isText {v : Value} (h : HasTexts callableFields v) :
    ∃ c, Callable.ofItem v = .ok c ∧ c.IsText := by
  obtain ⟨sig, hsig⟩ := h.getD_text "signature" (by decide) (.str "")
  obtain ⟨n, hn⟩ := h.texts "name" (by decide)
  obtain ⟨k, hk⟩ := h.getD_text "doc_type" (by decide) (.str "function")
  obtain ⟨sh, hsh⟩ := h.getD_text "signature_hash" (by decide) (.str "")
  rw [Callable.ofItem, hsig, hn, hk, hsh]
  exact ⟨_, rfl, ⟨n, rfl⟩, ⟨k, rfl⟩, ⟨sh, rfl⟩⟩

theorem addCallable_isText {v : Value} (h : HasTexts callableFields v) (index : Keyed Callable)
    (hindex : index.IsMapTo Callable.IsText) :
    ∃ index', addCallable index v = .ok index' ∧ index'.IsMapTo Callable.IsText := by
  obtain ⟨c, hc, htext⟩ := Callable.ofItem_isText h
  obtain ⟨path, hpath⟩ := h.texts "full_path" (by decide)
  refine ⟨index.put (.str path) c, ?_, hindex.put path htext⟩
  rw [addCallable, hc, hpath]
  rfl

theorem addCallable_readBack {v : Value} (h : HasTexts callableFields v)
    (index : Keyed Callable) : addCallable index (readBack v) = addCallable index v := by
  have hcallable : Callable.ofItem (readBack v) = Callable.ofItem v := by
    rw [Callable.ofItem, h.getD_readBack (by decide), h.field_readBack (by decide),
      h.getD_readBack (by decide), h.getD_readBack (by decide)]
    rfl
  rw [addCallable, hcallable, h.field_readBack (by decide)]
  rfl

theorem callables_isText (h : IsCatalog data) :
    ∃ index, callables (.dict data) = .ok index ∧ index.IsMapTo Callable.IsText := by
  obtain ⟨fs, hfs, hf⟩ := h.functions
  obtain ⟨es, hes, he⟩ := h.endpoints
  obtain ⟨index₁, h₁, htext₁⟩ := foldlM_ok
    (fun f hmem index => addCallable_isText (hf f hmem) index) (Keyed.isMapTo_nil Callable.IsText)
  obtain ⟨index₂, h₂, htext₂⟩ := foldlM_ok
    (fun f hmem index => addCallable_isText (he f hmem) index) htext₁
  refine ⟨index₂, ?_, htext₂⟩
  simp only [callables, itemsOf_of_field hfs, itemsOf_of_field hes, bind, Except.bind, h₁]
  exact h₂

theorem callables_readBack (h : IsCatalog data) :
    callables (readBack (.dict data)) = callables (.dict data) := by
  obtain ⟨fs, hfs, hf⟩ := h.functions
  obtain ⟨es, hes, he⟩ := h.endpoints
  have h₁ := foldlM_readBack (fun f hmem index => addCallable_readBack (hf f hmem) index)
  have h₂ := foldlM_readBack (fun f hmem index => addCallable_readBack (he f hmem) index)
  simp only [callables, itemsOf_readBack h.keys hfs, itemsOf_readBack h.keys hes,
    itemsOf_of_field hfs, itemsOf_of_field hes, bind, Except.bind, h₁, h₂]

theorem callables_congr {other : Entries}
    (h : ∀ name ∈ listNames, data.getText? name = other.getText? name) :
    callables (.dict data) = callables (.dict other) := by
  simp only [callables, itemsOf_congr (h "functions" (by decide)),
    itemsOf_congr (h "api_endpoints" (by decide))]

end Docsmith.Report
