-- SUMMARY: Of the items that share a path, the last one decides whether a change is reported.
import Docsmith.Proofs.Report.Changes
import Mathlib.Data.Multiset.Basic

/-!
# Items that share a path

Several definitions may have one path: a property and its setter, overloads,
definitions that replace others. The index keeps the last of them, so a change is
reported for a path exactly if the last item with it has other fingerprints than
before. Where no two items of a build have the path, this is a complete report;
where they do, a change of any of them but the last goes unnoticed.
-/

namespace Docsmith.Report

/-! ## Listed items -/

/-- The fingerprints of the signature and the body of an item. -/
abbrev Fingerprints := Value × Value

/-- What a record holds under a name; a missing value is the empty text. -/
def held (v : Value) (name : String) : Value := (v.getD name (.str "")).toOption.getD (.str "")

/-- The items that a record lists under a name. -/
def heldItems (v : Value) (name : String) : List Value := (v.itemsOf name).toOption.getD []

def fingerprintsOf (item : Value) : Fingerprints :=
  (held item "signature_hash", held item "body_hash")

/-- A function, an endpoint or a class with its path. -/
def listedItem (item : Value) : String × Fingerprints :=
  ((held item "full_path").text, fingerprintsOf item)

/-- A method with its path, which is made of that of the class and its name. -/
def listedMethod (cls method : Value) : String × Fingerprints :=
  ((held cls "full_path").text ++ "." ++ (held method "name").text, fingerprintsOf method)

/-- A class and its methods. -/
def listedClass (cls : Value) : List (String × Fingerprints) :=
  listedItem cls :: (heldItems cls "methods").map (listedMethod cls)

/-- All that data lists: the functions, the endpoints, and the classes with their methods. -/
def listed (data : Value) : List (String × Fingerprints) :=
  (heldItems data "functions").map listedItem ++ (heldItems data "api_endpoints").map listedItem
    ++ (heldItems data "classes").flatMap listedClass

/-- The fingerprints of the items with a path, in order. -/
def withPath (items : List (String × Fingerprints)) (path : String) : List Fingerprints :=
  (items.filter fun e => e.1 == path).map Prod.snd

/-- The fingerprints of everything in the data that has a path, in order. -/
def fingerprintsAt (data : Value) (path : String) : List Fingerprints := withPath (listed data) path

theorem held_of_field {v w : Value} {name : String} (h : v.field name = .ok w) :
    held v name = w := by
  rw [held, getD_of_field h]
  rfl

theorem heldItems_of_field {v : Value} {name : String} {items : List Value}
    (h : v.field name = .ok (.list items)) : heldItems v name = items := by
  rw [heldItems, itemsOf_of_field h]
  rfl

theorem withPath_concat (items : List (String × Fingerprints)) (e : String × Fingerprints)
    (path : String) :
    withPath (items ++ [e]) path = withPath items path ++ if e.1 = path then [e.2] else [] := by
  by_cases h : e.1 = path <;> simp [withPath, h]

/-! ## What the index keeps -/

/-- The index has, under each path, the fingerprints of the last of the items seen. -/
structure Tracks (index : Index) (seen : List (String × Fingerprints)) : Prop where
  texts : IsTextIndex index
  last : ∀ path, fingerprints index path = (withPath seen path).getLast?

theorem tracks_nil : Tracks [] [] := ⟨Keyed.isMapTo_nil IndexEntry.IsText, fun _ => rfl⟩

variable {index : Index} {seen : List (String × Fingerprints)} {v : Value}

/-- Putting an item under its path keeps track of it. -/
theorem Tracks.put (h : Tracks index seen) {e : IndexEntry} (he : e.IsText) (path : String) :
    Tracks (index.put (.str path) e) (seen ++ [(path, e.signatureHash, e.bodyHash)]) := by
  refine ⟨h.texts.put path he, fun other => ?_⟩
  rw [withPath_concat]
  by_cases heq : path = other
  · subst heq
    simp [fingerprints]
  · rw [fingerprints, Keyed.get?_put_of_ne heq, ← fingerprints, h.last]
    simp [heq]

theorem IndexEntry.ofItem_fingerprints (h : HasTexts entryFields v) (kind : String) :
    ∃ e, IndexEntry.ofItem kind v = .ok e ∧ e.IsText
      ∧ (e.signatureHash, e.bodyHash) = fingerprintsOf v := by
  obtain ⟨e, he, htext⟩ := IndexEntry.ofItem_isText h kind
  refine ⟨e, he, htext, ?_⟩
  simp only [IndexEntry.ofItem, bind_eq_ok] at he
  obtain ⟨signature, hsignature, body, hbody, name, -, kind, -, he⟩ := he
  cases he
  simp [fingerprintsOf, held, hsignature, hbody, Except.toOption]

theorem addItem_tracks (hv : HasTexts itemFields v) (kind : String) (h : Tracks index seen) :
    ∃ index', addItem kind index v = .ok index' ∧ Tracks index' (seen ++ [listedItem v]) := by
  obtain ⟨e, he, htext, hprints⟩ :=
    IndexEntry.ofItem_fingerprints (hv.mono (List.subset_cons_self _ _)) kind
  obtain ⟨path, hpath⟩ := hv.texts "full_path" (by decide)
  have hlisted : listedItem v = (path, e.signatureHash, e.bodyHash) := by
    rw [listedItem, held_of_field hpath, ← hprints]
    rfl
  refine ⟨index.put (.str path) e, ?_, hlisted ▸ h.put htext path⟩
  rw [addItem, he, hpath]
  rfl

theorem addMethod_tracks {cls : Value} (hcls : HasTexts itemFields cls)
    (hv : HasTexts entryFields v) (h : Tracks index seen) :
    ∃ index', addMethod cls index v = .ok index'
      ∧ Tracks index' (seen ++ [listedMethod cls v]) := by
  obtain ⟨e, he, htext, hprints⟩ := IndexEntry.ofItem_fingerprints hv "function"
  obtain ⟨path, hpath⟩ := hcls.texts "full_path" (by decide)
  obtain ⟨name, hname⟩ := hv.texts "name" (by decide)
  have hlisted : listedMethod cls v = (path ++ "." ++ name, e.signatureHash, e.bodyHash) := by
    rw [listedMethod, held_of_field hpath, held_of_field hname, ← hprints]
    rfl
  refine ⟨index.put (.str (path ++ "." ++ name)) e, ?_, hlisted ▸ h.put htext _⟩
  rw [addMethod, hpath, hname, he]
  rfl

/-- What keeps track of each item keeps track of all of them. -/
theorem foldlM_tracks {f : Index → Value → Answer Index}
    {g : Value → List (String × Fingerprints)} {items : List Value}
    (hstep : ∀ v ∈ items, ∀ index seen, Tracks index seen →
      ∃ index', f index v = .ok index' ∧ Tracks index' (seen ++ g v))
    (h : Tracks index seen) :
    ∃ index', items.foldlM f index = .ok index' ∧ Tracks index' (seen ++ items.flatMap g) := by
  induction items generalizing index seen with
  | nil => exact ⟨index, rfl, by simpa using h⟩
  | cons v items ih =>
    obtain ⟨mid, hmid, htracks⟩ := hstep v List.mem_cons_self index seen h
    obtain ⟨last, hlast, hall⟩ := ih (fun w hw => hstep w (List.mem_cons_of_mem v hw)) htracks
    refine ⟨last, ?_, ?_⟩
    · rw [List.foldlM_cons, hmid]
      exact hlast
    · rwa [List.flatMap_cons, ← List.append_assoc]

theorem addClass_tracks {cls : Value} (hcls : IsClassItem cls) (h : Tracks index seen) :
    ∃ index', addClass index cls = .ok index' ∧ Tracks index' (seen ++ listedClass cls) := by
  obtain ⟨methods, hmethods, hall⟩ := hcls.methods
  obtain ⟨mid, hmid, htracks⟩ := addItem_tracks hcls.texts "class" h
  obtain ⟨last, hlast, hlisted⟩ := foldlM_tracks (g := fun m => [listedMethod cls m])
    (fun m hm index seen h => addMethod_tracks hcls.texts (hall m hm) h) htracks
  refine ⟨last, ?_, ?_⟩
  · rw [addClass, hmid, itemsOf_of_field hmethods]
    exact hlast
  · rw [listedClass, heldItems_of_field hmethods]
    simpa [List.map_eq_flatMap] using hlisted

/-- The index of data has, under each path, the fingerprints of the last item with it. -/
theorem indexOf_tracks {data : Entries} (h : IsCatalog data) :
    ∃ index, indexOf (.dict data) = .ok index ∧ Tracks index (listed (.dict data)) := by
  obtain ⟨fs, hfs, hf⟩ := h.functions
  obtain ⟨es, hes, he⟩ := h.endpoints
  obtain ⟨cs, hcs, hc⟩ := h.classes
  have hsub : itemFields ⊆ callableFields := List.subset_cons_self _ _
  obtain ⟨index₁, h₁, ht₁⟩ := foldlM_tracks (g := fun f => [listedItem f])
    (fun f hmem index seen h => addItem_tracks ((hf f hmem).mono hsub) "function" h) tracks_nil
  obtain ⟨index₂, h₂, ht₂⟩ := foldlM_tracks (g := fun f => [listedItem f])
    (fun f hmem index seen h => addItem_tracks ((he f hmem).mono hsub) "api" h) ht₁
  obtain ⟨index₃, h₃, ht₃⟩ := foldlM_tracks (g := listedClass)
    (fun c hmem index seen h => addClass_tracks (hc c hmem) h) ht₂
  refine ⟨index₃, ?_, ?_⟩
  · simp only [indexOf, itemsOf_of_field hfs, itemsOf_of_field hes, itemsOf_of_field hcs, bind,
      Except.bind, h₁, h₂]
    exact h₃
  · rw [listed, heldItems_of_field hfs, heldItems_of_field hes, heldItems_of_field hcs]
    simpa [List.map_eq_flatMap] using ht₃

/-! ## What is reported -/

/-- There is a record of a change for the path. -/
def Reports (cs : List Change) (path : String) : Prop := ∃ c ∈ cs, c.path = .str path

theorem AreChanges.reports_iff {old new : Index} {cs : List Change} (h : AreChanges old new cs)
    (hold : IsTextIndex old) (hnew : IsTextIndex new) (path : String) :
    Reports cs path ↔ fingerprints old path ≠ fingerprints new path := by
  rw [ne_eq, ← changeAt?_eq_none_iff hold hnew, ← ne_eq, Option.ne_none_iff_exists']
  constructor
  · rintro ⟨c, hc, hpath⟩
    exact ⟨c, h.changeAt?_of_mem hc hpath⟩
  · rintro ⟨c, hc⟩
    exact ⟨c, (h.mem_iff c).mpr ⟨path, hc⟩, path_of_changeAt? hc⟩

/-- Where there is at most one item, the last one is all there is. -/
theorem eq_of_getLast?_eq {α : Type} {xs ys : List α} (hxs : xs.length ≤ 1) (hys : ys.length ≤ 1)
    (h : xs.getLast? = ys.getLast?) : xs = ys := by
  match xs, ys, hxs, hys with
  | [], [], _, _ => rfl
  | [], [_], _, _ => simp at h
  | [_], [], _, _ => simp at h
  | [_], [_], _, _ => simpa using h

/-- A change is reported for a path exactly if the last item with the path has other fingerprints
    in the new data than in the old, or one of the two has no such item. Where neither has more
    than one, that is a complete report: whatever differs at the path is reported. -/
theorem reports_iff_last_differs {old new : Entries} (hold : IsCatalog old)
    (hnew : IsCatalog new) :
    ∃ cs, changes (.dict old) (.dict new) = .ok cs ∧ ∀ path,
      (Reports cs path ↔ (fingerprintsAt (.dict old) path).getLast?
          ≠ (fingerprintsAt (.dict new) path).getLast?)
      ∧ ((fingerprintsAt (.dict old) path).length ≤ 1 →
          (fingerprintsAt (.dict new) path).length ≤ 1 →
          (fingerprintsAt (.dict old) path : Multiset Fingerprints)
            ≠ fingerprintsAt (.dict new) path →
          Reports cs path) := by
  obtain ⟨oldIndex, ho, hoTracks⟩ := indexOf_tracks hold
  obtain ⟨newIndex, hn, hnTracks⟩ := indexOf_tracks hnew
  obtain ⟨cs, hcs, hchanges⟩ := changes_areChanges ho hn hoTracks.texts hnTracks.texts
  refine ⟨cs, hcs, fun path => ?_⟩
  have hreports : Reports cs path ↔ (fingerprintsAt (.dict old) path).getLast?
      ≠ (fingerprintsAt (.dict new) path).getLast? := by
    rw [hchanges.reports_iff hoTracks.texts hnTracks.texts, hoTracks.last, hnTracks.last]
    rfl
  refine ⟨hreports, fun hone hone' hne => hreports.mpr fun hlast => hne ?_⟩
  rw [eq_of_getLast?_eq hone hone' hlast]

/-- Data that lists a class with a property and its setter, given fingerprints of the body of the
    class and of that of the property. -/
def propertyData (cls property : String) : Entries := [
  (.str "functions", .list []), (.str "api_endpoints", .list []),
  (.str "classes", .list [.object [
    ("name", .str "C"), ("full_path", .str "m.C"), ("doc_type", .str "class"),
    ("signature_hash", .str "1"), ("body_hash", .str cls),
    ("methods", .list [
      .object [("name", .str "x"), ("doc_type", .str "function"), ("signature_hash", .str "3"),
        ("body_hash", .str property)],
      .object [("name", .str "x"), ("doc_type", .str "function"), ("signature_hash", .str "5"),
        ("body_hash", .str "6")]])]])]

theorem propertyData_isCatalog (cls property : String) : IsCatalog (propertyData cls property) := by
  refine ⟨⟨by simp [propertyData], by simp [propertyData]⟩, ⟨[], rfl, by simp⟩, ⟨[], rfl, by simp⟩,
    ⟨_, rfl, ?_⟩⟩
  rw [List.forall_mem_singleton]
  refine ⟨⟨⟨_, rfl, Keyed.hasTextKeys_ofFields (by simp)⟩, ?_⟩, _, rfl, ?_⟩
  · simp only [itemFields, entryFields, List.forall_mem_cons]
    exact ⟨⟨_, rfl⟩, ⟨_, rfl⟩, ⟨_, rfl⟩, ⟨_, rfl⟩, ⟨_, rfl⟩, by simp⟩
  · have hmethod (signature body : String) : HasTexts entryFields (.object [
        ("name", .str "x"), ("doc_type", .str "function"), ("signature_hash", .str signature),
        ("body_hash", .str body)]) := by
      refine ⟨⟨_, rfl, Keyed.hasTextKeys_ofFields (by simp)⟩, ?_⟩
      simp only [entryFields, List.forall_mem_cons]
      exact ⟨⟨_, rfl⟩, ⟨_, rfl⟩, ⟨_, rfl⟩, ⟨_, rfl⟩, by simp⟩
    simp only [List.forall_mem_cons]
    exact ⟨hmethod "3" property, hmethod "5" "6", by simp⟩

/-- The body of a property changes, and no change is reported for its path, because its setter
    has the path too. -/
theorem property_change_unreported :
    IsCatalog (propertyData "2" "4") ∧ IsCatalog (propertyData "7" "8")
      ∧ (fingerprintsAt (.dict (propertyData "2" "4")) "m.C.x" : Multiset Fingerprints)
        ≠ fingerprintsAt (.dict (propertyData "7" "8")) "m.C.x"
      ∧ ∃ cs, changes (.dict (propertyData "2" "4")) (.dict (propertyData "7" "8")) = .ok cs
        ∧ Reports cs "m.C" ∧ ¬ Reports cs "m.C.x" := by
  have hold := propertyData_isCatalog "2" "4"
  have hnew := propertyData_isCatalog "7" "8"
  have hprints (cls property : String) :
      fingerprintsAt (.dict (propertyData cls property)) "m.C" = [(.str "1", .str cls)]
      ∧ fingerprintsAt (.dict (propertyData cls property)) "m.C.x"
        = [(.str "3", .str property), (.str "5", .str "6")] := ⟨rfl, rfl⟩
  obtain ⟨cs, hcs, hreports⟩ := reports_iff_last_differs hold hnew
  refine ⟨hold, hnew, ?_, cs, hcs, ?_, ?_⟩
  · rw [(hprints "2" "4").2, (hprints "7" "8").2, ne_eq, Multiset.coe_eq_coe]
    intro hperm
    have hmem := hperm.subset List.mem_cons_self
    simp at hmem
  · rw [(hreports "m.C").1, (hprints "2" "4").1, (hprints "7" "8").1]
    simp
  · rw [(hreports "m.C.x").1, (hprints "2" "4").2, (hprints "7" "8").2]
    simp

end Docsmith.Report
