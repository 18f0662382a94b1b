-- SUMMARY: Documentation data lists functions, endpoints and classes with their fields.
import Docsmith.Build.Output
import Docsmith.Proofs.Report.Index

/-!
# The shape of documentation data

The records of a catalog have texts in the fields that are indexed. The data of
a build lists such records, whatever reports are added to it, and so does the
data as it is written.
-/

namespace Docsmith

open Report

theorem MethodDoc.data_hasTexts (m : MethodDoc) : HasTexts entryFields m.data := by
  refine ⟨⟨_, rfl, Keyed.hasTextKeys_ofFields (by simp [Routine.tailData])⟩, ?_⟩
  simp only [entryFields, List.forall_mem_cons]
  exact ⟨⟨_, rfl⟩, ⟨_, rfl⟩, ⟨_, rfl⟩, ⟨_, rfl⟩, by simp⟩

theorem FunctionDoc.data_hasTexts (f : FunctionDoc) : HasTexts callableFields f.data := by
  refine ⟨⟨_, rfl, Keyed.hasTextKeys_ofFields (by simp [Routine.tailData])⟩, ?_⟩
  simp only [callableFields, itemFields, entryFields, List.forall_mem_cons]
  exact ⟨⟨_, rfl⟩, ⟨_, rfl⟩, ⟨_, rfl⟩, ⟨_, rfl⟩, ⟨_, rfl⟩, ⟨_, rfl⟩, by simp⟩

theorem ClassDoc.data_isClassItem (c : ClassDoc) : IsClassItem c.data := by
  refine ⟨⟨⟨_, rfl, Keyed.hasTextKeys_ofFields (by simp)⟩, ?_⟩, c.methods.map MethodDoc.data, rfl,
    ?_⟩
  · simp only [itemFields, entryFields, List.forall_mem_cons]
    exact ⟨⟨_, rfl⟩, ⟨_, rfl⟩, ⟨_, rfl⟩, ⟨_, rfl⟩, ⟨_, rfl⟩, by simp⟩
  · rw [List.forall_mem_map]
    exact fun m _ => m.data_hasTexts

namespace Build

theorem isCatalog_congr {data other : Entries} (h : IsCatalog data)
    (hkeys : Keyed.HasTextKeys other)
    (hlists : ∀ name ∈ listNames, other.getText? name = data.getText? name) : IsCatalog other := by
  have hfield : ∀ name ∈ listNames,
      (Value.dict other).field name = (Value.dict data).field name := by
    intro name hname
    simp only [Value.field, hlists name hname]
  refine ⟨hkeys, ?_, ?_, ?_⟩
  · rw [hfield "functions" (by decide)]
    exact h.functions
  · rw [hfield "api_endpoints" (by decide)]
    exact h.endpoints
  · rw [hfield "classes" (by decide)]
    exact h.classes

theorem isCatalog_putText {data : Entries} (h : IsCatalog data) {name : String}
    (hname : name ∉ listNames) (v : Value) : IsCatalog (data.putText name v) := by
  refine isCatalog_congr h (h.keys.put name v) fun other hother => ?_
  apply Entries.getText?_putText_ne
  rintro rfl
  exact hname hother

theorem catalogData_isCatalog {catalog : Catalog} {settings : Settings} {data : Entries}
    (h : catalogData catalog settings = .ok data) : IsCatalog data := by
  unfold catalogData at h
  obtain ⟨pages, -, h⟩ := bind_eq_ok.mp h
  cases h
  refine ⟨⟨by simp, by simp⟩, ⟨_, rfl, ?_⟩, ⟨_, rfl, ?_⟩, ⟨_, rfl, ?_⟩⟩
  · rw [List.forall_mem_map]
    exact fun f _ => f.data_hasTexts
  · rw [List.forall_mem_map]
    exact fun f _ => f.data_hasTexts
  · rw [List.forall_mem_map]
    exact fun c _ => c.data_isClassItem

/-- Documentation that has not been compared with that of another build. -/
structure IsFresh (data : Entries) : Prop where
  catalog : IsCatalog data
  changes : data.getText? "changes" = none
  breaking : data.getText? "breaking_changes" = none

theorem IsFresh.putText {data : Entries} (h : IsFresh data) {name : String}
    (hname : name ∉ "changes" :: "breaking_changes" :: listNames) (v : Value) :
    IsFresh (data.putText name v) := by
  simp only [List.mem_cons, not_or] at hname
  refine ⟨isCatalog_putText h.catalog hname.2.2 v, ?_, ?_⟩
  · rw [Entries.getText?_putText_ne hname.1]
    exact h.changes
  · rw [Entries.getText?_putText_ne hname.2.1]
    exact h.breaking

theorem documentation_isFresh {catalog : Catalog} {settings : Settings} {data : Entries}
    (h : documentation catalog settings = .ok data) : IsFresh data := by
  unfold documentation at h
  simp only [bind_eq_ok] at h
  obtain ⟨start, hstart, coverage, -, calls, -, todos, -, dead, -, h⟩ := h
  cases h
  have hfresh : IsFresh start := by
    refine ⟨catalogData_isCatalog hstart, ?_, ?_⟩ <;>
    · obtain ⟨pages, -, hstart⟩ := bind_eq_ok.mp hstart
      cases hstart
      rfl
  exact (((hfresh.putText (by decide) _).putText (by decide) _).putText (by decide) _).putText
    (by decide) _

/-- Scanning a project gives fresh documentation. -/
theorem document_isFresh {settings : Settings} {render : String → String} {disk : FileTree}
    {root : Path} {data : Entries} (h : document settings render disk root = .ok data) :
    IsFresh data := by
  unfold document at h
  simp only [bind_eq_ok] at h
  obtain ⟨kinds, -, excludes, -, catalog, -, h⟩ := h
  exact documentation_isFresh h

/-- The data as it is written lists what the data lists. -/
theorem writtenData_shape {data : Entries} (h : IsCatalog data) :
    ∃ written : Entries, writtenData data = .dict written ∧ IsCatalog written
      ∧ ∀ name ∈ listNames, written.getText? name = data.getText? name := by
  have hsame : ∀ name ∈ listNames, ∀ v, (data.putText "config" v).getText? name
      = data.getText? name := by
    intro name hname v
    apply Entries.getText?_putText_ne
    rintro rfl
    revert hname
    decide
  unfold writtenData
  split
  · exact ⟨_, rfl, isCatalog_putText h (by decide) _, fun name hname => hsame name hname _⟩
  · exact ⟨data, rfl, h, fun _ _ => rfl⟩

end Build

end Docsmith
