-- SUMMARY: What the record of a source file holds of its definitions.
import Docsmith.Catalog.Scan
import Docsmith.Proofs.Answer

/-!
# Scanned definitions

A file is documented exactly if each of its classes and functions is, and the
records stand in the order of the definitions. What a routine is shown as comes
from its documentation, under the metadata that its decorators give.
-/

namespace Docsmith

open Source

/-! ## Routines -/

theorem printing_eq_ok {α : Type} {r : Except PrintFault α} {a : α} :
    printing r = .ok a ↔ r = .ok a := by
  cases r <;> simp [printing, Except.mapError]

/-- What the record of a routine holds of its definition, given the metadata of its decorators. -/
structure Routine.Records (r : Routine) (s : Scan) (f : FunctionDef) (info : Entries) : Prop where
  docstring : s.docstring f info = .ok r.docstring
  signature : f.signature = .ok r.signature
  decorators : f.decorators.mapM Expr.decoratorName = .ok r.decorators
  kind : r.kind = r.docstring.kind
  name : r.name = f.name
  module : r.module = s.module
  calls : r.calls = f.calls

theorem Scan.routine_eq_ok {s : Scan} {f : FunctionDef} {r : Routine} (h : s.routine f = .ok r) :
    ∃ info, Decorator.metadata f = .ok info ∧ r.Records s f info := by
  unfold Scan.routine at h
  simp only [bind_eq_ok] at h
  obtain ⟨decorators, hdecorators, info, hinfo, docstring, hdocstring, signature, hsignature,
    signatureText, -, statements, -, body, -, h⟩ := h
  obtain rfl := Except.ok.inj h
  exact ⟨info, hinfo, hdocstring, printing_eq_ok.mp hsignature, printing_eq_ok.mp hdecorators, rfl,
    rfl, rfl, rfl⟩

theorem functionDoc_eq_ok {s : Scan} {f : FunctionDef} {d : FunctionDoc}
    (h : s.functionDoc f = .ok d) : ∃ info, Decorator.metadata f = .ok info
      ∧ s.docstring f info = .ok d.docstring ∧ f.signature = .ok d.signature := by
  obtain ⟨r, hr, h⟩ := bind_eq_ok.mp h
  obtain rfl := Except.ok.inj h
  obtain ⟨info, hinfo, hrecords⟩ := Scan.routine_eq_ok hr
  exact ⟨info, hinfo, hrecords.docstring, hrecords.signature⟩

/-- A function is of the kind that its documentation says. -/
theorem functionDoc_kind {s : Scan} {f : FunctionDef} {d : FunctionDoc}
    (h : s.functionDoc f = .ok d) : d.kind = d.docstring.kind := by
  obtain ⟨r, hr, h⟩ := bind_eq_ok.mp h
  obtain rfl := Except.ok.inj h
  obtain ⟨info, -, hrecords⟩ := Scan.routine_eq_ok hr
  exact hrecords.kind

/-! ## Definitions -/

theorem function?_of_class? {stmt : Stmt} {c : ClassDef} (h : stmt.class? = some c) :
    stmt.function? = none := by
  cases stmt <;> first | rfl | cases h

/-- Every class and every function of a file is documented, in order. -/
theorem Scan.definitions_eq_ok {s : Scan} {body : List Stmt} {ds : Definitions} :
    s.definitions body = .ok ds ↔ (classesOf body).mapM s.classDoc = .ok ds.classes
      ∧ (functionsOf body).mapM s.functionDoc = .ok ds.functions := by
  obtain ⟨classes, functions⟩ := ds
  induction body generalizing classes functions with
  | nil => simp [Scan.definitions, classesOf, functionsOf, pure, Except.pure]
  | cons stmt rest ih =>
    simp only [mapM_eq_ok, classesOf, functionsOf] at ih ⊢
    rw [Scan.definitions, List.filterMap_cons, List.filterMap_cons]
    cases hc : stmt.class? with
    | some c =>
      simp only [function?_of_class? hc, bind_eq_ok, List.forall₂_cons_left_iff]
      constructor
      · rintro ⟨doc, hdoc, ⟨cs, fs⟩, hrest, h⟩
        obtain ⟨rfl, rfl⟩ := Definitions.mk.inj (Except.ok.inj h)
        obtain ⟨hcs, hfs⟩ := (ih cs fs).mp hrest
        exact ⟨⟨doc, cs, hdoc, hcs, rfl⟩, hfs⟩
      · rintro ⟨⟨doc, cs, hdoc, hcs, rfl⟩, hfs⟩
        exact ⟨doc, hdoc, ⟨cs, functions⟩, (ih cs functions).mpr ⟨hcs, hfs⟩, rfl⟩
    | none =>
      cases hf : stmt.function? with
      | none => exact ih classes functions
      | some f =>
        simp only [bind_eq_ok, List.forall₂_cons_left_iff]
        constructor
        · rintro ⟨doc, hdoc, ⟨cs, fs⟩, hrest, h⟩
          obtain ⟨rfl, rfl⟩ := Definitions.mk.inj (Except.ok.inj h)
          obtain ⟨hcs, hfs⟩ := (ih cs fs).mp hrest
          exact ⟨hcs, doc, fs, hdoc, hfs, rfl⟩
        · rintro ⟨hcs, doc, fs, hdoc, hfs, rfl⟩
          exact ⟨doc, hdoc, ⟨classes, fs⟩, (ih classes fs).mpr ⟨hcs, hfs⟩, rfl⟩

/-! ## Files -/

section Files

variable {kinds : List CustomKind} {file base : Path} {bytes : List UInt8} {m : ModuleDoc}

/-- The record of a file has its paths. It has the records of its definitions if the text is a
    program, and none if it is not. -/
theorem scanModule_eq_ok (h : scanModule kinds file base bytes = .ok m) :
    m.filePath = file.text ∧ modulePath file base = .ok m.fullPath
      ∧ ((∃ body, parse (readText bytes) = .ok body
          ∧ Scan.definitions ⟨kinds, m.fullPath, (readText bytes).toList⟩ body
            = .ok ⟨m.classes, m.functions⟩)
        ∨ (∃ why, parse (readText bytes) = .error why) ∧ m.classes = [] ∧ m.functions = []) := by
  simp only [scanModule] at h
  split at h
  · cases h
  · rename_i why _ hwhy
    obtain ⟨path, hpath, h⟩ := bind_eq_ok.mp h
    obtain rfl := Except.ok.inj h
    exact ⟨rfl, hpath, .inr ⟨⟨why, hwhy⟩, rfl, rfl⟩⟩
  · rename_i body hbody
    obtain ⟨path, hpath, h⟩ := bind_eq_ok.mp h
    obtain ⟨ds, hds, h⟩ := bind_eq_ok.mp h
    obtain rfl := Except.ok.inj h
    exact ⟨rfl, hpath, .inl ⟨body, hbody, hds⟩⟩

theorem filePath_scanModule (h : scanModule kinds file base bytes = .ok m) :
    m.filePath = file.text :=
  (scanModule_eq_ok h).1

theorem fullPath_scanModule (h : scanModule kinds file base bytes = .ok m) :
    modulePath file base = .ok m.fullPath :=
  (scanModule_eq_ok h).2.1

/-- The functions of a scanned file are those of its text, in order. -/
theorem scanModule_functions {body : List Stmt} (hm : scanModule kinds file base bytes = .ok m)
    (hbody : parse (readText bytes) = .ok body) :
    ∃ s : Scan, s.kinds = kinds
      ∧ List.Forall₂ (fun f d => s.functionDoc f = .ok d) (functionsOf body) m.functions := by
  obtain ⟨-, -, ⟨body', hbody', hds⟩ | ⟨⟨why, hwhy⟩, -⟩⟩ := scanModule_eq_ok hm
  · obtain rfl := Except.ok.inj (hbody.symm.trans hbody')
    exact ⟨_, rfl, mapM_eq_ok.mp (Scan.definitions_eq_ok.mp hds).2⟩
  · cases hbody.symm.trans hwhy

end Files

end Docsmith
