-- SUMMARY: A call through self does not count as a use of a method.
import Docsmith.Proofs.Report.DeadCode

/-!
# Calls through self

A call is recorded under the name that it is written with, and a method is looked
up under its bare name and under its full path. The name of a call through self
is neither, so such calls change nothing about the report on dead code: a method
that only the methods of its own class call, through self, is reported.
-/

namespace Docsmith

open Source Report

/-! ## Names of calls -/

/-- The method that a callee names through self. -/
def Source.Expr.selfCallee? : Expr → Option String
  | .attribute (.name "self") method => some method
  | _ => none

theorem Source.Expr.calledName_of_selfCallee {e : Expr} {method : String}
    (h : e.selfCallee? = some method) : e.calledName = some ("self." ++ method) := by
  unfold selfCallee? at h
  split at h
  · obtain rfl := Option.some.inj h
    rfl
  · cases h

/-- A callee has the name or the path of something that may be reported. -/
def Source.Expr.Names (e : Expr) (s : Suspect) : Prop :=
  e.calledName = some s.name ∨ e.calledName = some s.path

instance (e : Expr) (s : Suspect) : Decidable (e.Names s) := inferInstanceAs (Decidable (_ ∨ _))

/-- The function is neither private nor the main function, and has no decorators. -/
structure Source.FunctionDef.IsOrdinary (f : FunctionDef) : Prop where
  isPublic : f.name.startsWith "_" = false
  notMain : f.name ≠ "main"
  plain : f.decorators = []

instance (f : FunctionDef) : Decidable f.IsOrdinary :=
  decidable_of_iff (f.name.startsWith "_" = false ∧ f.name ≠ "main" ∧ f.decorators.isEmpty)
    ⟨fun ⟨h₁, h₂, h₃⟩ => ⟨h₁, h₂, List.isEmpty_iff.mp h₃⟩,
      fun h => ⟨h.isPublic, h.notMain, List.isEmpty_iff.mpr h.plain⟩⟩

theorem Routine.IsOf.isOrdinary_iff {r : Routine} {module : String} {f : FunctionDef}
    (h : r.IsOf module f) : r.IsOrdinary ↔ f.IsOrdinary := by
  constructor
  · rintro ⟨hpublic, hmain, hplain⟩
    exact ⟨h.name ▸ hpublic, h.name ▸ hmain, h.decorators.mp hplain⟩
  · rintro ⟨hpublic, hmain, hplain⟩
    exact ⟨h.name ▸ hpublic, h.name ▸ hmain, h.decorators.mpr hplain⟩

namespace Program

/-- A method of a class in a program, as it is reported. -/
def suspect (p : Program) (c : ClassDef) (f : FunctionDef) : Suspect :=
  ⟨p.scan.module ++ "." ++ c.name ++ "." ++ f.name, f.name, "method", p.scan.module⟩

/-- A call through self has neither the name nor the path of the method. -/
theorem not_names_of_selfCallee {e : Expr} {p : Program} {c : ClassDef} {f : FunctionDef}
    (h : e.selfCallee? = some f.name) : ¬ e.Names (p.suspect c f) := by
  have hname := Expr.calledName_of_selfCallee h
  rintro (hbare | hpath)
  · have heq : "self." ++ f.name = f.name := Option.some.inj (hname.symm.trans hbare)
    have hlength := congrArg String.length heq
    simp at hlength
  · -- The path has a point before the class and one after it, the name of the call only one.
    have heq : "self." ++ f.name = p.scan.module ++ "." ++ c.name ++ "." ++ f.name :=
      Option.some.inj (hname.symm.trans hpath)
    have hpoints := congrArg (fun s => s.toList.count '.') heq
    simp [List.count_append] at hpoints
    omega

theorem suspect_eq {p : Program} {d : ClassDef} {f : FunctionDef} {c : ClassDoc} {m : MethodDoc}
    (hc : p.scan.classDoc d = .ok c) (hm : p.scan.methodDoc f = .ok m) :
    c.suspect m = p.suspect d f := by
  obtain ⟨-, hmodule, hpath⟩ := Scan.classDoc_eq_ok hc
  have hname := (Scan.methodDoc_isOf hm).name
  simp [ClassDoc.suspect, ClassDoc.methodPath, suspect, hmodule, hpath, hname]

end Program

/-! ## Callers -/

namespace Build

variable {catalog : Catalog} {ps : List Program}

theorem mem_callersIn {k : Caller} : k ∈ callersIn catalog
    ↔ (∃ f ∈ functionsOf catalog, f.caller = k)
      ∨ ∃ c ∈ classesOf catalog, ∃ m ∈ c.methods, c.caller m = k := by
  simp only [callersIn, ← List.flatMap_def, mem_functionsOf_iff, List.mem_append, List.mem_map,
    List.mem_flatMap, or_and_right, exists_or]

/-- A name is in the calls of a catalog exactly if it is that of a callee in a program. -/
theorem exists_caller_iff (h : catalog.IsOf ps) (name : String) :
    (∃ k ∈ callersIn catalog, name ∈ k.callees)
      ↔ ∃ p ∈ ps, ∃ e ∈ p.callees, e.calledName = some name := by
  constructor
  · rintro ⟨k, hk, hname⟩
    obtain ⟨d, hd, rfl⟩ | ⟨c, hc, m, hm, rfl⟩ := mem_callersIn.mp hk
    · obtain ⟨p, hp, f, hf, hdoc⟩ := (h.functions d).mp hd
      have hcalls : name ∈ f.calls := (Scan.functionDoc_isOf hdoc).1.calls ▸ hname
      obtain ⟨e, he, hcalled⟩ := FunctionDef.mem_calls.mp hcalls
      exact ⟨p, hp, e, Program.mem_callees.mpr (.inl ⟨f, hf, he⟩), hcalled⟩
    · obtain ⟨p, hp, d, hd, f, hf, -, hdoc⟩ := (h.methods c m).mp ⟨hc, hm⟩
      have hcalls : name ∈ f.calls := (Scan.methodDoc_isOf hdoc).calls ▸ hname
      obtain ⟨e, he, hcalled⟩ := FunctionDef.mem_calls.mp hcalls
      exact ⟨p, hp, e, Program.mem_callees.mpr (.inr ⟨d, hd, f, hf, he⟩), hcalled⟩
  · rintro ⟨p, hp, e, he, hcalled⟩
    obtain ⟨f, hf, he⟩ | ⟨d, hd, f, hf, he⟩ := Program.mem_callees.mp he
    · obtain ⟨doc, hdoc⟩ := (h.answers p hp).1 f hf
      have hlisted := (h.functions doc).mpr ⟨p, hp, f, hf, hdoc⟩
      refine ⟨doc.caller, mem_callersIn.mpr (.inl ⟨doc, hlisted, rfl⟩), ?_⟩
      rw [FunctionDoc.caller, (Scan.functionDoc_isOf hdoc).1.calls]
      exact FunctionDef.mem_calls.mpr ⟨e, he, hcalled⟩
    · obtain ⟨c, m, hc, hm⟩ := h.exists_methodDoc hp hd hf
      obtain ⟨hclass, hmethod⟩ := (h.methods c m).mpr ⟨p, hp, d, hd, f, hf, hc, hm⟩
      refine ⟨c.caller m, mem_callersIn.mpr (.inr ⟨c, hclass, m, hmethod, rfl⟩), ?_⟩
      rw [ClassDoc.caller, (Scan.methodDoc_isOf hm).calls]
      exact FunctionDef.mem_calls.mpr ⟨e, he, hcalled⟩

/-! ## Reported methods -/

theorem name_ne_method (k : Kind) : k.name ≠ "method" := by
  cases k <;> decide

/-- What may be reported as a method of a program is a method with the same name and path. -/
theorem suspect_mem_suspectsIn_iff (h : catalog.IsOf ps) (p : Program) (c : ClassDef)
    (f : FunctionDef) : p.suspect c f ∈ suspectsIn catalog
      ↔ ∃ q ∈ ps, ∃ d ∈ Source.classesOf q.body, ∃ g ∈ Source.functionsOf d.body,
        g.IsOrdinary ∧ q.suspect d g = p.suspect c f := by
  rw [mem_suspectsIn]
  constructor
  · rintro (⟨d, hd, -, heq⟩ | ⟨k, hk, m, hm, hordinary, heq⟩)
    · exact absurd (congrArg Suspect.kind heq) (name_ne_method d.kind)
    · obtain ⟨q, hq, d, hd, g, hg, hdoc, hmethod⟩ := (h.methods k m).mp ⟨hk, hm⟩
      rw [Program.suspect_eq hdoc hmethod] at heq
      exact ⟨q, hq, d, hd, g, hg, (Scan.methodDoc_isOf hmethod).isOrdinary_iff.mp hordinary, heq⟩
  · rintro ⟨q, hq, d, hd, g, hg, hordinary, heq⟩
    obtain ⟨k, m, hdoc, hmethod⟩ := h.exists_methodDoc hq hd hg
    obtain ⟨hk, hm⟩ := (h.methods k m).mpr ⟨q, hq, d, hd, g, hg, hdoc, hmethod⟩
    refine .inr ⟨k, hk, m, hm, (Scan.methodDoc_isOf hmethod).isOrdinary_iff.mpr hordinary, ?_⟩
    rw [Program.suspect_eq hdoc hmethod, heq]

/-- A suspect is called in no program exactly if no caller of the catalog calls it. -/
theorem uncalled_iff (h : catalog.IsOf ps) (s : Suspect) :
    (∀ k ∈ callersIn catalog, s.name ∉ k.callees ∧ s.path ∉ k.callees)
      ↔ ∀ q ∈ ps, ∀ e ∈ q.callees, ¬ e.Names s := by
  constructor
  · rintro hcallers q hq e he (hname | hpath)
    · obtain ⟨k, hk, hmem⟩ := (exists_caller_iff h s.name).mpr ⟨q, hq, e, he, hname⟩
      exact (hcallers k hk).1 hmem
    · obtain ⟨k, hk, hmem⟩ := (exists_caller_iff h s.path).mpr ⟨q, hq, e, he, hpath⟩
      exact (hcallers k hk).2 hmem
  · intro hcallees k hk
    constructor
    · intro hmem
      obtain ⟨q, hq, e, he, hname⟩ := (exists_caller_iff h s.name).mp ⟨k, hk, hmem⟩
      exact hcallees q hq e he (.inl hname)
    · intro hmem
      obtain ⟨q, hq, e, he, hpath⟩ := (exists_caller_iff h s.path).mp ⟨k, hk, hmem⟩
      exact hcallees q hq e he (.inr hpath)

/-- Calls through self are no uses: a method is reported exactly if a method of its name and path
    may be reported at all, and no callee other than the method through self has its name or its
    path. -/
theorem reported_despite_self_calls {options : ScanOptions} {disk : FileTree} {root : Path}
    {settings : Settings} {data : Entries} (hscan : scanDirectory options disk root = .ok catalog)
    (hdata : documentation catalog settings = .ok data) :
    ∃ dead, data.getText? "dead_code" = some (.list dead)
      ∧ ∀ p ∈ programs options disk root, ∀ c ∈ Source.classesOf p.body,
        ∀ f ∈ Source.functionsOf c.body, (p.suspect c f).data ∈ dead
          ↔ (∃ q ∈ programs options disk root, ∃ d ∈ Source.classesOf q.body,
              ∃ g ∈ Source.functionsOf d.body, g.IsOrdinary ∧ q.suspect d g = p.suspect c f)
            ∧ ∀ q ∈ programs options disk root, ∀ e ∈ q.callees,
              e.selfCallee? ≠ some f.name → ¬ e.Names (p.suspect c f) := by
  have hof := scanDirectory_isOf hscan
  obtain ⟨-, hdead⟩ := documentation_deadCode hdata
  refine ⟨_, hdead, ?_⟩
  intro p _ c _ f _
  rw [← suspect_mem_suspectsIn_iff hof]
  have hself : (∀ q ∈ programs options disk root, ∀ e ∈ q.callees,
        e.selfCallee? ≠ some f.name → ¬ e.Names (p.suspect c f))
      ↔ ∀ q ∈ programs options disk root, ∀ e ∈ q.callees, ¬ e.Names (p.suspect c f) := by
    refine forall₄_congr fun q _ e _ => ⟨fun h => ?_, fun h _ => h⟩
    by_cases hcallee : e.selfCallee? = some f.name
    · exact Program.not_names_of_selfCallee hcallee
    · exact h hcallee
  rw [hself, ← uncalled_iff hof]
  constructor
  · intro hmem
    obtain ⟨s, hs, -, heq⟩ := mem_reportOn.mp hmem
    obtain rfl := Suspect.data_injective heq
    exact ⟨hs, (data_mem_report_iff hs).mp hmem⟩
  · rintro ⟨hs, huncalled⟩
    exact (data_mem_report_iff hs).mpr huncalled

/-- A project with one class, in which one method calls the other through self. -/
def selfCall : FileTree := .folder [("src", .folder [("m.py",
  .ofText "class C:\n    def a(self):\n        self.b()\n\n    def b(self):\n        pass\n")])]

theorem selfCall_documented :
    ∃ catalog, scanDirectory {} selfCall ⟨"", ["src"]⟩ = .ok catalog
      ∧ ∃ data, documentation catalog ⟨[], none⟩ = .ok data ∧ True := by
  decide +kernel

theorem selfCall_calls :
    ∃ p ∈ programs {} selfCall ⟨"", ["src"]⟩, ∃ c ∈ Source.classesOf p.body,
      ∃ a ∈ Source.functionsOf c.body, ∃ b ∈ Source.functionsOf c.body,
        (∃ e ∈ calleesOf a.outlines, e.selfCallee? = some b.name) ∧ b.IsOrdinary
        ∧ ∀ q ∈ programs {} selfCall ⟨"", ["src"]⟩, ∀ e ∈ q.callees, ¬ e.Names (p.suspect c b) := by
  decide +kernel

/-- The method is called, and yet it is reported. -/
theorem selfCall_reported :
    ∃ catalog data dead, scanDirectory {} selfCall ⟨"", ["src"]⟩ = .ok catalog
      ∧ documentation catalog ⟨[], none⟩ = .ok data
      ∧ data.getText? "dead_code" = some (.list dead)
      ∧ ∃ p ∈ programs {} selfCall ⟨"", ["src"]⟩, ∃ c ∈ Source.classesOf p.body,
        ∃ a ∈ Source.functionsOf c.body, ∃ b ∈ Source.functionsOf c.body,
          (∃ e ∈ calleesOf a.outlines, e.selfCallee? = some b.name)
          ∧ (p.suspect c b).data ∈ dead := by
  obtain ⟨catalog, hscan, data, hdata, -⟩ := selfCall_documented
  obtain ⟨p, hp, c, hc, a, ha, b, hb, hcall, hordinary, huncalled⟩ := selfCall_calls
  obtain ⟨dead, hdead, hreported⟩ := reported_despite_self_calls hscan hdata
  refine ⟨catalog, data, dead, hscan, hdata, hdead, p, hp, c, hc, a, ha, b, hb, hcall, ?_⟩
  apply (hreported p hp c hc b hb).mpr
  exact ⟨⟨p, hp, c, hc, b, hb, hordinary, rfl⟩, fun q hq e he _ => huncalled q hq e he⟩

end Build

end Docsmith
