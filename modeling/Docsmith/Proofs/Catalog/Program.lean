-- SUMMARY: The programs of a project, and what a catalog holds of them.
import Docsmith.Build.Data
import Docsmith.Proofs.Catalog.Scan
import Docsmith.Proofs.Source.Calls

/-!
# Programs

The programs of a project are the source files below its root that can be parsed.
A catalog has a record for each function and each class of a program, and no
others; the record of a class has one for each method. Records keep the names,
the calls and the number of decorators of the definitions that they are made from.
-/

namespace Docsmith

open Source

/-- A source file that is a program, as it is scanned. -/
structure Program where
  scan : Scan
  body : List Stmt

namespace Program

/-- The functions and the methods of a program. -/
def routines (p : Program) : List FunctionDef :=
  functionsOf p.body ++ (classesOf p.body).flatMap fun c => functionsOf c.body

/-- Everything that is called in a program. -/
def callees (p : Program) : List Expr := p.routines.flatMap fun f => calleesOf f.outlines

/-- The file has this record. -/
structure IsDocumentedBy (p : Program) (m : ModuleDoc) : Prop where
  classes : (classesOf p.body).mapM p.scan.classDoc = .ok m.classes
  functions : (functionsOf p.body).mapM p.scan.functionDoc = .ok m.functions

end Program

/-- The program that a file holds. -/
def program? (kinds : List CustomKind) (root : Path) (f : ProjectFile) : Option Program :=
  match parse (readText f.bytes), modulePath f.path root with
  | .ok body, .ok module => some ⟨⟨kinds, module, (readText f.bytes).toList⟩, body⟩
  | _, _ => none

/-- The programs below a root. -/
def programs (options : ScanOptions) (disk : FileTree) (root : Path) : List Program :=
  (findFiles .sources options.excludes disk root).filterMap (program? options.kinds root)

/-! ## Records of definitions -/

/-- A record keeps the name and the calls of a routine, and has a name for each decorator. -/
structure Routine.IsOf (r : Routine) (module : String) (f : FunctionDef) : Prop where
  name : r.name = f.name
  module : r.module = module
  calls : r.calls = f.calls
  decorators : r.decorators = [] ↔ f.decorators = []

theorem Scan.routine_isOf {s : Scan} {f : FunctionDef} {r : Routine} (h : s.routine f = .ok r) :
    r.IsOf s.module f := by
  obtain ⟨info, -, hrecords⟩ := Scan.routine_eq_ok h
  have hlength := (mapM_eq_ok.mp hrecords.decorators).length_eq
  refine ⟨hrecords.name, hrecords.module, hrecords.calls, ?_⟩
  rw [← List.length_eq_zero_iff, ← List.length_eq_zero_iff, hlength]

theorem Scan.functionDoc_isOf {s : Scan} {f : FunctionDef} {d : FunctionDoc}
    (h : s.functionDoc f = .ok d) : d.IsOf s.module f ∧ d.fullPath = s.module ++ "." ++ f.name := by
  obtain ⟨r, hr, h⟩ := bind_eq_ok.mp h
  obtain rfl := Except.ok.inj h
  exact ⟨Scan.routine_isOf hr, rfl⟩

theorem Scan.methodDoc_isOf {s : Scan} {f : FunctionDef} {d : MethodDoc}
    (h : s.methodDoc f = .ok d) : d.IsOf s.module f := by
  obtain ⟨r, hr, h⟩ := bind_eq_ok.mp h
  obtain rfl := Except.ok.inj h
  exact Scan.routine_isOf hr

/-- The record of a class has one for each method. -/
theorem Scan.classDoc_eq_ok {s : Scan} {c : ClassDef} {d : ClassDoc} (h : s.classDoc c = .ok d) :
    (functionsOf c.body).mapM s.methodDoc = .ok d.methods
      ∧ d.module = s.module ∧ d.fullPath = s.module ++ "." ++ c.name := by
  unfold Scan.classDoc at h
  simp only [bind_eq_ok] at h
  obtain ⟨bases, -, decorators, -, methods, hmethods, signatureText, -, h⟩ := h
  obtain rfl := Except.ok.inj h
  exact ⟨hmethods, rfl, rfl⟩

/-! ## Records of files -/

/-- A file that is a program is documented as one, and every other file has no definitions. -/
theorem scanModule_program {kinds : List CustomKind} {root : Path} {f : ProjectFile}
    {m : ModuleDoc} (h : scanModule kinds f.path root f.bytes = .ok m) :
    (∃ p, program? kinds root f = some p ∧ p.IsDocumentedBy m)
      ∨ program? kinds root f = none ∧ m.classes = [] ∧ m.functions = [] := by
  unfold program?
  obtain ⟨-, hpath, ⟨body, hbody, hds⟩ | ⟨⟨why, hwhy⟩, hempty⟩⟩ := scanModule_eq_ok h
  · obtain ⟨hclasses, hfunctions⟩ := Scan.definitions_eq_ok.mp hds
    left
    simp only [hbody, hpath]
    exact ⟨_, rfl, hclasses, hfunctions⟩
  · right
    simp only [hwhy]
    exact ⟨trivial, hempty⟩

/-- All classes of a catalog. -/
def Build.classesOf (catalog : Catalog) : List ClassDoc := catalog.modules.flatMap (·.classes)

section Directory

variable {options : ScanOptions} {disk : FileTree} {root : Path} {catalog : Catalog}

theorem mem_modules (h : scanDirectory options disk root = .ok catalog) {m : ModuleDoc} :
    m ∈ catalog.modules ↔ ∃ f ∈ findFiles .sources options.excludes disk root,
      scanModule options.kinds f.path root f.bytes = .ok m := by
  obtain ⟨modules, hmodules, h⟩ := bind_eq_ok.mp h
  obtain rfl := Except.ok.inj h
  rw [List.mem_mergeSort, mem_mapM hmodules]

theorem exists_record (h : scanDirectory options disk root = .ok catalog) {p : Program}
    (hp : p ∈ programs options disk root) : ∃ m ∈ catalog.modules, p.IsDocumentedBy m := by
  obtain ⟨f, hf, hprogram⟩ := List.mem_filterMap.mp hp
  obtain ⟨modules, hmodules, -⟩ := bind_eq_ok.mp h
  obtain ⟨m, hm⟩ := hasAnswer_mapM.mp ⟨modules, hmodules⟩ f hf
  refine ⟨m, (mem_modules h).mpr ⟨f, hf, hm⟩, ?_⟩
  obtain ⟨q, hq, hdocumented⟩ | ⟨hnone, -⟩ := scanModule_program hm
  · obtain rfl := Option.some.inj (hprogram.symm.trans hq)
    exact hdocumented
  · simp [hprogram] at hnone

theorem exists_program (h : scanDirectory options disk root = .ok catalog) {m : ModuleDoc}
    (hm : m ∈ catalog.modules) : (∃ p ∈ programs options disk root, p.IsDocumentedBy m)
      ∨ m.classes = [] ∧ m.functions = [] := by
  obtain ⟨f, hf, hscan⟩ := (mem_modules h).mp hm
  obtain ⟨p, hp, hdocumented⟩ | ⟨-, hempty⟩ := scanModule_program hscan
  · exact .inl ⟨p, List.mem_filterMap.mpr ⟨f, hf, hp⟩, hdocumented⟩
  · exact .inr hempty

/-- The catalog has the records of these programs and no others. -/
structure Catalog.IsOf (catalog : Catalog) (ps : List Program) : Prop where
  functions : ∀ d, d ∈ Build.functionsOf catalog
    ↔ ∃ p ∈ ps, ∃ f ∈ functionsOf p.body, p.scan.functionDoc f = .ok d
  classes : ∀ d, d ∈ Build.classesOf catalog
    ↔ ∃ p ∈ ps, ∃ c ∈ classesOf p.body, p.scan.classDoc c = .ok d
  answers : ∀ p ∈ ps, (∀ f ∈ functionsOf p.body, HasAnswer (p.scan.functionDoc f))
    ∧ ∀ c ∈ classesOf p.body, HasAnswer (p.scan.classDoc c)

/-- A scan gives the catalog of the programs below the root. -/
theorem scanDirectory_isOf (h : scanDirectory options disk root = .ok catalog) :
    catalog.IsOf (programs options disk root) := by
  refine ⟨fun d => ⟨?_, ?_⟩, fun d => ⟨?_, ?_⟩, fun p hp => ?_⟩
  · intro hd
    obtain ⟨m, hm, hd⟩ := List.mem_flatMap.mp hd
    obtain ⟨p, hp, hdocumented⟩ | ⟨-, hempty⟩ := exists_program h hm
    · exact ⟨p, hp, (mem_mapM hdocumented.functions).mp hd⟩
    · simp [hempty] at hd
  · rintro ⟨p, hp, hd⟩
    obtain ⟨m, hm, hdocumented⟩ := exists_record h hp
    exact List.mem_flatMap.mpr ⟨m, hm, (mem_mapM hdocumented.functions).mpr hd⟩
  · intro hd
    obtain ⟨m, hm, hd⟩ := List.mem_flatMap.mp hd
    obtain ⟨p, hp, hdocumented⟩ | ⟨hempty, -⟩ := exists_program h hm
    · exact ⟨p, hp, (mem_mapM hdocumented.classes).mp hd⟩
    · simp [hempty] at hd
  · rintro ⟨p, hp, hd⟩
    obtain ⟨m, hm, hdocumented⟩ := exists_record h hp
    exact List.mem_flatMap.mpr ⟨m, hm, (mem_mapM hdocumented.classes).mpr hd⟩
  · obtain ⟨m, -, hdocumented⟩ := exists_record h hp
    exact ⟨hasAnswer_mapM.mp ⟨_, hdocumented.functions⟩, hasAnswer_mapM.mp ⟨_, hdocumented.classes⟩⟩

end Directory

/-! ## Methods and calls -/

namespace Catalog.IsOf

variable {catalog : Catalog} {ps : List Program}

/-- The methods that a catalog has are those of the classes of the programs. -/
theorem methods (h : catalog.IsOf ps) (c : ClassDoc) (m : MethodDoc) :
    c ∈ Build.classesOf catalog ∧ m ∈ c.methods
      ↔ ∃ p ∈ ps, ∃ d ∈ classesOf p.body, ∃ f ∈ functionsOf d.body,
        p.scan.classDoc d = .ok c ∧ p.scan.methodDoc f = .ok m := by
  constructor
  · rintro ⟨hc, hm⟩
    obtain ⟨p, hp, d, hd, hdoc⟩ := (h.classes c).mp hc
    obtain ⟨f, hf, hmethod⟩ := (mem_mapM (Scan.classDoc_eq_ok hdoc).1).mp hm
    exact ⟨p, hp, d, hd, f, hf, hdoc, hmethod⟩
  · rintro ⟨p, hp, d, hd, f, hf, hdoc, hmethod⟩
    exact ⟨(h.classes c).mpr ⟨p, hp, d, hd, hdoc⟩,
      (mem_mapM (Scan.classDoc_eq_ok hdoc).1).mpr ⟨f, hf, hmethod⟩⟩

/-- Every method of a program has a record. -/
theorem exists_methodDoc (h : catalog.IsOf ps) {p : Program} (hp : p ∈ ps) {d : ClassDef}
    (hd : d ∈ classesOf p.body) {f : FunctionDef} (hf : f ∈ functionsOf d.body) :
    ∃ c m, p.scan.classDoc d = .ok c ∧ p.scan.methodDoc f = .ok m := by
  obtain ⟨c, hc⟩ := (h.answers p hp).2 d hd
  obtain ⟨m, hm⟩ := hasAnswer_mapM.mp ⟨_, (Scan.classDoc_eq_ok hc).1⟩ f hf
  exact ⟨c, m, hc, hm⟩

end Catalog.IsOf

theorem Program.mem_callees {p : Program} {e : Expr} : e ∈ p.callees
    ↔ (∃ f ∈ functionsOf p.body, e ∈ calleesOf f.outlines)
      ∨ ∃ c ∈ classesOf p.body, ∃ f ∈ functionsOf c.body, e ∈ calleesOf f.outlines := by
  simp only [Program.callees, Program.routines, List.flatMap_append, List.flatMap_assoc,
    List.mem_append, List.mem_flatMap]

end Docsmith
