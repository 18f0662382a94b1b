-- SUMMARY: Which source files share a module path.
import Docsmith.Project.ModulePath
import Mathlib.Data.List.Basic

/-!
# Module paths are almost unique

Names that hold no point can be read off a module path again. So two source files
share a module path only if one is a module and the other the start of the package
of the same name. The start of the base has no name of its own and is known as
`__init__`, which is why it can share its path with a package of this name.
-/

namespace Docsmith

/-! ## Paths below a base -/

theorem Path.afterParts?_append (bs ps : List String) : afterParts? bs (bs ++ ps) = some ps := by
  induction bs with
  | nil => rfl
  | cons b bs ih => simpa [afterParts?] using ih

theorem Path.relativeTo?_join (base : Path) (ps : List String) :
    (base.join ps).relativeTo? base = some ps := by
  simp [relativeTo?, join, afterParts?_append]

theorem withoutSourceExtension_append (name : String) :
    withoutSourceExtension (name ++ ".py") = name := by
  have hend : (name ++ ".py").endsWith ".py" = true := by
    rw [← String.endsWith_toSlice, String.Slice.endsWith_string_iff]
    simp
  have hlength : (name ++ ".py").length - 3 = name.toList.length := by
    simp [← String.length_toList]
  rw [withoutSourceExtension, if_pos hend, hlength, String.toList_append, List.take_left,
    String.ofList_toList]

/-! ## Source files -/

/-- A source file below a base: the folders that lead to it, and its name without the extension. -/
structure SourceFile where
  folders : List String
  name : String
deriving DecidableEq

namespace SourceFile

/-- Where the file is. -/
def path (base : Path) (f : SourceFile) : Path := base.join (f.folders ++ [f.name ++ ".py"])

/-- Neither the folders nor the name hold a point. -/
def IsPlain (f : SourceFile) : Prop := ∀ n ∈ f.folders ++ [f.name], '.' ∉ n.toList

instance (f : SourceFile) : Decidable f.IsPlain :=
  inferInstanceAs (Decidable (∀ n ∈ f.folders ++ [f.name], '.' ∉ n.toList))

/-- The names in the module path of the file. The start of a package goes by its folders, but at
    the base there are none. -/
def names (f : SourceFile) : List String :=
  if f.name = "__init__" then if f.folders = [] then ["__init__"] else f.folders
  else f.folders ++ [f.name]

/-- The first file is `P.py` and the second is `P/__init__.py`. Where `P` itself is called
    `__init__`, the first is the start of a package, and this is the base. -/
structure IsModuleBeside (f g : SourceFile) : Prop where
  folders : g.folders = f.folders ++ [f.name]
  name : g.name = "__init__"
  base : f.name = "__init__" → f.folders = []

variable {f g : SourceFile}

theorem names_ne_nil (f : SourceFile) : f.names ≠ [] := by
  unfold names
  split
  · split <;> simp [*]
  · simp

theorem IsPlain.names (h : f.IsPlain) : ∀ n ∈ f.names, '.' ∉ n.toList := by
  intro n hn
  unfold SourceFile.names at hn
  split at hn
  · split at hn
    · rw [List.mem_singleton.mp hn]
      decide
    · exact h n (List.mem_append_left _ hn)
  · exact h n hn

/-- The names of a source file, joined by points, are its module path. -/
theorem modulePath_path (base : Path) (f : SourceFile) :
    modulePath (f.path base) base = .ok (".".intercalate f.names) := by
  have hrelative := Path.relativeTo?_join base (f.folders ++ [f.name ++ ".py"])
  simp only [modulePath, path, hrelative, List.getLast?_concat, List.dropLast_concat, moduleParts,
    withoutSourceExtension_append, names, beq_iff_eq]
  by_cases hname : f.name = "__init__"
  · rw [if_pos hname, if_pos hname]
    by_cases hfolders : f.folders = []
    · -- No name is left, so the file goes by its own.
      have hlast : (base.join ["__init__.py"]).name = "__init__.py" := by
        simp [Path.name, Path.join]
      have hstem : (base.join ["__init__.py"]).stem = "__init__" := by
        rw [Path.stem, hlast]
        decide
      simp [hfolders, hname, hstem]
    · rw [if_neg hfolders]
      split
      · exact absurd ‹_› hfolders
      · rfl
  · rw [if_neg hname, if_neg hname]
    split
    · exact absurd ‹_› (by simp)
    · rfl

/-- Names belong to the start of the package that they lead to and to the module that they name. -/
theorem names_eq_concat_iff {ps : List String} {n : String} : f.names = ps ++ [n] ↔
    f = ⟨ps ++ [n], "__init__"⟩ ∨ f = ⟨ps, n⟩ ∧ (n = "__init__" → ps = []) := by
  obtain ⟨folders, name⟩ := f
  simp only [names, mk.injEq]
  by_cases hname : name = "__init__"
  · rw [if_pos hname, hname]
    by_cases hfolders : folders = []
    · rw [if_pos hfolders, hfolders]
      cases ps <;> simp
    · rw [if_neg hfolders]
      constructor
      · intro h
        exact .inl ⟨h, rfl⟩
      · rintro (⟨h, -⟩ | ⟨⟨rfl, rfl⟩, hbase⟩)
        · exact h
        · exact absurd (hbase rfl) hfolders
  · rw [if_neg hname]
    constructor
    · intro h
      obtain ⟨rfl, hn⟩ := List.append_inj' h rfl
      obtain rfl := List.singleton_inj.mp hn
      exact .inr ⟨⟨rfl, rfl⟩, fun h => absurd h hname⟩
    · rintro (⟨-, h⟩ | ⟨⟨rfl, rfl⟩, -⟩)
      · exact absurd h hname
      · rfl

theorem IsModuleBeside.names_eq (h : f.IsModuleBeside g) : f.names = g.names := by
  have hf : f.names = f.folders ++ [f.name] := names_eq_concat_iff.mpr (.inr ⟨rfl, h.base⟩)
  have hg : g.names = f.folders ++ [f.name] := by
    refine names_eq_concat_iff.mpr (.inl ?_)
    rw [← h.folders, ← h.name]
  rw [hf, hg]

/-- Two source files have the same names only as a module and the package beside it. -/
theorem names_eq_iff : f.names = g.names ↔ f = g ∨ f.IsModuleBeside g ∨ g.IsModuleBeside f := by
  constructor
  · intro h
    obtain ⟨ps, n, hg⟩ := (List.eq_nil_or_concat' g.names).resolve_left g.names_ne_nil
    have hf := names_eq_concat_iff.mp (h.trans hg)
    rcases names_eq_concat_iff.mp hg with rfl | ⟨rfl, hstart⟩
    · rcases hf with rfl | ⟨rfl, hstart⟩
      · exact .inl rfl
      · exact .inr (.inl ⟨rfl, rfl, hstart⟩)
    · rcases hf with rfl | ⟨rfl, -⟩
      · exact .inr (.inr ⟨rfl, rfl, hstart⟩)
      · exact .inl rfl
  · rintro (rfl | h | h)
    · rfl
    · exact h.names_eq
    · exact h.names_eq.symm

end SourceFile

/-! ## Shared module paths -/

/-- Joined by points, names that hold none stay apart. -/
theorem intercalate_point_inj {ms ns : List String} (hms : ∀ n ∈ ms, '.' ∉ n.toList)
    (hns : ∀ n ∈ ns, '.' ∉ n.toList) (hne : ms ≠ []) (hne' : ns ≠ []) :
    ".".intercalate ms = ".".intercalate ns ↔ ms = ns := by
  have hsplit {ls : List String} (hls : ∀ n ∈ ls, '.' ∉ n.toList) (hne : ls ≠ []) :
      (".".intercalate ls).toList.splitOn '.' = ls.map String.toList := by
    rw [String.toList_intercalate]
    exact List.splitOn_intercalate '.' (by simpa using hls) (by simpa using hne)
  refine ⟨fun h => ?_, congrArg _⟩
  refine List.map_injective_iff.mpr (fun s t => String.toList_inj.mp) ?_
  rw [← hsplit hms hne, ← hsplit hns hne', h]

/-- Two source files below a base, whose folders and names hold no point, share a module path
    exactly if they are the same file, or one is a module and the other starts the package beside
    it. -/
theorem modulePath_eq_iff (base : Path) {f g : SourceFile} (hf : f.IsPlain) (hg : g.IsPlain) :
    modulePath (f.path base) base = modulePath (g.path base) base ↔
      f = g ∨ f.IsModuleBeside g ∨ g.IsModuleBeside f := by
  rw [f.modulePath_path, g.modulePath_path, Except.ok.injEq,
    intercalate_point_inj hf.names hg.names f.names_ne_nil g.names_ne_nil]
  exact SourceFile.names_eq_iff

/-- A module shares its path with the package beside it, and the start of a base with a package
    that is called like it. -/
theorem tools_beside_package :
    let base : Path := ⟨"", ["src"]⟩
    let module : SourceFile := ⟨["app"], "tools"⟩
    let package : SourceFile := ⟨["app", "tools"], "__init__"⟩
    let start : SourceFile := ⟨[], "__init__"⟩
    let startPackage : SourceFile := ⟨["__init__"], "__init__"⟩
    module.IsPlain ∧ package.IsPlain ∧ start.IsPlain ∧ startPackage.IsPlain ∧
      modulePath (module.path base) base = modulePath (package.path base) base ∧
      modulePath (start.path base) base = modulePath (startPackage.path base) base := by
  refine ⟨by decide, by decide, by decide, by decide, ?_, ?_⟩
  · exact (modulePath_eq_iff _ (by decide) (by decide)).mpr (.inr (.inl ⟨rfl, rfl, by decide⟩))
  · exact (modulePath_eq_iff _ (by decide) (by decide)).mpr (.inr (.inl ⟨rfl, rfl, fun _ => rfl⟩))

end Docsmith
