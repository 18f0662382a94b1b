-- SUMMARY: Which files of a project are found.
import Docsmith.Project.Discovery
import Mathlib.Data.List.Nodup

/-!
# Discovery is exact

A walk finds every file of a tree that no refused folder leads to, and finds it
once if no two entries of a folder have the same name. From this follows which
files of a project are found: those with an ending that is looked for, where no
pattern that holds matches a folder on the way, the name or the path.
-/

namespace Docsmith

namespace FileTree

/-! ## Files of a tree -/

/-- No two entries of a folder have the same name. -/
inductive IsProper : FileTree → Prop
  | file (bytes : List UInt8) : IsProper (.file bytes)
  | folder {es : List (String × FileTree)} : (es.map (·.1)).Nodup → (∀ e ∈ es, IsProper e.2) →
      IsProper (.folder es)

/-- The names lead to a file with these bytes. -/
inductive Holds : FileTree → List String → List UInt8 → Prop
  | file {es : List (String × FileTree)} {name : String} {bytes : List UInt8} :
      (name, .file bytes) ∈ es → Holds (.folder es) [name] bytes
  | folder {es : List (String × FileTree)} {name : String} {t : FileTree} {ps : List String}
      {bytes : List UInt8} :
      (name, t) ∈ es → Holds t ps bytes → Holds (.folder es) (name :: ps) bytes

/-- What holds of a folder once it holds of its entries, and of files, holds of every tree. -/
theorem induction {motive : FileTree → Prop} (file : ∀ bytes, motive (.file bytes))
    (folder : ∀ es : List (String × FileTree), (∀ e ∈ es, motive e.2) → motive (.folder es)) :
    ∀ t, motive t
  | .file bytes => file bytes
  | .folder es => folder es fun e _ => FileTree.induction file folder e.2
termination_by t => sizeOf t
decreasing_by
  have hmem := List.sizeOf_lt_of_mem ‹e ∈ es›
  have hentry : sizeOf e = 1 + sizeOf e.1 + sizeOf e.2 := by cases e; simp
  simp only [FileTree.folder.sizeOf_spec]
  omega

/-! ## Walking -/

section

variable {enter : String → Bool} {before : List String} {es : List (String × FileTree)} {f : Found}

theorem mem_filesIn :
    f ∈ filesIn before es ↔ ∃ name, (name, .file f.bytes) ∈ es ∧ f.parts = before ++ [name] := by
  induction es with
  | nil => simp [filesIn]
  | cons e es ih =>
    obtain ⟨n, bs | sub⟩ := e
    · rw [filesIn, List.mem_cons, ih]
      constructor
      · rintro (rfl | ⟨name, hmem, hparts⟩)
        · exact ⟨n, List.mem_cons_self, rfl⟩
        · exact ⟨name, List.mem_cons_of_mem _ hmem, hparts⟩
      · rintro ⟨name, hmem, hparts⟩
        rcases List.mem_cons.mp hmem with heq | hmem
        · obtain ⟨rfl, hfile⟩ := Prod.mk.inj heq
          exact .inl (by rw [← hparts, ← FileTree.file.inj hfile])
        · exact .inr ⟨name, hmem, hparts⟩
    · simp [filesIn, ih]

theorem walkAll_eq : walkAll enter before es =
    es.flatMap fun e => if enter e.1 then walk enter (before ++ [e.1]) e.2 else [] := by
  induction es with
  | nil => rfl
  | cons e es ih => rw [walkAll, ih, List.flatMap_cons]

theorem mem_walkAll : f ∈ walkAll enter before es ↔
    ∃ e ∈ es, enter e.1 = true ∧ f ∈ walk enter (before ++ [e.1]) e.2 := by
  rw [walkAll_eq, List.mem_flatMap]
  refine exists_congr fun e => and_congr_right fun _ => ?_
  split <;> simp [*]

end

/-- A walk finds the files that no refused folder leads to. -/
theorem mem_walk {enter : String → Bool} {t : FileTree} {before : List String} {f : Found} :
    f ∈ walk enter before t ↔ ∃ folders name, f.parts = before ++ (folders ++ [name]) ∧
      Holds t (folders ++ [name]) f.bytes ∧ ∀ d ∈ folders, enter d = true := by
  induction t using FileTree.induction generalizing before with
  | file bytes =>
    rw [walk]
    constructor
    · intro h
      exact absurd h List.not_mem_nil
    · rintro ⟨folders, name, -, hholds, -⟩
      cases hholds
  | folder es ih =>
    rw [walk, List.mem_append, mem_filesIn, mem_walkAll]
    constructor
    · rintro (⟨name, hmem, hparts⟩ | ⟨e, he, henter, hf⟩)
      · exact ⟨[], name, hparts, .file hmem, List.forall_mem_nil _⟩
      · obtain ⟨folders, name, hparts, hholds, hall⟩ := (ih e he).mp hf
        exact ⟨e.1 :: folders, name, by simpa using hparts, .folder he hholds,
          List.forall_mem_cons.mpr ⟨henter, hall⟩⟩
    · rintro ⟨_ | ⟨d, folders⟩, name, hparts, hholds, hall⟩
      · generalize hps : ([] : List String) ++ [name] = ps at hholds
        cases hholds with
        | file hmem =>
          obtain rfl := List.singleton_inj.mp hps
          exact .inl ⟨name, hmem, hparts⟩
        | folder hmem hsub =>
          obtain ⟨rfl, rfl⟩ := List.cons.inj hps
          cases hsub
      · generalize hps : d :: folders ++ [name] = ps at hholds
        obtain ⟨henter, hall⟩ := List.forall_mem_cons.mp hall
        cases hholds with
        | file hmem => simp at hps
        | @folder _ _ t _ _ hmem hsub =>
          obtain ⟨rfl, rfl⟩ := List.cons.inj hps
          exact .inr ⟨(d, t), hmem, henter,
            (ih _ hmem).mpr ⟨folders, name, by simpa using hparts, hsub, hall⟩⟩

theorem parts_filesIn_sublist (before : List String) (es : List (String × FileTree)) :
    ((filesIn before es).map (·.parts)).Sublist ((es.map (·.1)).map fun n => before ++ [n]) := by
  induction es with
  | nil => exact .slnil
  | cons e es ih =>
    obtain ⟨n, bs | sub⟩ := e
    · exact ih.cons_cons _
    · exact ih.cons _

theorem exists_parts_of_mem_walk {enter : String → Bool} {before : List String} {n : String}
    {t : FileTree} {f : Found} (h : f ∈ walk enter (before ++ [n]) t) :
    ∃ ps, ps ≠ [] ∧ f.parts = before ++ n :: ps := by
  obtain ⟨folders, name, hparts, -⟩ := mem_walk.mp h
  exact ⟨folders ++ [name], by simp, by simpa using hparts⟩

/-- A walk of a proper tree finds no file twice. -/
theorem nodup_walk (enter : String → Bool) {t : FileTree} (ht : t.IsProper)
    (before : List String) : ((walk enter before t).map (·.parts)).Nodup := by
  induction ht generalizing before with
  | file bytes => exact List.nodup_nil
  | @folder es hnames _ ih =>
    rw [walk, List.map_append, List.nodup_append']
    refine ⟨?_, ?_, ?_⟩
    · have hinj : Function.Injective fun n : String => before ++ [n] := fun m n h =>
        List.singleton_inj.mp (List.append_cancel_left h)
      exact (hnames.map hinj).sublist (parts_filesIn_sublist before es)
    · rw [walkAll_eq, List.map_flatMap, List.nodup_flatMap]
      constructor
      · intro e he
        split
        · exact ih e he _
        · exact List.nodup_nil
      · -- What is found in two folders differs at the names of the folders.
        refine (List.pairwise_map.mp hnames).imp fun hne =>
          List.disjoint_left.mpr fun ps hps hqs => ?_
        obtain ⟨f, hf, rfl⟩ := List.mem_map.mp hps
        obtain ⟨g, hg, hparts⟩ := List.mem_map.mp hqs
        obtain ⟨ps, -, hf⟩ := exists_parts_of_mem_walk (List.mem_ite_nil_right.mp hf).2
        obtain ⟨qs, -, hg⟩ := exists_parts_of_mem_walk (List.mem_ite_nil_right.mp hg).2
        rw [hf, hg] at hparts
        exact hne (List.cons.inj (List.append_cancel_left hparts)).1.symm
    · rw [List.disjoint_left]
      intro ps hps hqs
      obtain ⟨f, hf, rfl⟩ := List.mem_map.mp hps
      obtain ⟨g, hg, hparts⟩ := List.mem_map.mp hqs
      obtain ⟨name, -, hf⟩ := mem_filesIn.mp hf
      obtain ⟨e, -, -, hg⟩ := mem_walkAll.mp hg
      obtain ⟨qs, hne, hg⟩ := exists_parts_of_mem_walk hg
      rw [hf, hg] at hparts
      exact hne (List.cons.inj (List.append_cancel_left hparts)).2

end FileTree

/-! ## Patterns -/

theorem isExcluded_eq_false_iff {patterns : List String} {text : String} :
    isExcluded patterns text = false ↔ ∀ p ∈ patterns, Glob.isMatch p text = false := by
  simp [isExcluded]

theorem isWanted_iff {sought : Sought} {patterns folders : List String} {name : String}
    {f : FileTree.Found} (hparts : f.parts = folders ++ [name]) :
    isWanted sought patterns f = true ↔ sought.accepts name = true ∧
      isExcluded patterns name = false ∧
      isExcluded patterns ("/".intercalate (folders ++ [name])) = false := by
  simp [isWanted, hparts, and_comm]

theorem findFiles_folder (sought : Sought) (excludes : List String) {disk : FileTree} {root : Path}
    {es : List (String × FileTree)} (hroot : disk.lookup root.parts = some (.folder es)) :
    findFiles sought excludes disk root =
      (((FileTree.folder es).walk (fun n => !isExcluded (effectiveExcludes excludes) n) []).filter
        (isWanted sought (effectiveExcludes excludes))).map
          fun f => ⟨root.join f.parts, f.bytes⟩ := by
  simp only [findFiles, hroot]

/-- The files that are found in a folder, each of them once: those that have an ending that is
    looked for, where no pattern matches the name of a folder on the way, the name of the file or
    its path below the root. -/
theorem findFiles_exact (sought : Sought) (excludes : List String) {disk : FileTree} {root : Path}
    {es : List (String × FileTree)} (hroot : disk.lookup root.parts = some (.folder es))
    (hproper : (FileTree.folder es).IsProper) :
    let patterns := if excludes = [] then defaultExcludes else excludes
    let found := findFiles sought excludes disk root
    (found.map (·.path)).Nodup ∧ ∀ f : ProjectFile, f ∈ found ↔
      ∃ folders name, f.path = root.join (folders ++ [name]) ∧
        (FileTree.folder es).Holds (folders ++ [name]) f.bytes ∧ sought.accepts name = true ∧
        (∀ d ∈ folders, ∀ p ∈ patterns, Glob.isMatch p d = false) ∧
        (∀ p ∈ patterns, Glob.isMatch p name = false) ∧
        ∀ p ∈ patterns, Glob.isMatch p ("/".intercalate (folders ++ [name])) = false := by
  intro patterns found
  have hpatterns : effectiveExcludes excludes = patterns := by
    simp [effectiveExcludes, patterns]
  have hfound := findFiles_folder sought excludes hroot
  rw [hpatterns] at hfound
  simp only [found, hfound, ← isExcluded_eq_false_iff]
  constructor
  · have hjoin : Function.Injective root.join := fun ps qs h =>
      List.append_cancel_left (congrArg Path.parts h)
    have hnodup := (FileTree.nodup_walk (fun n => !isExcluded patterns n) hproper []).map hjoin
    rw [List.map_map] at hnodup ⊢
    exact hnodup.sublist (List.filter_sublist.map _)
  · intro f
    simp only [List.mem_map, List.mem_filter, FileTree.mem_walk]
    constructor
    · rintro ⟨g, ⟨⟨folders, name, hparts, hholds, henter⟩, hwanted⟩, rfl⟩
      obtain ⟨haccepts, hname, hpath⟩ := (isWanted_iff hparts).mp hwanted
      refine ⟨folders, name, congrArg root.join hparts, hholds, haccepts, fun d hd => ?_, hname,
        hpath⟩
      simpa using henter d hd
    · rintro ⟨folders, name, hjoined, hholds, haccepts, hfolders, hname, hpath⟩
      refine ⟨⟨folders ++ [name], f.bytes⟩, ⟨⟨folders, name, rfl, hholds, fun d hd => ?_⟩, ?_⟩, ?_⟩
      · simpa using hfolders d hd
      · exact (isWanted_iff rfl).mpr ⟨haccepts, hname, hpath⟩
      · rw [← hjoined]

/-- A project with a package and an environment, which holds a source file too. -/
def smallProject : List (String × FileTree) := [
  ("pkg", .folder [("core.py", .file [])]), ("venv", .folder [("pip.py", .file [])])]

theorem findFiles_smallProject :
    (FileTree.folder smallProject).IsProper ∧
      ((findFiles .sources [] (.folder smallProject) ⟨"", []⟩).map (·.path)).Nodup ∧
      ⟨⟨"", ["pkg", "core.py"]⟩, []⟩ ∈ findFiles .sources [] (.folder smallProject) ⟨"", []⟩ ∧
      ⟨⟨"", ["venv", "pip.py"]⟩, []⟩ ∉ findFiles .sources [] (.folder smallProject) ⟨"", []⟩ := by
  have hfile (n : String) : (FileTree.folder [(n, .file [])]).IsProper :=
    .folder (List.nodup_singleton n) (List.forall_mem_singleton.mpr (.file []))
  have hproper : (FileTree.folder smallProject).IsProper :=
    .folder (by decide) (List.forall_mem_cons.mpr
      ⟨hfile "core.py", List.forall_mem_singleton.mpr (hfile "pip.py")⟩)
  have hroot : (FileTree.folder smallProject).lookup (Path.mk "" []).parts
      = some (.folder smallProject) := rfl
  obtain ⟨hnodup, hmem⟩ := findFiles_exact .sources [] hroot hproper
  refine ⟨hproper, hnodup, (hmem _).mpr ⟨["pkg"], "core.py", rfl, ?_, by decide +kernel, by decide,
    by decide, by decide⟩, fun h => ?_⟩
  · exact .folder List.mem_cons_self (.file List.mem_cons_self)
  · obtain ⟨folders, name, hpath, -, -, hfolders, -⟩ := (hmem _).mp h
    have hparts : ["venv"] ++ ["pip.py"] = folders ++ [name] := congrArg Path.parts hpath
    obtain ⟨rfl, -⟩ := List.append_inj' hparts rfl
    exact absurd (hfolders "venv" List.mem_cons_self "venv" (by decide)) (by decide)

end Docsmith
