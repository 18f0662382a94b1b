-- SUMMARY: A catalog does not hang on the order in which folders are enumerated.
import Docsmith.Catalog.Directory
import Docsmith.Proofs.Catalog.Scan
import Docsmith.Proofs.Value.Order
import Mathlib.Data.List.Perm.Basic

/-!
# Enumeration order

A file system may list the entries of a folder in any order. A walk then finds
the same files in another order. Sorting removes what is left of it, as long as
no two modules have one path and no two pages one place and title.
-/

namespace Docsmith

variable {α β ε : Type}

/-! ## Trees -/

namespace FileTree

mutual

/-- The trees have the same files, but folders may list their entries in another order. -/
inductive Reordered : FileTree → FileTree → Prop
  | file (bytes : List UInt8) : Reordered (.file bytes) (.file bytes)
  | folder {es fs : List (String × FileTree)} :
      ReorderedEntries es fs → Reordered (.folder es) (.folder fs)

/-- The same entries in another order, and so in the folders among them. -/
inductive ReorderedEntries : List (String × FileTree) → List (String × FileTree) → Prop
  | nil : ReorderedEntries [] []
  | cons (name : String) {t u : FileTree} {es fs : List (String × FileTree)} :
      Reordered t u → ReorderedEntries es fs → ReorderedEntries ((name, t) :: es) ((name, u) :: fs)
  | swap (e f : String × FileTree) (es : List (String × FileTree)) :
      ReorderedEntries (f :: e :: es) (e :: f :: es)
  | trans {es fs gs : List (String × FileTree)} :
      ReorderedEntries es fs → ReorderedEntries fs gs → ReorderedEntries es gs

end

variable (enter : String → Bool) (before : List String)

theorem filesIn_eq_flatMap (es : List (String × FileTree)) :
    filesIn before es = es.flatMap fun e => filesIn before [e] := by
  induction es with
  | nil => rfl
  | cons e es ih =>
    rw [List.flatMap_cons, ← ih]
    obtain ⟨n, _ | _⟩ := e <;> rfl

theorem walkAll_eq_flatMap (es : List (String × FileTree)) :
    walkAll enter before es = es.flatMap fun e => walkAll enter before [e] := by
  induction es with
  | nil => rfl
  | cons e es ih =>
    rw [List.flatMap_cons, ← ih]
    simp [walkAll]

theorem ReorderedEntries.filesIn_perm {es fs : List (String × FileTree)}
    (h : ReorderedEntries es fs) : (filesIn before es).Perm (filesIn before fs) := by
  match h with
  | .nil => exact .refl _
  | .cons name (.file bytes) htail => exact (htail.filesIn_perm).cons _
  | .cons name (.folder _) htail => exact htail.filesIn_perm
  | .swap e f es =>
    rw [filesIn_eq_flatMap, filesIn_eq_flatMap before (e :: f :: es)]
    exact (List.Perm.swap e f es).flatMap_right _
  | .trans h h' => exact h.filesIn_perm.trans h'.filesIn_perm

mutual

/-- A walk finds the same files. -/
theorem Reordered.walk_perm {t u : FileTree} (h : Reordered t u) (before : List String) :
    (walk enter before t).Perm (walk enter before u) := by
  match h with
  | .file bytes => exact .refl _
  | .folder h => exact (h.filesIn_perm before).append (h.walkAll_perm before)

theorem ReorderedEntries.walkAll_perm {es fs : List (String × FileTree)}
    (h : ReorderedEntries es fs) (before : List String) :
    (walkAll enter before es).Perm (walkAll enter before fs) := by
  match h with
  | .nil => exact .refl _
  | .cons name hhead htail =>
    rw [walkAll, walkAll]
    apply List.Perm.append _ (htail.walkAll_perm before)
    split
    · exact hhead.walk_perm (before ++ [name])
    · exact .refl _
  | .swap e f es =>
    rw [walkAll_eq_flatMap, walkAll_eq_flatMap enter before (e :: f :: es)]
    exact (List.Perm.swap e f es).flatMap_right _
  | .trans h h' => exact (h.walkAll_perm before).trans (h'.walkAll_perm before)

end

end FileTree

/-! ## Files that are found -/

/-- In a reordered tree the same files are looked for. -/
theorem findFiles_perm {disk disk' tree tree' : FileTree} {root : Path}
    (h : disk.lookup root.parts = some tree) (h' : disk'.lookup root.parts = some tree')
    (hre : tree.Reordered tree') (sought : Sought) (excludes : List String) :
    (findFiles sought excludes disk root).Perm (findFiles sought excludes disk' root) := by
  rw [findFiles, findFiles, h, h']
  cases hre with
  | file bytes => exact .refl _
  | folder hentries =>
    apply List.Perm.map
    apply List.Perm.filter
    exact (FileTree.Reordered.folder hentries).walk_perm _ []

/-! ## Steps and sorting -/

/-- Steps made in another order give the same answers in another order. -/
theorem mapM_perm {f : α → Except ε β} {xs xs' : List α} (h : xs.Perm xs') {ys : List β}
    (hys : xs.mapM f = .ok ys) : ∃ ys', xs'.mapM f = .ok ys' ∧ ys.Perm ys' := by
  obtain ⟨ys', hforall, hperm⟩ := List.perm_comp_forall₂ h.symm (mapM_eq_ok.mp hys)
  exact ⟨ys', mapM_eq_ok.mpr hforall, hperm.symm⟩

/-- Sorting forgets the order in which things came, if no two of them share a place. -/
theorem mergeSort_eq_of_perm {le : α → α → Bool} (htrans : ∀ a b c, le a b → le b c → le a c)
    (htotal : ∀ a b, le a b || le b a) {xs ys : List α} (h : xs.Perm ys)
    (hanti : ∀ a ∈ xs, ∀ b ∈ xs, le a b → le b a → a = b) : xs.mergeSort le = ys.mergeSort le := by
  have hperm : (xs.mergeSort le).Perm (ys.mergeSort le) :=
    (List.mergeSort_perm xs le).trans (h.trans (List.mergeSort_perm ys le).symm)
  apply hperm.eq_of_pairwise _ (List.pairwise_mergeSort htrans htotal xs)
    (List.pairwise_mergeSort htrans htotal ys)
  intro a b ha hb
  exact hanti a (List.mem_mergeSort.mp ha) b (h.mem_iff.mpr (List.mem_mergeSort.mp hb))

/-- Modules of distinct paths are sorted to the same list whatever their order. -/
theorem sortedModules_eq {ms ms' : List ModuleDoc} (h : ms.Perm ms')
    (hpaths : (ms.map (·.fullPath)).Nodup) :
    ms.mergeSort (Text.textLe (·.fullPath)) = ms'.mergeSort (Text.textLe (·.fullPath)) := by
  apply mergeSort_eq_of_perm _ _ h
  · intro m hm n hn hmn hnm
    rw [Text.textLe_iff] at hmn hnm
    exact List.inj_on_of_nodup_map hpaths hm hn (String.le_antisymm hmn hnm)
  · exact Text.textLe_trans _
  · exact Text.textLe_total _

theorem PageDoc.before_iff {p q : PageDoc} :
    p.before q = true ↔ p.order < q.order ∨ (p.order = q.order ∧ p.title ≤ q.title) := by
  rw [before, Bool.or_eq_true, Bool.and_eq_true, decide_eq_true_iff, beq_iff_eq,
    Bool.not_eq_true', decide_eq_false_iff_not]
  exact or_congr_right (and_congr_right fun _ => String.not_lt)

theorem PageDoc.before_trans (p q r : PageDoc) (hpq : p.before q = true)
    (hqr : q.before r = true) : p.before r = true := by
  rw [before_iff] at hpq hqr ⊢
  rcases hpq with hlt | ⟨horder, hle⟩
  · left
    omega
  · rcases hqr with hlt | ⟨horder', hle'⟩
    · left
      omega
    · exact .inr ⟨horder.trans horder', String.le_trans hle hle'⟩

theorem PageDoc.before_total (p q : PageDoc) : (p.before q || q.before p) = true := by
  rw [Bool.or_eq_true, before_iff, before_iff]
  rcases Int.lt_trichotomy p.order q.order with hlt | heq | hgt
  · exact .inl (.inl hlt)
  · rcases String.le_total p.title q.title with hle | hge
    · exact .inl (.inr ⟨heq, hle⟩)
    · exact .inr (.inr ⟨heq.symm, hge⟩)
  · exact .inr (.inl hgt)

/-- Pages of distinct places and titles are sorted to the same list whatever their order. -/
theorem sortedPages_eq {ps ps' : List PageDoc} (h : ps.Perm ps')
    (hplaces : (ps.map fun p => (p.order, p.title)).Nodup) :
    ps.mergeSort PageDoc.before = ps'.mergeSort PageDoc.before := by
  apply mergeSort_eq_of_perm _ _ h
  · intro p hp q hq hpq hqp
    rw [PageDoc.before_iff] at hpq hqp
    apply List.inj_on_of_nodup_map hplaces hp hq
    rcases hpq with hlt | ⟨horder, hle⟩
    · omega
    · rcases hqp with hlt | ⟨-, hge⟩
      · omega
      · exact Prod.ext horder (String.le_antisymm hle hge)
  · exact PageDoc.before_trans
  · exact PageDoc.before_total

/-! ## The catalog -/

/-- No two source files below a root have the same module path. -/
def HasDistinctModules (options : ScanOptions) (disk : FileTree) (root : Path) : Prop :=
  ((findFiles .sources options.excludes disk root).map fun f => modulePath f.path root).Nodup

/-- The pages below a root. -/
def pagesBelow (options : ScanOptions) (disk : FileTree) (root : Path) : List PageDoc :=
  (findFiles .pages options.excludes disk root).map fun f =>
    Page.scan options.render f.path root f.bytes

/-- No two pages below a root have the same place and title. -/
def HasDistinctPages (options : ScanOptions) (disk : FileTree) (root : Path) : Prop :=
  ((pagesBelow options disk root).map fun p => (p.order, p.title)).Nodup

variable {options : ScanOptions} {disk disk' tree tree' : FileTree} {root : Path}

/-- A scan has found each module under the path that it was sought for. -/
theorem HasDistinctModules.nodup_fullPath (h : HasDistinctModules options disk root)
    {ms : List ModuleDoc} (hms : (findFiles .sources options.excludes disk root).mapM
      (fun f => scanModule options.kinds f.path root f.bytes) = .ok ms) :
    (ms.map (·.fullPath)).Nodup := by
  have hpaths : (findFiles .sources options.excludes disk root).map
      (fun f => modulePath f.path root) = (ms.map (·.fullPath)).map .ok := by
    rw [List.map_map, ← List.forall₂_eq_eq_eq, List.forall₂_map_left_iff, List.forall₂_map_right_iff]
    exact (mapM_eq_ok.mp hms).imp fun _ _ => fullPath_scanModule
  rw [HasDistinctModules, hpaths] at h
  exact h.of_map

/-- Where the same files are found in another order, the catalog is the same. -/
theorem scanDirectory_of_perm
    (hfound : ∀ sought, (findFiles sought options.excludes disk root).Perm
      (findFiles sought options.excludes disk' root))
    (hmodules : HasDistinctModules options disk root) (hpages : HasDistinctPages options disk root)
    {catalog : Catalog} (h : scanDirectory options disk root = .ok catalog) :
    scanDirectory options disk' root = .ok catalog := by
  obtain ⟨ms, hms, h⟩ := bind_eq_ok.mp h
  obtain rfl := Except.ok.inj h
  obtain ⟨ms', hms', hperm⟩ := mapM_perm (hfound .sources) hms
  refine bind_eq_ok.mpr ⟨ms', hms', congrArg Except.ok ?_⟩
  rw [Catalog.mk.injEq]
  constructor
  · exact (sortedModules_eq hperm (hmodules.nodup_fullPath hms)).symm
  · exact (sortedPages_eq ((hfound .pages).map _) hpages).symm

/-- The order in which folders list their entries makes no difference to a catalog. -/
theorem scanDirectory_reordered (htree : disk.lookup root.parts = some tree)
    (htree' : disk'.lookup root.parts = some tree') (hre : tree.Reordered tree')
    (hmodules : HasDistinctModules options disk root) (hpages : HasDistinctPages options disk root)
    (catalog : Catalog) :
    scanDirectory options disk root = .ok catalog
      ↔ scanDirectory options disk' root = .ok catalog := by
  have hfound sought := findFiles_perm htree htree' hre sought options.excludes
  constructor
  · exact scanDirectory_of_perm hfound hmodules hpages
  · apply scanDirectory_of_perm fun sought => (hfound sought).symm
    · exact ((hfound .sources).map _).nodup_iff.mp hmodules
    · exact (((hfound .pages).map _).map _).nodup_iff.mp hpages

/-- The entries with the first two exchanged. -/
def exchanged : List (String × FileTree) → List (String × FileTree)
  | e :: f :: es => f :: e :: es
  | es => es

/-- A project whose folders list their entries in the given order. -/
def guideProject (order : List (String × FileTree) → List (String × FileTree)) : FileTree :=
  .folder (order [("b.py", .file []), ("a.py", .file []),
    ("sub", .folder (order [("2_end.md", .ofText "# End"), ("1_start.md", .ofText "# Start"),
      ("c.py", .ofText "x = 1")]))])

/-- Two files that change places, in a folder and in the folder below, give the same catalog. -/
theorem guideProject_reordered :
    let disk := guideProject id
    let disk' := guideProject exchanged
    disk.Reordered disk' ∧ HasDistinctModules {} disk ⟨"", []⟩ ∧ HasDistinctPages {} disk ⟨"", []⟩
      ∧ HasAnswer (scanDirectory {} disk ⟨"", []⟩)
      ∧ ∀ catalog, scanDirectory {} disk ⟨"", []⟩ = .ok catalog
        ↔ scanDirectory {} disk' ⟨"", []⟩ = .ok catalog := by
  intro disk disk'
  have hre : disk.Reordered disk' :=
    .folder (.trans (.swap _ _ _) (.cons "a.py" (.file _) (.cons "b.py" (.file _)
      (.cons "sub" (.folder (.swap _ _ _)) .nil))))
  have hmodules : HasDistinctModules {} disk ⟨"", []⟩ := by
    apply List.Nodup.of_map Except.toOption
    decide +kernel
  have hpages : HasDistinctPages {} disk ⟨"", []⟩ := by
    unfold HasDistinctPages
    decide +kernel
  exact ⟨hre, hmodules, hpages, by decide +kernel,
    scanDirectory_reordered rfl rfl hre hmodules hpages⟩

end Docsmith
