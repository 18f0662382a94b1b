-- SUMMARY: Which records a site selects for its lists.
import Docsmith.Proofs.Site.Routine
import Docsmith.Proofs.Value.Keyed

/-!
# Selected records

Every list of a site is selected by a test of its own. The lists of endpoints and
the methods of classes leave out what is hidden. The functions of a module are not
asked for that: inside another site all of them are taken, and a site of its own
takes those that are documented.
-/

namespace Docsmith.Site

/-! ## Keeping items -/

/-- The test has an answer, and it is yes. -/
def holds (test : Value → Answer Bool) (x : Value) : Bool := (test x).toOption.getD false

variable {test : Value → Answer Bool} {xs ys : List Value}

theorem holds_iff {x : Value} : holds test x = true ↔ test x = .ok true := by
  cases h : test x with
  | ok b => simp [holds, h, Except.toOption]
  | error e => simp [holds, h, Except.toOption]

theorem keep_eq_filter (h : keep test xs = .ok ys) : ys = xs.filter (holds test) := by
  refine keep_eq_ok (fun x b hx => ?_) h
  rw [holds, hx]
  rfl

/-! ## Hidden records -/

/-- The record is hidden. -/
def hasHidden (item : Value) : Bool := (partOr item "hidden" .none).isTrue

theorem isHidden_eq_ok {item : Value} {b : Bool} (h : isHidden item = .ok b) :
    hasHidden item = b := by
  obtain ⟨v, hv, h⟩ := bind_eq_ok.mp h
  rw [hasHidden, getD_eq_ok hv]
  exact Except.ok.inj h

/-- A test that ends by asking for hidden records does not hold of one. -/
theorem not_hidden_of_test {edition : Edition} (hedition : edition ≠ .basic) {first : Answer Bool}
    {item : Value} (h : (do
      if ← first then
        if edition == .basic then return true else return !(← isHidden item)
      else return false : Answer Bool) = .ok true) : hasHidden item = false := by
  obtain ⟨b, -, h⟩ := bind_eq_ok.mp h
  cases b with
  | false => cases h
  | true =>
    rw [if_pos rfl, if_neg (by simpa using hedition)] at h
    obtain ⟨hidden, hhidden, h⟩ := bind_eq_ok.mp h
    rw [isHidden_eq_ok hhidden]
    simpa using Except.ok.inj h

/-! ## Changed records -/

theorem partOr_withEntry {v w new : Value} {key : String} (h : withEntry v key new = .ok w)
    (other : String) (default : Value) :
    partOr w other default = if key = other then new else partOr v other default := by
  cases v with
  | dict es =>
    obtain rfl := Except.ok.inj h
    split
    · rename_i heq
      subst heq
      simp [partOr]
    · rename_i hne
      rw [partOr, Entries.getText?_putText_ne hne]
      rfl
  | _ => cases h

/-- A class keeps the methods for which the test holds. -/
theorem methods_withMethods {cls c : Value} (h : withMethods test cls = .ok c) :
    itemsIn c "methods" = (itemsIn cls "methods").filter (holds test) := by
  obtain ⟨methods, hmethods, h⟩ := bind_eq_ok.mp h
  obtain ⟨kept, hkept, h⟩ := bind_eq_ok.mp h
  rw [itemsIn, partOr_withEntry h, if_pos rfl, itemsOf_eq_ok hmethods]
  exact keep_eq_filter hkept

/-- A module gets its classes and its functions anew. -/
theorem withContent_eq_ok {edition : Edition} {m n : Value} (h : withContent edition m = .ok n) :
    ∃ classes start, withEntry m "classes" classes = .ok start
      ∧ withEntry start "functions"
        (.list ((itemsIn m "functions").filter (holds (isDocumented edition)))) = .ok n := by
  obtain ⟨_, -, h⟩ := bind_eq_ok.mp h
  obtain ⟨_, -, h⟩ := bind_eq_ok.mp h
  obtain ⟨functions, hfunctions, h⟩ := bind_eq_ok.mp h
  obtain ⟨kept, hkept, h⟩ := bind_eq_ok.mp h
  obtain ⟨classes, -, h⟩ := bind_eq_ok.mp h
  obtain ⟨start, hstart, h⟩ := bind_eq_ok.mp h
  rw [itemsOf_eq_ok hfunctions, ← keep_eq_filter hkept]
  exact ⟨.list classes, start, hstart, h⟩

theorem functions_withContent {edition : Edition} {m n : Value} (h : withContent edition m = .ok n) :
    itemsIn n "functions" = (itemsIn m "functions").filter (holds (isDocumented edition)) := by
  obtain ⟨classes, start, -, h⟩ := withContent_eq_ok h
  rw [itemsIn, partOr_withEntry h, if_pos rfl]
  rfl

theorem path_withContent {edition : Edition} {m n : Value} (h : withContent edition m = .ok n)
    (default : Value) : partOr n "full_path" default = partOr m "full_path" default := by
  obtain ⟨classes, start, hstart, h⟩ := withContent_eq_ok h
  rw [partOr_withEntry h, if_neg (by decide), partOr_withEntry hstart, if_neg (by decide)]

/-! ## Selections -/

/-- The path of a module, as it stands in keys. -/
def pathOf (m : Value) : String := (partOr m "full_path" .none).text

/-- The slug of a page, as it stands in keys. -/
def slugOf (q : Value) : String := (partOr q "slug" .none).text

theorem paths_withContent {edition : Edition} {ms ns : List Value}
    (h : ms.mapM (withContent edition) = .ok ns) : ms.map pathOf = ns.map pathOf := by
  rw [← List.forall₂_eq_eq_eq, List.forall₂_map_left_iff, List.forall₂_map_right_iff]
  refine (mapM_eq_ok.mp h).imp fun m n hmn => ?_
  rw [pathOf, pathOf, path_withContent hmn]

/-- The function is taken with its module. -/
def isTaken (edition : Edition) (m f : Value) : Bool :=
  holds (hasContent edition) m && (edition == .embedded || holds (isDocumented edition) f)

/-- What a selection has of the data. -/
structure Selection.IsOf (edition : Edition) (data : Value) (s : Selection) : Prop where
  paths : (s.modules.map pathOf).Sublist ((itemsIn data "modules").map pathOf)
  functions : ∀ f, (∃ m ∈ s.modules, f ∈ itemsIn m "functions") ↔
    ∃ m ∈ itemsIn data "modules", f ∈ itemsIn m "functions" ∧ isTaken edition m f
  methods : ∀ c ∈ s.classes, ∀ m ∈ itemsIn c "methods", hasHidden m = false
  endpoints : ∀ e ∈ s.endpoints, hasHidden e = false
  pages : valuesIn s.pages = itemsIn data "pages"

variable {edition : Edition} {data : Value} {s : Selection}

theorem not_hidden_of_mem_endpoints (hedition : edition ≠ .basic) {all endpoints : List Value}
    (h : keep (isShown edition) all = .ok endpoints) : ∀ e ∈ endpoints, hasHidden e = false := by
  intro e he
  rw [keep_eq_filter h, List.mem_filter, holds_iff] at he
  exact not_hidden_of_test hedition he.2

theorem not_hidden_of_mem_methods (hedition : edition ≠ .basic) {all classes : List Value}
    (h : all.mapM (withMethods (isShownMethod edition)) = .ok classes) :
    ∀ c ∈ classes, ∀ m ∈ itemsIn c "methods", hasHidden m = false := by
  intro c hc m hm
  obtain ⟨cls, -, hcls⟩ := (mem_mapM h).mp hc
  rw [methods_withMethods hcls, List.mem_filter, holds_iff] at hm
  exact not_hidden_of_test hedition hm.2

theorem isOf_embedded (h : Selection.embedded data = .ok s) : s.IsOf .embedded data := by
  have hedition : Edition.embedded ≠ .basic := by decide
  obtain ⟨pages, hpages, h⟩ := bind_eq_ok.mp h
  obtain ⟨allModules, hallModules, h⟩ := bind_eq_ok.mp h
  obtain ⟨modules, hmodules, h⟩ := bind_eq_ok.mp h
  obtain ⟨_, -, h⟩ := bind_eq_ok.mp h
  obtain ⟨_, -, h⟩ := bind_eq_ok.mp h
  obtain ⟨_, -, h⟩ := bind_eq_ok.mp h
  obtain ⟨_, -, h⟩ := bind_eq_ok.mp h
  obtain ⟨_, -, h⟩ := bind_eq_ok.mp h
  obtain ⟨endpoints, hendpoints, h⟩ := bind_eq_ok.mp h
  obtain ⟨classes, hclasses, h⟩ := bind_eq_ok.mp h
  obtain rfl := Except.ok.inj h
  refine ⟨?_, fun f => ?_, not_hidden_of_mem_methods hedition hclasses,
    not_hidden_of_mem_endpoints hedition hendpoints, ?_⟩
  · rw [itemsOf_eq_ok hallModules, keep_eq_filter hmodules]
    exact List.filter_sublist.map pathOf
  · rw [itemsOf_eq_ok hallModules, keep_eq_filter hmodules]
    simp only [List.mem_filter, isTaken, beq_self_eq_true, Bool.true_or, Bool.and_true]
    exact exists_congr fun m => by rw [and_assoc, and_comm (a := f ∈ _)]
  · rw [itemsIn, getD_eq_ok hpages]

theorem isOf_full (h : Selection.ofData .full data = .ok s) : s.IsOf .full data := by
  have hedition : Edition.full ≠ .basic := by decide
  obtain ⟨pages, hpages, h⟩ := bind_eq_ok.mp h
  obtain ⟨_, -, h⟩ := bind_eq_ok.mp h
  obtain ⟨moduleList, hmoduleList, h⟩ := bind_eq_ok.mp h
  obtain ⟨allModules, hallModules, h⟩ := bind_eq_ok.mp h
  obtain ⟨modules, hmodules, h⟩ := bind_eq_ok.mp h
  obtain ⟨_, -, h⟩ := bind_eq_ok.mp h
  obtain ⟨_, -, h⟩ := bind_eq_ok.mp h
  obtain ⟨_, -, h⟩ := bind_eq_ok.mp h
  obtain ⟨_, -, h⟩ := bind_eq_ok.mp h
  obtain ⟨_, -, h⟩ := bind_eq_ok.mp h
  obtain ⟨_, -, h⟩ := bind_eq_ok.mp h
  obtain ⟨_, -, h⟩ := bind_eq_ok.mp h
  obtain ⟨endpoints, hendpoints, h⟩ := bind_eq_ok.mp h
  obtain ⟨classes, hclasses, h⟩ := bind_eq_ok.mp h
  obtain ⟨changed, hchanged, h⟩ := bind_eq_ok.mp h
  obtain rfl := Except.ok.inj h
  have hall : itemsIn data "modules" = allModules := by
    rw [itemsIn, field_eq_ok hmoduleList, items_eq_ok hallModules]
  have hkept : modules = allModules.filter (holds (hasContent .full)) := keep_eq_filter hmodules
  refine ⟨?_, fun f => ?_, not_hidden_of_mem_methods hedition hclasses,
    not_hidden_of_mem_endpoints hedition hendpoints, ?_⟩
  · rw [hall, ← paths_withContent hchanged, hkept]
    exact List.filter_sublist.map pathOf
  · have hanswer := hasAnswer_mapM.mp ⟨changed, hchanged⟩
    simp only [mem_mapM hchanged, hall]
    constructor
    · rintro ⟨n, ⟨m, hm, hn⟩, hf⟩
      rw [functions_withContent hn, List.mem_filter] at hf
      rw [hkept, List.mem_filter] at hm
      exact ⟨m, hm.1, hf.1, by simp [isTaken, hm.2, hf.2]⟩
    · rintro ⟨m, hm, hf, htaken⟩
      obtain ⟨hcontent, hdocumented⟩ : holds (hasContent .full) m ∧ holds (isDocumented .full) f := by
        simpa [isTaken] using htaken
      have hm : m ∈ modules := hkept ▸ List.mem_filter.mpr ⟨hm, hcontent⟩
      obtain ⟨n, hn⟩ := hanswer m hm
      refine ⟨n, ⟨m, hm, hn⟩, ?_⟩
      rw [functions_withContent hn]
      exact List.mem_filter.mpr ⟨hf, hdocumented⟩
  · rw [itemsIn, field_eq_ok hpages]

end Docsmith.Site
