-- SUMMARY: Which hidden records a site shows.
import Docsmith.Build.Data
import Docsmith.Catalog.Scan
import Docsmith.Proofs.Site.Run
import Docsmith.Proofs.Site.Selection

/-!
# Hidden records

A hidden record should not be shown. The cards of endpoints and the blocks of
methods keep to that. The panel of a module does not: it has a block for every
function that is taken with the module, hidden or not. So a hidden record is shown
exactly if it is such a function, both inside another site and on a site of its
own.
-/

namespace Docsmith.Site

/-- The record that is shown is hidden. -/
def Exhibit.isHidden : Exhibit → Bool
  | .block r => hasHidden r
  | .endpoint e => hasHidden e
  | .type _ => false

/-- The record is shown on some panel. -/
def IsExhibited (panels : List Panel) (x : Exhibit) : Prop := ∃ q ∈ panels, x ∈ q.exhibits

/-- A hidden record is shown on the panels exactly if it is a function that is taken with its
    module. -/
def ShowsHiddenFunctions (edition : Edition) (data : Value) (panels : List Panel) : Prop :=
  ∀ x : Exhibit, x.isHidden → (IsExhibited panels x ↔
    ∃ f, x = .block f ∧ ∃ m ∈ itemsIn data "modules", f ∈ itemsIn m "functions"
      ∧ isTaken edition m f)

/-! ## What the panels exhibit -/

variable {x : Exhibit} {panels more : List Panel}

@[simp]
theorem isExhibited_nil : IsExhibited [] x ↔ False := by simp [IsExhibited]

@[simp]
theorem isExhibited_append :
    IsExhibited (panels ++ more) x ↔ IsExhibited panels x ∨ IsExhibited more x := by
  simp [IsExhibited, or_and_right, exists_or]

@[simp]
theorem isExhibited_barePanel {key : String} :
    IsExhibited (barePanel key :: panels) x ↔ IsExhibited panels x := by
  simp [IsExhibited, barePanel]

@[simp]
theorem isExhibited_modules {start : String} {ms : List Value} :
    IsExhibited (ms.map (panelOfModule start)) x
      ↔ ∃ m ∈ ms, ∃ f ∈ itemsIn m "functions", .block f = x := by
  simp [IsExhibited, panelOfModule]

@[simp]
theorem isExhibited_pages {start : String} {ps : List Value} :
    ¬ IsExhibited (ps.map (panelOfPage start)) x := by
  simp [IsExhibited, panelOfPage, barePanel]

@[simp]
theorem isExhibited_panelOfAll {key : String} {items : List Value}
    {exhibits : Value → List Exhibit} :
    IsExhibited (panelOfAll key items exhibits) x ↔ ∃ item ∈ items, x ∈ exhibits item := by
  cases items with
  | nil => simp [panelOfAll]
  | cons item items => simp [IsExhibited, panelOfAll]

@[simp]
theorem isExhibited_panelOfField {data : Value} {field key : String} :
    ¬ IsExhibited (panelOfField data field key) x := by
  unfold panelOfField
  split <;> simp

/-! ## Hidden exhibits -/

variable {edition : Edition} {data : Value} {s : Selection}

/-- If panels show the functions of modules, classes with their methods, and endpoints, then only
    the functions can be hidden. -/
theorem showsHiddenFunctions_of_isOf (hs : s.IsOf edition data) (exhibits : Value → List Exhibit)
    (hexhibits : ∀ c, ∀ x ∈ exhibits c, x = .type c ∨ ∃ m ∈ itemsIn c "methods", .block m = x)
    (hpanels : ∀ x, IsExhibited panels x ↔
      (∃ m ∈ s.modules, ∃ f ∈ itemsIn m "functions", .block f = x)
      ∨ (∃ c ∈ s.classes, x ∈ exhibits c) ∨ ∃ e ∈ s.endpoints, x = .endpoint e) :
    ShowsHiddenFunctions edition data panels := by
  intro x hx
  rw [hpanels]
  constructor
  · rintro (⟨m, hm, f, hf, rfl⟩ | ⟨c, hc, hxc⟩ | ⟨e, he, rfl⟩)
    · exact ⟨f, rfl, (hs.functions f).mp ⟨m, hm, hf⟩⟩
    · obtain rfl | ⟨m, hm, rfl⟩ := hexhibits c x hxc
      · cases hx
      · cases (hs.methods c hc m hm).symm.trans hx
    · cases (hs.endpoints e he).symm.trans hx
  · rintro ⟨f, rfl, hf⟩
    obtain ⟨m, hm, hf⟩ := (hs.functions f).mpr hf
    exact .inl ⟨m, hm, f, hf, rfl⟩

theorem showsHiddenFunctions_panelsOf (h : Selection.ofData .full data = .ok s) :
    ShowsHiddenFunctions .full data (panelsOf data s) := by
  refine showsHiddenFunctions_of_isOf (isOf_full h) typeExhibits ?_ fun x => ?_
  · intro c x hx
    obtain rfl | hx := List.mem_cons.mp hx
    · exact .inl rfl
    · obtain ⟨m, hm, rfl⟩ := List.mem_map.mp hx
      exact .inr ⟨m, classRoutines_subset c hm, rfl⟩
  · simp [panelsOf]

theorem Plugin.showsHiddenFunctions_panelsOf (start : String)
    (h : Selection.embedded data = .ok s) :
    ShowsHiddenFunctions .embedded data (Plugin.panelsOf start s) := by
  refine showsHiddenFunctions_of_isOf (isOf_embedded h) Plugin.typeExhibits ?_ fun x => ?_
  · intro c x hx
    obtain rfl | hx := List.mem_cons.mp hx
    · exact .inl rfl
    · obtain ⟨m, hm, rfl⟩ := List.mem_map.mp hx
      exact .inr ⟨m, hm, rfl⟩
  · simp [Plugin.panelsOf]

/-- The blocks, cards and listings that are drawn are those of the exhibits on the panels, and
    of hidden records only functions that are taken with their module are among them. This holds
    inside another site and, apart from the chat, on a site of its own. -/
theorem hidden_exhibited_iff (start : String) (p : Plan) (data : Value) :
    (∀ s es, Selection.embedded data = .ok s → Plugin.draw start s = .ok es →
      landmarks es = (Plugin.panelsOf start s).map Panel.item
        ++ (Plugin.panelsOf start s).flatMap Panel.marks
      ∧ ShowsHiddenFunctions .embedded data (Plugin.panelsOf start s))
    ∧ ∀ es, p.run data = .ok es → ∃ s chat, Selection.ofData .full data = .ok s
      ∧ p.chatEvents = .ok chat
      ∧ landmarks es = (panelsOf data s).map Panel.item ++ (panelsOf data s).flatMap Panel.marks
        ++ landmarks chat
      ∧ ShowsHiddenFunctions .full data (panelsOf data s) := by
  refine ⟨fun s es hs hes => ?_, fun es hes => ?_⟩
  · exact ⟨Plugin.draws_draw s start es hes, Plugin.showsHiddenFunctions_panelsOf start hs⟩
  · obtain ⟨s, chat, hs, hchat, hmarks⟩ := landmarks_run p data hes
    exact ⟨s, chat, hs, hchat, hmarks, showsHiddenFunctions_panelsOf hs⟩

/-! ## A hidden function -/

/-- A file with a hidden function. -/
def secretSource : List UInt8 :=
  "@doc(hidden=True)\ndef f():\n    \"\"\"Secret.\"\"\"\n".toUTF8.toList

/-- The documentation of the file is drawn. -/
theorem secretSource_drawn :
    ∃ m, scanModule [] ⟨"", ["m.py"]⟩ ⟨"", []⟩ secretSource = .ok m
      ∧ ∃ data, Build.documentation ⟨[m], []⟩ ⟨[], none⟩ = .ok data
      ∧ ∃ s, Selection.embedded (.dict data) = .ok s
      ∧ (∃ es, Plugin.draw "docs" s = .ok es ∧ True)
      ∧ ∃ n ∈ itemsIn (.dict data) "modules", ∃ f ∈ itemsIn n "functions",
        isTaken .embedded n f ∧ hasHidden f := by
  decide +kernel

/-- A hidden function of a file is shown inside another site, with its block and its source. -/
theorem secretSource_exhibited :
    ∃ m data s es f, scanModule [] ⟨"", ["m.py"]⟩ ⟨"", []⟩ secretSource = .ok m
      ∧ Build.documentation ⟨[m], []⟩ ⟨[], none⟩ = .ok data
      ∧ Selection.embedded (.dict data) = .ok s ∧ Plugin.draw "docs" s = .ok es
      ∧ hasHidden f ∧ (Exhibit.block f).marks ⊆ landmarks es := by
  obtain ⟨m, hm, data, hdata, s, hs, ⟨es, hes, -⟩, n, hn, f, hf, htaken, hhidden⟩ :=
    secretSource_drawn
  obtain ⟨hmarks, hshown⟩ := (hidden_exhibited_iff "docs" basicPlan (.dict data)).1 s es hs hes
  obtain ⟨q, hq, hx⟩ := (hshown (.block f) hhidden).mpr ⟨f, rfl, n, hn, hf, htaken⟩
  refine ⟨m, data, s, es, f, hm, hdata, hs, hes, hhidden, fun mark hmark => ?_⟩
  have hpanel : mark ∈ q.marks := List.mem_cons_of_mem _ (List.mem_flatMap.mpr ⟨_, hx, hmark⟩)
  rw [hmarks]
  exact List.mem_append_right _ (List.mem_flatMap.mpr ⟨q, hq, hpanel⟩)

end Docsmith.Site
