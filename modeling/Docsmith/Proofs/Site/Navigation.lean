-- SUMMARY: The navigation of a site leads to its panels.
import Docsmith.Proofs.Site.Dialog
import Docsmith.Proofs.Site.Run
import Docsmith.Proofs.Site.Selection

/-!
# Navigation

The items of the navigation and the panels have the same keys in the same order.
Keys stand in groups, each with a label that its keys start with, and no label
starts another one. So no key stands twice, if the paths of modules are distinct
and the slugs of pages are. The one exception is the chat of a site of its own:
its dialog is read from text, and a title with quotation marks can add panels.
-/

namespace Docsmith.Site

/-! ## Keys as landmarks -/

/-- The key of an item of the navigation. -/
def Landmark.itemKey? : Landmark → Option Value
  | .item key => some key
  | _ => none

/-- The key of a panel. -/
def Landmark.panelKey? : Landmark → Option Value
  | .panel key => some key
  | _ => none

theorem Event.itemKey?_eq (e : Event) : e.itemKey? = e.landmark?.bind Landmark.itemKey? := by
  cases e with
  | call c =>
    simp only [Event.itemKey?, Event.landmark?]
    split
    · cases c.named? "key" <;> rfl
    · repeat' split
      all_goals cases c.args.head? <;> rfl
  | _ => rfl

theorem Event.panelKey?_eq (e : Event) : e.panelKey? = e.landmark?.bind Landmark.panelKey? := by
  cases e with
  | call c =>
    by_cases hitem : c.name = "nav_item"
    · simp only [Event.panelKey?, Event.landmark?, hitem, beq_self_eq_true, if_true]
      cases c.named? "key" <;> rfl
    · simp only [Event.panelKey?, Event.landmark?, beq_iff_eq, hitem, if_false]
      repeat' split
      all_goals cases c.args.head? <;> rfl
  | _ => rfl

theorem itemKeys_eq (es : List Event) : itemKeys es = (landmarks es).filterMap Landmark.itemKey? := by
  rw [landmarks, List.filterMap_filterMap, itemKeys]
  exact congrArg (List.filterMap · es) (funext Event.itemKey?_eq)

theorem panelKeys_eq (es : List Event) :
    panelKeys es = (landmarks es).filterMap Landmark.panelKey? := by
  rw [landmarks, List.filterMap_filterMap, panelKeys]
  exact congrArg (List.filterMap · es) (funext Event.panelKey?_eq)

@[simp]
theorem Exhibit.itemKeys_marks (x : Exhibit) : x.marks.filterMap Landmark.itemKey? = [] := by
  cases x <;> simp [Exhibit.marks, sourceMarks, Landmark.itemKey?]

@[simp]
theorem Exhibit.panelKeys_marks (x : Exhibit) : x.marks.filterMap Landmark.panelKey? = [] := by
  cases x <;> simp [Exhibit.marks, sourceMarks, Landmark.panelKey?]

@[simp]
theorem Panel.itemKeys_marks (q : Panel) : q.marks.filterMap Landmark.itemKey? = [] := by
  rw [Panel.marks, List.filterMap_cons_none rfl, List.filterMap_flatMap]
  simp

@[simp]
theorem Panel.panelKeys_marks (q : Panel) : q.marks.filterMap Landmark.panelKey? = [.str q.key] := by
  have hkey : Landmark.panelKey? (.panel (.str q.key)) = some (.str q.key) := rfl
  rw [Panel.marks, List.filterMap_cons_some hkey, List.filterMap_flatMap]
  simp

/-- The keys of panels, as values. -/
def keysOf (panels : List Panel) : List Value := panels.map fun q => .str q.key

theorem itemKeys_of_panels (panels : List Panel) :
    (panels.map Panel.item ++ panels.flatMap Panel.marks).filterMap Landmark.itemKey?
      = keysOf panels := by
  have hitems : (panels.map Panel.item).filterMap Landmark.itemKey? = keysOf panels := by
    simp [keysOf, List.filterMap_map, Function.comp_def, Panel.item, Landmark.itemKey?]
  have hmarks : (panels.flatMap Panel.marks).filterMap Landmark.itemKey? = [] := by
    rw [List.filterMap_flatMap]
    simp
  rw [List.filterMap_append, hitems, hmarks, List.append_nil]

theorem panelKeys_of_panels (panels : List Panel) :
    (panels.map Panel.item ++ panels.flatMap Panel.marks).filterMap Landmark.panelKey?
      = keysOf panels := by
  have hitems : (panels.map Panel.item).filterMap Landmark.panelKey? = [] := by
    simp [Panel.item, Landmark.panelKey?]
  have hmarks : (panels.flatMap Panel.marks).filterMap Landmark.panelKey? = keysOf panels := by
    rw [List.filterMap_flatMap, keysOf, List.map_eq_flatMap]
    simp
  rw [List.filterMap_append, hitems, hmarks, List.nil_append]

/-! ## Groups of keys -/

/-- Keys that start with one label. -/
structure KeyGroup where
  label : String
  names : List String

/-- The keys of a group. -/
def KeyGroup.keys (g : KeyGroup) : List String := g.names.map (g.label ++ ·)

/-- Neither of two labels starts the other. -/
def AreApart (a b : String) : Prop := ¬ a.toList <+: b.toList ∧ ¬ b.toList <+: a.toList

instance (a b : String) : Decidable (AreApart a b) := inferInstanceAs (Decidable (_ ∧ _))

theorem AreApart.append_ne {a b : String} (h : AreApart a b) (x y : String) : a ++ x ≠ b ++ y := by
  intro heq
  have heq : a.toList ++ x.toList = b.toList ++ y.toList := by
    rw [← String.toList_append, heq, String.toList_append]
  have ha : a.toList <+: a.toList ++ x.toList := List.prefix_append _ _
  have hb : b.toList <+: a.toList ++ x.toList := heq ▸ List.prefix_append _ _
  obtain hab | hba := List.prefix_or_prefix_of_prefix ha hb
  · exact h.1 hab
  · exact h.2 hba

theorem AreApart.append_left {a b : String} (h : AreApart a b) (start : String) :
    AreApart (start ++ a) (start ++ b) := by
  simpa [AreApart, String.toList_append, List.prefix_append_right_inj] using h

/-- Keys are distinct if they are in each group and no label starts another one. -/
theorem nodup_keys {groups : List KeyGroup}
    (hlabels : (groups.map KeyGroup.label).Pairwise AreApart)
    (hnames : ∀ g ∈ groups, g.names.Nodup) : (groups.flatMap KeyGroup.keys).Nodup := by
  rw [List.nodup_flatMap]
  refine ⟨fun g hg => ?_, (List.pairwise_map.mp hlabels).imp fun {g g'} hapart => ?_⟩
  · exact (hnames g hg).map fun x y hxy => by simpa using hxy
  · intro key hkey hkey'
    obtain ⟨x, -, rfl⟩ := List.mem_map.mp hkey
    obtain ⟨y, -, hy⟩ := List.mem_map.mp hkey'
    exact hapart.append_ne x y hy.symm

/-- The names of a group with one key at most: it is the label itself. -/
def loneName (isThere : Bool) : List String := if isThere then [""] else []

theorem nodup_loneName (isThere : Bool) : (loneName isThere).Nodup := by
  cases isThere <;> decide

theorem keys_panelOfAll (key : String) (items : List Value) (exhibits : Value → List Exhibit) :
    (panelOfAll key items exhibits).map Panel.key
      = (⟨key, loneName !items.isEmpty⟩ : KeyGroup).keys := by
  cases items <;> simp [panelOfAll, loneName, KeyGroup.keys]

theorem keys_panelOfField (data : Value) (field key : String) :
    (panelOfField data field key).map Panel.key
      = (⟨key, loneName (partOr data field (.list [])).isTrue⟩ : KeyGroup).keys := by
  cases h : (partOr data field (.list [])).isTrue <;>
    simp [panelOfField, h, loneName, KeyGroup.keys, barePanel]

theorem keys_lone (key : String) : (⟨key, loneName true⟩ : KeyGroup).keys = [key] := by
  simp [loneName, KeyGroup.keys]

theorem keys_modules (start : String) (ms : List Value) :
    (ms.map (panelOfModule start)).map Panel.key
      = (⟨start, ms.map pathOf⟩ : KeyGroup).keys := by
  simp [KeyGroup.keys, panelOfModule, pathOf]

theorem keys_pages (start : String) (ps : List Value) :
    (ps.map (panelOfPage start)).map Panel.key = (⟨start, ps.map slugOf⟩ : KeyGroup).keys := by
  simp [KeyGroup.keys, panelOfPage, barePanel, slugOf]

/-! ## The keys of sites -/

/-- The paths of modules are distinct, and the slugs of pages are. -/
structure HasDistinctNames (data : Value) : Prop where
  modules : ((itemsIn data "modules").map pathOf).Nodup
  pages : ((itemsIn data "pages").map slugOf).Nodup

variable {edition : Edition} {data : Value} {s : Selection}

theorem nodup_keysOf {panels : List Panel} (h : (panels.map Panel.key).Nodup) :
    (keysOf panels).Nodup := by
  have hkeys : keysOf panels = (panels.map Panel.key).map .str := by simp [keysOf]
  rw [hkeys]
  exact h.map fun x y hxy => Value.str.inj hxy

theorem nodup_keys_panelsOf (hs : s.IsOf edition data) (hdata : HasDistinctNames data) :
    (keysOf (panelsOf data s)).Nodup := by
  refine nodup_keysOf ?_
  have hkeys : (panelsOf data s).map Panel.key = List.flatMap KeyGroup.keys [
      ⟨"home", loneName true⟩, ⟨"mod_", s.modules.map pathOf⟩,
      ⟨"types_ref", loneName !s.classes.isEmpty⟩, ⟨"api_ref", loneName !s.endpoints.isEmpty⟩,
      ⟨"callmap", loneName true⟩, ⟨"dashboard", loneName true⟩,
      ⟨"todos_panel", loneName (partOr data "todos" (.list [])).isTrue⟩,
      ⟨"changelog_panel", loneName (partOr data "changes" (.list [])).isTrue⟩,
      ⟨"dead_code_panel", loneName (partOr data "dead_code" (.list [])).isTrue⟩,
      ⟨"page_", (itemsIn data "pages").map slugOf⟩] := by
    simp only [panelsOf, List.map_cons, List.map_append, keys_modules, keys_panelOfAll,
      keys_panelOfField, keys_pages, hs.pages, List.flatMap_cons, keys_lone]
    simp [barePanel]
  rw [hkeys]
  refine nodup_keys (by simp only [List.map_cons, List.map_nil]; decide) ?_
  simp [nodup_loneName, hdata.pages, hs.paths.nodup hdata.modules]

theorem Plugin.nodup_keys_panelsOf (start : String) (hs : s.IsOf edition data)
    (hdata : HasDistinctNames data) : (keysOf (Plugin.panelsOf start s)).Nodup := by
  refine nodup_keysOf ?_
  have hkeys : (Plugin.panelsOf start s).map Panel.key = List.flatMap KeyGroup.keys [
      ⟨start ++ "_mod_", s.modules.map pathOf⟩,
      ⟨start ++ "_types", loneName !s.classes.isEmpty⟩,
      ⟨start ++ "_api", loneName !s.endpoints.isEmpty⟩,
      ⟨start ++ "_page_", (itemsIn data "pages").map slugOf⟩] := by
    simp only [Plugin.panelsOf, List.map_append, keys_modules, keys_panelOfAll, keys_pages,
      hs.pages, List.flatMap_cons, List.flatMap_nil, List.append_nil, List.append_assoc]
  rw [hkeys]
  have hlabels : (["_mod_", "_types", "_api", "_page_"].map (start ++ ·)).Pairwise AreApart := by
    rw [List.pairwise_map]
    have hends : ["_mod_", "_types", "_api", "_page_"].Pairwise AreApart := by decide
    exact hends.imp fun h => h.append_left start
  refine nodup_keys hlabels ?_
  simp [nodup_loneName, hdata.pages, hs.paths.nodup hdata.modules]

/-! ## Navigation -/

/-- The site has no chat, or its title leaves the dialog of the chat alone. -/
def Plan.HasPlainDialog (p : Plan) : Prop := p.chat = none ∨ IsPlainTitle p.title.text

theorem plain_chatEvents {p : Plan} (h : p.HasPlainDialog) : Plain p.chatEvents := by
  unfold Plan.chatEvents
  split
  · rename_i chat hchat
    have htitle : IsPlainTitle p.title.text := h.resolve_left (by simp [hchat])
    rw [dialogCalls_of_isPlainTitle htitle]
    exact .pure rfl
  · exact .pure rfl

/-- The items of the navigation have the keys of the panels, in the same order. Inside another
    site this always holds. A site of its own can differ in its chat, but not if it has none or
    if the title is plain. If paths and slugs are distinct, then all keys are. -/
theorem navigation_matches_panels (start : String) (p : Plan) (data : Value) :
    (∀ s es, Selection.embedded data = .ok s → Plugin.draw start s = .ok es →
      itemKeys es = panelKeys es ∧ (HasDistinctNames data → (itemKeys es).Nodup))
    ∧ ∀ es, p.run data = .ok es → ∃ chat, p.chatEvents = .ok chat
      ∧ (itemKeys es = panelKeys es ↔ itemKeys chat = panelKeys chat)
      ∧ (p.HasPlainDialog →
        itemKeys es = panelKeys es ∧ (HasDistinctNames data → (itemKeys es).Nodup)) := by
  refine ⟨fun s es hs hes => ?_, fun es hes => ?_⟩
  · have hmarks := Plugin.draws_draw s start es hes
    rw [itemKeys_eq, panelKeys_eq, hmarks, itemKeys_of_panels, panelKeys_of_panels]
    exact ⟨rfl, Plugin.nodup_keys_panelsOf start (isOf_embedded hs)⟩
  · obtain ⟨s, chat, hs, hchat, hmarks⟩ := landmarks_run p data hes
    have hitems : itemKeys es = keysOf (panelsOf data s) ++ itemKeys chat := by
      rw [itemKeys_eq, hmarks, List.filterMap_append, itemKeys_of_panels, itemKeys_eq]
    have hpanels : panelKeys es = keysOf (panelsOf data s) ++ panelKeys chat := by
      rw [panelKeys_eq, hmarks, List.filterMap_append, panelKeys_of_panels, panelKeys_eq]
    refine ⟨chat, hchat, ?_, fun hplain => ?_⟩
    · rw [hitems, hpanels, List.append_cancel_left_eq]
    · have hnone : landmarks chat = [] := plain_chatEvents hplain chat hchat
      rw [hitems, hpanels, itemKeys_eq, panelKeys_eq, hnone]
      simpa using nodup_keys_panelsOf (isOf_full hs)

/-! ## A title with quotation marks -/

/-- The documentation of two modules. -/
def twoModules : Value :=
  let module (path : String) : Value := .object [("name", .str path), ("full_path", .str path),
    ("file_path", .str path), ("docstring", .str "A module."), ("classes", .list []),
    ("functions", .list [])]
  .object [("modules", .list [module "a", module "b"]), ("classes", .list []),
    ("functions", .list []), ("api_endpoints", .list []), ("pages", .list []),
    ("config", .object [])]

/-- A site with a chat and a title. -/
def chatPlan (title : String) : Plan :=
  { basicPlan with title := .str title, chat := some ⟨"openai", "gpt-4o-mini", "Help."⟩ }

/-- A title that closes the call in which it stands and opens a panel. -/
def panelTitle : String := "x\"), c.nav_panel(\"extra\"), c.modal(title=\"y"

theorem twoModules_drawn :
    (∃ s, Selection.embedded twoModules = .ok s ∧ HasAnswer (Plugin.draw "docs" s))
    ∧ HasAnswer ((chatPlan "Docs").run twoModules)
    ∧ HasAnswer ((chatPlan panelTitle).run twoModules)
    ∧ ∀ chat, (chatPlan panelTitle).chatEvents = .ok chat →
      (itemKeys chat).length ≠ (panelKeys chat).length := by
  decide +kernel

/-- With a plain title the navigation matches the panels. With quotation marks in the title a
    panel can be added that no item leads to. -/
theorem panelTitle_adds_panel :
    HasDistinctNames twoModules ∧ (chatPlan "Docs").HasPlainDialog
    ∧ (∃ s es, Selection.embedded twoModules = .ok s ∧ Plugin.draw "docs" s = .ok es
      ∧ itemKeys es = panelKeys es ∧ (itemKeys es).Nodup)
    ∧ (∃ es, (chatPlan "Docs").run twoModules = .ok es
      ∧ itemKeys es = panelKeys es ∧ (itemKeys es).Nodup)
    ∧ ∃ es, (chatPlan panelTitle).run twoModules = .ok es ∧ itemKeys es ≠ panelKeys es := by
  have hnames : HasDistinctNames twoModules := ⟨by decide +kernel, by decide +kernel⟩
  have htitle : IsPlainTitle "Docs" := by decide
  have hplain : (chatPlan "Docs").HasPlainDialog := .inr htitle
  obtain ⟨⟨s, hs, drawn, hdrawn⟩, ⟨es, hes⟩, ⟨fs, hfs⟩, hadded⟩ := twoModules_drawn
  obtain ⟨hembedded, hown⟩ := navigation_matches_panels "docs" (chatPlan "Docs") twoModules
  obtain ⟨hkeys, hnodup⟩ := hembedded s drawn hs hdrawn
  obtain ⟨-, -, -, hmatch⟩ := hown es hes
  obtain ⟨hkeys', hnodup'⟩ := hmatch hplain
  obtain ⟨chat, hchat, hiff, -⟩ :=
    (navigation_matches_panels "docs" (chatPlan panelTitle) twoModules).2 fs hfs
  refine ⟨hnames, hplain, ⟨s, drawn, hs, hdrawn, hkeys, hnodup hnames⟩,
    ⟨es, hes, hkeys', hnodup' hnames⟩, fs, hfs, fun heq => ?_⟩
  exact hadded chat hchat (congrArg List.length (hiff.mp heq))

end Docsmith.Site
