-- SUMMARY: The landmarks of a whole site.
import Docsmith.Proofs.Site.Insights
import Docsmith.Site.Plugin

/-!
# Whole sites

A site is described by its panels. Its landmarks are one item for each panel in
the side bar, and then the panels themselves with their exhibits. After them a
site of its own may have a chat, which depends on its plan only.
-/

namespace Docsmith.Site

/-! ## A site of its own -/

/-- The panels of a site with all panels. -/
def panelsOf (data : Value) (s : Selection) : List Panel :=
  barePanel "home" :: (s.modules.map (panelOfModule "mod_")
    ++ panelOfAll "types_ref" s.classes typeExhibits
    ++ panelOfAll "api_ref" s.endpoints (fun e => [.endpoint e])
    ++ [barePanel "callmap", barePanel "dashboard"]
    ++ panelOfField data "todos" "todos_panel"
    ++ panelOfField data "changes" "changelog_panel"
    ++ panelOfField data "dead_code" "dead_code_panel"
    ++ (valuesIn s.pages).map (panelOfPage "page_"))

variable (p : Plan) (data : Value) (s : Selection)

theorem draws_sidebar : Draws (sidebar .full s data) ((panelsOf data s).map Panel.item) := by
  refine .bind fun modules hmodules => .bind fun insights hinsights => .bind fun pages hpages =>
    .pure ?_
  have hinsights : landmarks insights = (barePanel "dashboard").item
      :: ((panelOfField data "todos" "todos_panel").map Panel.item
      ++ (panelOfField data "changes" "changelog_panel").map Panel.item
      ++ (panelOfField data "dead_code" "dead_code_panel").map Panel.item) := by
    refine Draws.bind (fun todos htodos => .bind fun changes hchanges => .bind fun dead hdead =>
      .pure ?_) _ hinsights
    simp [draws_insightItem data _ _ _ _ todos htodos,
      draws_insightItem data _ _ _ _ changes hchanges,
      draws_insightItem data _ _ _ _ dead hdead, barePanel, Panel.item]
  have hbar : Event.landmark? (.call (call "nav_sidebar" [] [])) = none := rfl
  simp [hbar, draws_moduleGroup _ _ modules hmodules, landmarks_countedItem s.classes _ _ _ typeExhibits,
    landmarks_countedItem s.endpoints _ _ _ fun e => [Exhibit.endpoint e], hinsights,
    draws_pageGroup _ _ pages hpages, panelsOf, barePanel, Panel.item]

theorem draws_panels : Draws (panels .full p data s) ((panelsOf data s).flatMap Panel.marks) := by
  have hfull : Edition.full ≠ .basic := by decide
  refine .ite (fun _ => .bind fun version _ => ?_) fun _ => .bind fun version _ => ?_
  all_goals
    refine .bind fun home hhome => .bind fun modules hmodules => .bind fun types htypes =>
      .bind fun endpoints hendpoints => .bind fun calls hcalls => .bind fun insights hinsights =>
      .bind fun ps hps => .bind fun pages hpages => .pure ?_
    have hinsights : landmarks insights = (barePanel "dashboard").marks
        ++ (panelOfField data "todos" "todos_panel").flatMap Panel.marks
        ++ (panelOfField data "changes" "changelog_panel").flatMap Panel.marks
        ++ (panelOfField data "dead_code" "dead_code_panel").flatMap Panel.marks := by
      refine Draws.bind (fun dashboard hdashboard => .bind fun work hwork =>
        .bind fun changes hchanges => .bind fun dead hdead => .pure ?_) _ hinsights
      simp [draws_dashboardPanel data s dashboard hdashboard, draws_openWorkPanel data work hwork,
        draws_changesPanel data changes hchanges, draws_deadCodePanel data dead hdead]
    rw [panelsOf, items_eq_ok hps]
    simp [draws_homePanel p version s home hhome,
      Draws.each_marks (fun m _ => draws_modulePanel hfull data m) modules hmodules,
      draws_typesPanel hfull data s types htypes,
      draws_endpointsPanel hfull s endpoints hendpoints, draws_callMapPanel s calls hcalls,
      hinsights, Draws.each_marks (fun q _ => draws_pagePanel "page_" q) pages hpages,
      List.flatMap_map]

theorem plain_announce : Plain (announce s) := .bind fun _ _ => .pure rfl

/-- A run of a site has the landmarks of its panels, and those of its chat. A site that is
    generated (`runSite`) runs by its plan, once its text has been read. -/
theorem landmarks_run {es : List Event} (h : p.run data = .ok es) :
    ∃ s chat, Selection.ofData .full data = .ok s ∧ p.chatEvents = .ok chat
      ∧ landmarks es = (panelsOf data s).map Panel.item
        ++ (panelsOf data s).flatMap Panel.marks ++ landmarks chat := by
  obtain ⟨s, hs, h⟩ := bind_eq_ok.mp h
  obtain ⟨shown, hshown, h⟩ := bind_eq_ok.mp h
  obtain ⟨ready, hready, h⟩ := bind_eq_ok.mp h
  obtain ⟨side, hside, hshown⟩ := bind_eq_ok.mp hshown
  obtain ⟨content, hcontent, hshown⟩ := bind_eq_ok.mp hshown
  obtain ⟨chat, hchat, hshown⟩ := bind_eq_ok.mp hshown
  obtain rfl := Except.ok.inj hshown
  obtain rfl := Except.ok.inj h
  refine ⟨s, chat, hs, hchat, ?_⟩
  have hconfigure : p.configure.landmark? = none := rfl
  have htheme (name : String) (colors : Value) :
      (single "register_theme" [.str name, colors] []).landmark? = none := rfl
  have hregister (text : String) : (register text).landmark? = none := rfl
  have hawait : awaitReady.landmark? = none := rfl
  have hsignal : (single "signal" [.bool false] [("name", .str "show_chat")]).landmark? = none := rfl
  have hshell (named : List (String × Value)) :
      Event.landmark? (.call (call "app_shell" [] named)) = none := rfl
  have hinner : Event.landmark? (.call (call "shell_content" [] [])) = none := rfl
  simp [hconfigure, landmarks_map fun t : String × Value => htheme t.1 t.2, hregister, hawait,
    hsignal, hshell, hinner, draws_sidebar data s side hside, draws_panels p data s content hcontent,
    plain_announce s ready hready]

/-! ## Inside another site -/

namespace Plugin

variable (start : String)

/-- What is shown of a class inside another site. -/
def typeExhibits (c : Value) : List Exhibit := .type c :: (itemsIn c "methods").map .block

/-- The panels inside another site. -/
def panelsOf (start : String) (s : Selection) : List Panel :=
  s.modules.map (panelOfModule (start ++ "_mod_"))
    ++ panelOfAll (start ++ "_types") s.classes typeExhibits
    ++ panelOfAll (start ++ "_api") s.endpoints (fun e => [.endpoint e])
    ++ (valuesIn s.pages).map (panelOfPage (start ++ "_page_"))

theorem draws_sidebar : Draws (sidebar start s) ((panelsOf start s).map Panel.item) := by
  refine .bind fun modules hmodules => .bind fun pages hpages => .pure ?_
  simp [draws_moduleGroup _ _ modules hmodules, landmarks_countedItem s.classes _ _ _ typeExhibits,
    landmarks_countedItem s.endpoints _ _ _ fun e => [Exhibit.endpoint e],
    draws_pageGroup _ _ pages hpages, panelsOf]

theorem draws_modulePanel (m : Value) :
    Draws (modulePanel start m) (panelOfModule (start ++ "_mod_") m).marks := by
  refine .bind fun key hkey => .bind fun label _ => .bind fun documentation _ =>
    .bind fun functions hfunctions => .bind fun blocks hblocks => .pure ?_
  have hembedded : Edition.embedded ≠ .basic := by decide
  rw [keyOf_eq_ok hkey, Panel.marks, panelOfModule, itemsOf_eq_ok hfunctions]
  simp [Draws.each_marks (fun f _ => draws_functionBlock _ f hembedded _) blocks hblocks,
    List.flatMap_map]

theorem draws_typeCard (c : Value) : Draws (typeCard c) ((typeExhibits c).flatMap Exhibit.marks) := by
  refine .bind fun key hkey => .bind fun name _ => .bind fun ds _ =>
    .bind fun documentation hdocumentation => .bind fun methods hmethods =>
    .bind fun blocks hblocks => .pure ?_
  have hembedded : Edition.embedded ≠ .basic := by decide
  rw [keyOf_eq_ok hkey, typeExhibits, itemsOf_eq_ok hmethods]
  simp [plain_docstring _ ds documentation hdocumentation, Exhibit.marks,
    Draws.each_marks (fun m _ => draws_functionBlock _ m hembedded _) blocks hblocks,
    List.flatMap_map]

theorem draws_typesPanel : Draws (typesPanel start s)
    ((panelOfAll (start ++ "_types") s.classes typeExhibits).flatMap Panel.marks) := by
  refine draws_panelOfAll (.bind fun cards hcards => .pure ?_)
  simp [Draws.each_marks (fun c _ => draws_typeCard c) cards hcards]

theorem draws_endpointsPanel : Draws (endpointsPanel start s)
    ((panelOfAll (start ++ "_api") s.endpoints fun e => [.endpoint e]).flatMap Panel.marks) := by
  refine draws_panelOfAll (.bind fun cards hcards => .pure ?_)
  have hembedded : Edition.embedded ≠ .basic := by decide
  simp [Draws.each_marks (fun e _ => draws_endpointCard hembedded e) cards hcards]

theorem draws_panels : Draws (panels start s) ((panelsOf start s).flatMap Panel.marks) := by
  refine .bind fun modules hmodules => .bind fun types htypes => .bind fun endpoints hendpoints =>
    .bind fun ps hps => .bind fun pages hpages => .pure ?_
  rw [panelsOf, items_eq_ok hps]
  simp [Draws.each_marks (fun m _ => draws_modulePanel start m) modules hmodules,
    draws_typesPanel s start types htypes, draws_endpointsPanel s start endpoints hendpoints,
    Draws.each_marks (fun q _ => draws_pagePanel (start ++ "_page_") q) pages hpages,
    List.flatMap_map]

/-- Documentation inside another site has the landmarks of its panels. -/
theorem draws_draw : Draws (draw start s)
    ((panelsOf start s).map Panel.item ++ (panelsOf start s).flatMap Panel.marks) := by
  refine .bind fun side hside => .bind fun content hcontent => .pure ?_
  simp [draws_sidebar s start side hside, draws_panels s start content hcontent]

end Plugin

end Docsmith.Site
