-- SUMMARY: The panels of a site with what they exhibit, and the side bar that leads to them.
import Docsmith.Proofs.Site.Routine
import Docsmith.Site.App.Reference

/-!
# Panels

A panel is described by its key and its exhibits. The reference panels have the
landmarks of their descriptions, and the groups of the side bar have one item for
each panel, in the same order.
-/

namespace Docsmith.Site

/-- What is shown on a panel, and the key that leads to it. -/
structure Panel where
  key : String
  exhibits : List Exhibit

/-- The landmarks of a panel. -/
def Panel.marks (q : Panel) : List Landmark :=
  .panel (.str q.key) :: q.exhibits.flatMap Exhibit.marks

/-- The item of the navigation that leads to a panel. -/
def Panel.item (q : Panel) : Landmark := .item (.str q.key)

/-- A panel without exhibits. -/
def barePanel (key : String) : Panel := ⟨key, []⟩

/-- The panel of a module, with its functions. -/
def panelOfModule (start : String) (m : Value) : Panel :=
  ⟨start ++ (partOr m "full_path" .none).text, (itemsIn m "functions").map .block⟩

/-- The panel of a page. -/
def panelOfPage (start : String) (p : Value) : Panel :=
  barePanel (start ++ (partOr p "slug" .none).text)

/-- One panel for all items of a list, if there are any. -/
def panelOfAll (key : String) (items : List Value) (exhibits : Value → List Exhibit) : List Panel :=
  if items.isEmpty then [] else [⟨key, items.flatMap exhibits⟩]

/-! ## The side bar -/

theorem keyOf_eq_ok {start field : String} {item key : Value} (h : keyOf start item field = .ok key) :
    key = .str (start ++ (partOr item field .none).text) := by
  obtain ⟨v, hv, h⟩ := bind_eq_ok.mp h
  rw [field_eq_ok hv]
  exact (Except.ok.inj h).symm

theorem draws_moduleItem (start : String) (m : Value) :
    Draws (moduleItem start m) [(panelOfModule start m).item] := by
  refine .bind fun label _ => .bind fun classes _ => .bind fun functions _ =>
    .bind fun key hkey => .pure ?_
  rw [keyOf_eq_ok hkey]
  rfl

theorem draws_pageItem (start : String) (p : Value) :
    Draws (pageItem start p) [(panelOfPage start p).item] := by
  refine .bind fun title _ => .bind fun key hkey => .pure ?_
  rw [keyOf_eq_ok hkey]
  rfl

theorem draws_moduleGroup (start : String) (ms : List Value) :
    Draws (moduleGroup start ms) ((ms.map (panelOfModule start)).map Panel.item) := by
  rw [List.map_map, List.map_eq_flatMap]
  refine .given_nonempty (.bind fun items hitems => .pure ?_)
  simp [Draws.each_marks (fun m _ => draws_moduleItem start m) items hitems]

theorem draws_pageGroup (start : String) (pages : Value) :
    Draws (pageGroup start pages) (((valuesIn pages).map (panelOfPage start)).map Panel.item) := by
  rw [List.map_map, List.map_eq_flatMap]
  cases htrue : pages.isTrue with
  | false =>
    rw [pageGroup, htrue, valuesIn_of_not_isTrue htrue]
    exact .pure rfl
  | true =>
    rw [pageGroup, htrue]
    refine .bind fun ps hps => .bind fun items hitems => .pure ?_
    rw [items_eq_ok hps]
    simp [Draws.each_marks (fun p _ => draws_pageItem start p) items hitems]

theorem landmarks_countedItem (items : List Value) (label key icon : String)
    (exhibits : Value → List Exhibit) :
    landmarks (countedItem items label key icon)
      = (panelOfAll key items exhibits).map Panel.item := by
  unfold countedItem panelOfAll
  split <;> rfl

/-! ## Home -/

theorem plain_countBadge (m : Value) (key color : String) : Plain (countBadge m key color) := by
  refine .bind fun v _ => .given (.bind fun size _ => .pure ?_)
  simp

theorem plain_moduleCard (m : Value) : Plain (moduleCard m) := by
  refine .bind fun label _ => .bind fun documentation _ => .bind fun opening hopening =>
    .bind fun classes hclasses => .bind fun functions hfunctions => .pure ?_
  have hopening : landmarks opening = [] :=
    Draws.given (.bind fun text _ => .pure (by simp)) _ hopening
  have hrow : Event.landmark? (.call (call "row" [] [("gap", .int 2)])) = none := rfl
  simp [hopening, hrow, plain_countBadge m _ _ classes hclasses,
    plain_countBadge m _ _ functions hfunctions]

theorem plain_homeFigures (s : Selection) : Plain (homeFigures s) := by
  refine .bind fun pages hpages => .pure ?_
  have hpages : landmarks pages = [] :=
    Draws.given (.bind fun size _ => .pure (by simp)) _ hpages
  simp [hpages]

theorem draws_homePanel (p : Plan) (version : String) (s : Selection) :
    Draws (homePanel p version s) (barePanel "home").marks := by
  refine .bind fun figures hfigures => .bind fun modules hmodules =>
    .bind fun endpoints hendpoints => .pure ?_
  have hmodules : landmarks modules = [] := by
    refine Draws.given (.bind fun cards hcards => .pure ?_) _ hmodules
    simp [Draws.each plain_moduleCard cards hcards]
  have hendpoints : landmarks endpoints = [] :=
    Draws.given (.bind fun rows _ => .pure (by simp)) _ hendpoints
  have htitle : (single "title" [p.title] []).landmark? = none := rfl
  simp [htitle, plain_homeFigures s figures hfigures, hmodules, hendpoints, barePanel, Panel.marks]

/-! ## Modules and pages -/

theorem plain_classCard (edition : Edition) (c : Value) : Plain (classCard edition c) := by
  refine .bind fun name _ => .bind fun ds _ => .bind fun documentation hdocumentation =>
    .bind fun methods _ => .bind fun shown _ => .pure ?_
  simp [plain_docstring edition ds documentation hdocumentation]

theorem draws_modulePanel {edition : Edition} (hedition : edition ≠ .basic) (data m : Value) :
    Draws (modulePanel edition data m) (panelOfModule "mod_" m).marks := by
  refine .bind fun key hkey => .bind fun label _ => .bind fun file _ =>
    .bind fun documentation _ => .bind fun classes _ => .bind fun cards hcards =>
    .bind fun functions hfunctions => .bind fun blocks hblocks => .pure ?_
  have hcards : landmarks cards = [] := by
    refine Draws.given (.bind fun drawn hdrawn => .pure ?_) _ hcards
    simp [Draws.each (plain_classCard edition) drawn hdrawn]
  have hblocks : landmarks blocks = functions.flatMap fun f => (Exhibit.block f).marks := by
    refine Draws.given_nonempty (.bind fun drawn hdrawn => .pure ?_) _ hblocks
    simp [Draws.each_marks (fun f _ => draws_functionBlock edition f hedition data) drawn hdrawn]
  rw [keyOf_eq_ok hkey, Panel.marks, panelOfModule, itemsOf_eq_ok hfunctions]
  simp [hcards, hblocks, List.flatMap_map]

theorem draws_pagePanel (start : String) (p : Value) :
    Draws (pagePanel start p) (panelOfPage start p).marks := by
  refine .bind fun key hkey => .bind fun title _ => .bind fun content _ => .pure ?_
  rw [keyOf_eq_ok hkey]
  rfl

/-! ## Types -/

theorem plain_classLink (c : Value) : Plain (classLink c) :=
  .bind fun _ _ => .bind fun _ _ => .bind fun _ _ => .pure rfl

theorem plain_classLinks (group : Value × List Value) : Plain (classLinks group) := by
  refine .bind fun links hlinks => .pure ?_
  have hgroup : (single "subnav_group" [group.1] []).landmark? = none := rfl
  simp [hgroup, Draws.each plain_classLink links hlinks]

/-- What is shown of a class on the panel of the types. -/
def typeExhibits (c : Value) : List Exhibit := .type c :: (classRoutines c).map .block

theorem landmarks_sideLayout (side main : List Event) :
    landmarks (sideLayout side main) = landmarks side ++ landmarks main := by
  have hlayout : Event.landmark?
    (.call (call "layout" [.str "sidebar"] [("sidebar_width", .str "260px")])) = none := rfl
  have hside : Event.landmark? (.call (call "layout.side" [] [])) = none := rfl
  have hmain : Event.landmark? (.call (call "layout.main" [] [])) = none := rfl
  simp [sideLayout, hlayout, hside, hmain]

theorem landmarks_subnav (es : List Event) : landmarks (subnav es) = landmarks es :=
  landmarks_inside _ es

theorem placeOf_of_ne {edition : Edition} (hedition : edition ≠ .basic) (key : Value) :
    placeOf edition key = anchor key := by
  simp [placeOf, hedition]

theorem draws_typeCard {edition : Edition} (hedition : edition ≠ .basic) (data c : Value) :
    Draws (typeCard edition data c) ((typeExhibits c).flatMap Exhibit.marks) := by
  refine .bind fun key hkey => .bind fun block hblock => .pure ?_
  rw [keyOf_eq_ok hkey, placeOf_of_ne hedition]
  simp [draws_classBlock edition hedition data c block hblock, typeExhibits, Exhibit.marks,
    List.flatMap_map]

/-- A panel for all items of a list is left out exactly if the list is empty. -/
theorem draws_panelOfAll {key : String} {items : List Value} {exhibits : Value → List Exhibit}
    {d : Drawing} (h : Draws d (.panel (.str key)
      :: items.flatMap fun x => (exhibits x).flatMap Exhibit.marks)) :
    Draws (given (!items.isEmpty) d) ((panelOfAll key items exhibits).flatMap Panel.marks) := by
  cases items with
  | nil => exact .pure rfl
  | cons x xs =>
    have hmarks : (panelOfAll key (x :: xs) exhibits).flatMap Panel.marks = .panel (.str key)
        :: (x :: xs).flatMap fun x => (exhibits x).flatMap Exhibit.marks := by
      simp [panelOfAll, Panel.marks, List.flatMap_assoc]
    rw [hmarks]
    exact h

theorem draws_typesPanel {edition : Edition} (hedition : edition ≠ .basic) (data : Value)
    (s : Selection) : Draws (typesPanel edition data s)
      ((panelOfAll "types_ref" s.classes typeExhibits).flatMap Panel.marks) := by
  refine draws_panelOfAll (.bind fun groups _ => .bind fun links hlinks =>
    .bind fun cards hcards => .pure ?_)
  simp [landmarks_sideLayout, landmarks_subnav, Draws.each plain_classLinks links hlinks,
    Draws.each_marks (fun c _ => draws_typeCard hedition data c) cards hcards]

/-! ## Endpoints -/

theorem plain_endpointLink (e : Value) : Plain (endpointLink e) :=
  .bind fun _ _ => .bind fun _ _ => .bind fun _ _ => .bind fun _ _ => .bind fun _ _ =>
    .bind fun _ _ => .pure rfl

theorem plain_endpointLinks (group : Value × List Value) : Plain (endpointLinks group) := by
  refine .bind fun links hlinks => .pure ?_
  have hgroup : (single "subnav_group" [group.1] []).landmark? = none := rfl
  simp [hgroup, Draws.each plain_endpointLink links hlinks]

theorem plain_tallied (label : Value → Answer Value) (values : List Value) :
    Plain (tallied label values) :=
  .bind fun _ _ => .bind fun _ _ => .each fun (_, _) => .bind fun _ _ => .pure (by simp)

theorem draws_endpointCard {edition : Edition} (hedition : edition ≠ .basic) (e : Value) :
    Draws (endpointCard edition e) (Exhibit.endpoint e).marks := by
  refine .bind fun ds _ => .bind fun method _ => .bind fun path _ => .bind fun key hkey =>
    .bind fun mark hmark => .ite (fun _ => .bind fun shown _ => ?_) fun _ => .bind fun shown _ => ?_
  -- The card is the same, whether it is headed by the path or by the name.
  all_goals
    refine .bind fun module _ => .bind fun origin horigin =>
      .bind fun documentation hdocumentation => .bind fun text htext =>
      .bind fun source hsource => .pure ?_
    have horigin : landmarks origin = [] :=
      Draws.given (.bind fun name _ => .pure (by simp)) _ horigin
    have hsource : landmarks source = sourceMarks e := by
      rw [Draws.given_marks (fun _ => .bind fun name _ => draws_sourceTab edition hedition 3 e name)
        source hsource, sourceMarks, getD_eq_ok htext]
      split <;> rfl
    rw [keyOf_eq_ok hkey, placeOf_of_ne hedition]
    simp [plain_methodBadge method mark hmark, horigin,
      plain_docstring edition ds documentation hdocumentation, hsource, Exhibit.marks]

theorem draws_endpointsPanel {edition : Edition} (hedition : edition ≠ .basic) (s : Selection) :
    Draws (endpointsPanel edition s)
      ((panelOfAll "api_ref" s.endpoints fun e => [.endpoint e]).flatMap Panel.marks) := by
  refine draws_panelOfAll (.bind fun groups _ => .bind fun links hlinks => .bind fun names _ =>
    .bind fun methods hmethods => .bind fun cards hcards => .pure ?_)
  simp [landmarks_sideLayout, landmarks_subnav, Draws.each plain_endpointLinks links hlinks,
    plain_tallied _ _ methods hmethods,
    Draws.each_marks (fun e _ => draws_endpointCard hedition e) cards hcards]

end Docsmith.Site
