-- SUMMARY: The panels about calls and the state of a project have no exhibits.
import Docsmith.Proofs.Site.Panel
import Docsmith.Site.App.Insights

/-!
# Insight panels

The panels about calls, open work, changes and dead code show tables and figures,
but no blocks and no sources. Those that are about a list in the documentation
data are drawn exactly if the side bar has an item for them.
-/

namespace Docsmith.Site

variable (data : Value) (s : Selection)

/-! ## Calls -/

theorem landmarks_otherCalls (others : List Value) : landmarks (otherCalls others) = [] := by
  unfold otherCalls
  split
  · rfl
  · simp [-List.map_take, landmarks_map fun v => landmark?_badge v (.str "default")]

theorem landmarks_callCard (e : CallEntry) : landmarks (callCard e) = [] := by
  unfold callCard
  split
  · rfl
  · simp [landmarks_map fun v => landmark?_badge v (.str "info"), landmarks_otherCalls]

theorem draws_callMapPanel : Draws (callMapPanel s) (barePanel "callmap").marks := by
  refine .bind fun entries _ => .ite (fun _ => .bind fun content hcontent => .pure ?_) fun _ =>
    .bind fun rows _ => .bind fun content hcontent => .pure ?_
  · obtain rfl := Except.ok.inj hcontent
    simp [barePanel, Panel.marks]
  · obtain rfl := Except.ok.inj hcontent
    have hcards : landmarks (entries.flatMap callCard) = [] := by
      rw [List.flatMap, landmarks_flatten, List.flatMap_map]
      exact List.flatMap_eq_nil_iff.mpr fun e _ => landmarks_callCard e
    simp [hcards, barePanel, Panel.marks]

/-! ## Dashboard -/

theorem plain_coverageFigures (coverage : Value) : Plain (coverageFigures coverage) := by
  refine .bind fun score _ => .bind fun high _ => .ite (fun _ => .bind fun _ _ => ?_) fun _ => ?_
  all_goals exact .bind fun complete _ => .bind fun empty _ => .bind fun total _ => .pure (by simp)

theorem plain_debtFigures (deprecated : List Value) : Plain (debtFigures data deprecated) :=
  .bind fun _ _ => .bind fun _ _ => .bind fun _ _ => .bind fun _ _ => .bind fun _ _ =>
    .bind fun _ _ => .bind fun _ _ => .pure (by simp)

theorem plain_changeFigures (changes : List Value) : Plain (changeFigures changes) := by
  refine .bind fun values _ => .bind fun figures hfigures => .pure ?_
  simp [plain_tallied _ _ figures hfigures]

theorem plain_recentChanges : Plain (recentChanges data) := by
  refine .bind fun v _ => .given (.bind fun changes _ => .bind fun figures hfigures =>
    .bind fun rows _ => .pure ?_)
  simp [plain_changeFigures changes figures hfigures]

theorem plain_breakingAlert : Plain (breakingAlert data) :=
  .bind fun _ _ => .given (.bind fun _ _ => .pure rfl)

theorem plain_hotspots (routines : List Value) : Plain (hotspots routines) := by
  refine .bind fun complex _ => .bind fun keyed _ => .bind fun sorted _ =>
    .ite (fun _ => .bind fun content hcontent => .pure ?_) fun _ => .bind fun rows _ =>
    .bind fun content hcontent => .pure ?_
  · obtain rfl := Except.ok.inj hcontent
    simp
  · obtain rfl := Except.ok.inj hcontent
    simp

theorem plain_coverageDetails (coverage : Value) : Plain (coverageDetails coverage) := by
  refine .bind fun items _ => .bind fun content hcontent => .pure ?_
  have hcontent : landmarks content = [] := by
    refine Draws.given (.bind fun items _ => .bind fun low _ => .bind fun keyed _ =>
      .bind fun sorted _ => .ite (fun _ => .pure (by simp)) fun _ => ?_) _ hcontent
    exact .bind fun rows _ => .pure (by simp)
  simp [hcontent]

theorem draws_dashboardPanel : Draws (dashboardPanel data s) (barePanel "dashboard").marks := by
  refine .bind fun coverage _ => .bind fun figures hfigures => .bind fun routines _ =>
    .bind fun deprecated _ => .bind fun debt hdebt => .bind fun table htable =>
    .bind fun changes hchanges => .bind fun breaking hbreaking => .bind fun complex hcomplex =>
    .bind fun details hdetails => .pure ?_
  have htable : landmarks table = [] :=
    Draws.given (.bind fun rows _ => .pure (by simp)) _ htable
  simp [plain_coverageFigures coverage figures hfigures, plain_debtFigures data _ debt hdebt,
    htable, plain_recentChanges data changes hchanges, plain_breakingAlert data breaking hbreaking,
    plain_hotspots routines complex hcomplex, plain_coverageDetails coverage details hdetails,
    barePanel, Panel.marks]

/-! ## Open work, changes and dead code -/

/-- The panel that is about a list in the data, if the list is not empty. -/
def panelOfField (data : Value) (field key : String) : List Panel :=
  if (partOr data field (.list [])).isTrue then [barePanel key] else []

/-- A panel about a list in the data is drawn if the list is not empty. -/
theorem draws_panelOfField {field key : String} {draw : Value → Drawing}
    (h : ∀ v, Draws (draw v) (barePanel key).marks) :
    Draws (do
      let v ← data.getD field (.list [])
      given v.isTrue (draw v)) ((panelOfField data field key).flatMap Panel.marks) := by
  refine .bind fun v hv => ?_
  rw [panelOfField, getD_eq_ok hv]
  cases v.isTrue with
  | false => exact .pure rfl
  | true => exact h v

theorem draws_openWorkPanel : Draws (openWorkPanel data)
    ((panelOfField data "todos" "todos_panel").flatMap Panel.marks) := by
  refine draws_panelOfField data fun v => .bind fun notes _ => .bind fun values _ =>
    .bind fun tags htags => .bind fun rows _ => .pure ?_
  simp [plain_tallied _ _ tags htags, barePanel, Panel.marks]

theorem plain_differenceLine (d : Value) : Plain (differenceLine d) := by
  refine .bind fun breaking _ => .bind fun kind _ => .ite (fun _ => ?_) fun _ =>
    .ite (fun _ => ?_) fun _ => .ite (fun _ => ?_) fun _ => .ite (fun _ => ?_) fun _ =>
    .ite (fun _ => ?_) fun _ => .pure rfl
  · exact .bind fun arg _ => .pure rfl
  · exact .bind fun arg _ => .pure rfl
  · exact .bind fun arg _ => .bind fun old _ => .bind fun new _ => .pure rfl
  · exact .bind fun old _ => .bind fun new _ => .pure rfl
  · exact .bind fun arg _ => .pure rfl

theorem plain_breakingCard (b : Value) : Plain (breakingCard b) := by
  refine .bind fun path _ => .bind fun details _ => .bind fun lines hlines => .pure ?_
  simp [Draws.each plain_differenceLine lines hlines]

theorem plain_breakingParts : Plain (breakingParts data) := by
  refine .bind fun v _ => .given (.bind fun breaking _ => .bind fun cards hcards => .pure ?_)
  simp [Draws.each plain_breakingCard cards hcards]

theorem draws_changesPanel : Draws (changesPanel data)
    ((panelOfField data "changes" "changelog_panel").flatMap Panel.marks) := by
  refine draws_panelOfField data fun v => .bind fun changes _ => .bind fun figures hfigures =>
    .bind fun breaking hbreaking => .bind fun rows _ => .pure ?_
  simp [plain_changeFigures changes figures hfigures, plain_breakingParts data breaking hbreaking,
    barePanel, Panel.marks]

theorem draws_deadCodePanel : Draws (deadCodePanel data)
    ((panelOfField data "dead_code" "dead_code_panel").flatMap Panel.marks) := by
  refine draws_panelOfField data fun v => .bind fun size _ => .bind fun items _ =>
    .bind fun rows _ => .pure ?_
  simp [barePanel, Panel.marks]

/-- The item of a panel about a list in the data. -/
theorem draws_insightItem (field label key icon : String) :
    Draws (insightItem data field label key icon)
      ((panelOfField data field key).map Panel.item) := by
  refine .bind fun v hv => ?_
  rw [panelOfField, getD_eq_ok hv]
  cases v.isTrue with
  | false => exact .pure rfl
  | true => exact .bind fun size _ => .pure rfl

end Docsmith.Site
