-- SUMMARY: Documentation texts are drawn without landmarks.
import Docsmith.Proofs.Site.Landmark
import Docsmith.Site.Docstring

/-!
# Drawing documentation texts

What a documentation text says is drawn with headings, texts, tables, badges and
cards only, so it neither adds to the navigation nor shows a function or its
source.
-/

namespace Docsmith.Site

variable (edition : Edition) (d : Value)

theorem plain_argsTable (label : String) (args : Value) : Plain (argsTable edition label args) := by
  refine .given (.bind fun items _ => .bind fun rows _ => .pure ?_)
  simp

theorem plain_argsTableOf (key label : String) : Plain (argsTableOf edition d key label) :=
  .bind fun args _ => plain_argsTable edition label args

theorem plain_methodBadge (method : Value) : Plain (methodBadge method) := by
  refine .given (.bind fun color _ => .pure ?_)
  simp

/-! ## Endpoints, events and settings -/

theorem plain_responseCard (r : Value) : Plain (responseCard edition r) := by
  refine .bind fun status _ => .bind fun description _ => .bind fun color _ =>
    .bind fun fields hfields => .pure ?_
  simp [plain_argsTableOf edition r _ _ fields hfields]

theorem plain_route : Plain (route d) := by
  refine .bind fun method _ => .bind fun path _ => .given (.bind fun mark hmark => .pure ?_)
  simp [plain_methodBadge method mark hmark]

theorem plain_requestParts : Plain (requestParts edition d) := by
  refine .bind fun route hroute => .bind fun path hpath => .bind fun query hquery =>
    .bind fun body hbody => .pure ?_
  simp [plain_route d route hroute, plain_argsTableOf edition d _ _ path hpath,
    plain_argsTableOf edition d _ _ query hquery, plain_argsTableOf edition d _ _ body hbody]

theorem plain_responseParts : Plain (responseParts edition d) := by
  refine .bind fun headers _ => .bind fun headerTable hheaders => .bind fun responses _ =>
    .bind fun cards hcards => .pure ?_
  have hheaders : landmarks headerTable = [] := by
    refine Draws.given (.bind fun items _ => .bind fun rows _ => .pure ?_) _ hheaders
    simp
  have hcards : landmarks cards = [] := by
    refine Draws.given (.bind fun items _ => .bind fun drawn hdrawn => .pure ?_) _ hcards
    simp [Draws.each (plain_responseCard edition) drawn hdrawn]
  simp [hheaders, hcards]

theorem plain_eventParts : Plain (eventParts edition d) := by
  refine .bind fun trigger _ => .bind fun payload hpayload => .pure ?_
  simp [plain_argsTableOf edition d _ _ payload hpayload]

theorem plain_kindParts : Plain (kindParts edition d) := by
  refine .bind fun kind _ => .ite (fun _ => ?_) fun _ => .ite (fun _ => ?_) fun _ =>
    .ite (fun _ => ?_) fun _ => .pure rfl
  · refine .bind fun request hrequest => .bind fun response hresponse => .pure ?_
    simp [plain_requestParts edition d request hrequest,
      Draws.given (plain_responseParts edition d) response hresponse]
  · exact .given (plain_eventParts edition d)
  · exact .given (plain_argsTableOf edition d _ _)

/-! ## All kinds -/

theorem plain_returnParts : Plain (returnParts d) := by
  refine .bind fun r _ => .given (.bind fun type _ => .bind fun description _ =>
    .bind fun parts _ => .pure ?_)
  simp

theorem plain_raiseLine (r : Value) : Plain (raiseLine r) := by
  refine .bind fun type _ => .bind fun description _ => .pure ?_
  simp

theorem plain_listParts (key label : String) {draw : Value → Drawing} (h : ∀ v, Plain (draw v)) :
    Plain (listParts d key label draw) := by
  refine .bind fun items _ => .given (.bind fun values _ => .bind fun drawn hdrawn => .pure ?_)
  simp [Draws.each h drawn hdrawn]

theorem plain_noteParts : Plain (noteParts d) := by
  refine .bind fun notes _ => .given (.bind fun items _ => .pure ?_)
  simp [landmarks_map fun n : Value => (rfl : (single "alert" [n] _).landmark? = none)]

theorem plain_customParts : Plain (customParts d) := by
  refine .bind fun custom _ => .bind fun entries _ => .each fun (name, content) => .pure ?_
  simp

theorem plain_openingParts : Plain (openingParts d) := by
  refine .bind fun summary _ => .bind fun description _ => .pure ?_
  simp

/-- A documentation text is drawn without landmarks. -/
theorem plain_docstring : Plain (docstring edition d) := by
  refine .bind fun opening hopening => .bind fun kind hkind => .bind fun args hargs =>
    .bind fun returns hreturns => .bind fun raises hraises => .bind fun attributes hattributes =>
    .bind fun examples hexamples => .bind fun notes hnotes => .bind fun custom hcustom => .pure ?_
  have hexamples : landmarks examples = [] :=
    plain_listParts d "examples" "Examples" (fun e => .pure (by simp)) examples hexamples
  simp [plain_openingParts d opening hopening, plain_kindParts edition d kind hkind,
    plain_argsTableOf edition d _ _ args hargs, plain_returnParts d returns hreturns,
    plain_listParts d _ _ plain_raiseLine raises hraises,
    plain_argsTableOf edition d _ _ attributes hattributes, hexamples,
    Draws.given (plain_noteParts d) notes hnotes, Draws.given (plain_customParts d) custom hcustom]

end Docsmith.Site
