-- SUMMARY: The landmarks of a drawing, and laws for the steps that drawings are made of.
import Docsmith.Proofs.Answer
import Docsmith.Site.Widget

/-!
# Landmarks

Of all the events of a drawing, a few tell what is shown and where: the items and
the panels of the navigation, the start of the block of a function, the places
that links point to, and listings of source code with numbered lines. These are
its landmarks. `Draws` says which landmarks a drawing has if it succeeds, and has
a law for each way of putting drawings together.
-/

namespace Docsmith.Site

/-- A landmark. -/
inductive Landmark where
  /-- An item of the navigation. -/
  | item (key : Value)
  /-- A panel that the navigation leads to. -/
  | panel (key : Value)
  /-- The start of the block of a function. -/
  | block
  /-- A place that links can point to. -/
  | place (key : Value)
  /-- A listing of source code. -/
  | source (text : Value)

/-- The landmark that an event is. -/
def Event.landmark? : Event → Option Landmark
  | .call c =>
    if c.name == "nav_item" then (c.named? "key").map .item
    else if c.name == "nav_panel" then c.args.head?.map .panel
    else if c.name == "divider" then some .block
    else if c.name == "anchor" then c.args.head?.map .place
    else if c.name == "code" && (c.named? "line_numbers").isSome then c.args.head?.map .source
    else none
  | _ => none

/-- The landmarks of some events, in order. -/
def landmarks (es : List Event) : List Landmark := es.filterMap Event.landmark?

/-! ## Events -/

@[simp]
theorem landmarks_nil : landmarks [] = [] := rfl

@[simp]
theorem landmarks_cons (e : Event) (es : List Event) :
    landmarks (e :: es) = e.landmark?.toList ++ landmarks es := by
  cases h : e.landmark? <;> simp [landmarks, h]

@[simp]
theorem landmarks_append (es fs : List Event) :
    landmarks (es ++ fs) = landmarks es ++ landmarks fs :=
  List.filterMap_append

@[simp]
theorem landmarks_inside (c : Call) (es : List Event) :
    landmarks (inside c es) = (Event.landmark? (.call c)).toList ++ landmarks es := by
  simp [inside, Event.landmark?]

@[simp]
theorem landmarks_ite (p : Prop) [Decidable p] (es fs : List Event) :
    landmarks (if p then es else fs) = if p then landmarks es else landmarks fs :=
  apply_ite landmarks p es fs

theorem landmarks_flatten (ess : List (List Event)) :
    landmarks ess.flatten = ess.flatMap landmarks := by
  induction ess with
  | nil => rfl
  | cons es ess ih => simp [ih]

/-- Events without landmarks. -/
theorem landmarks_map {α : Type} {xs : List α} {f : α → Event} (h : ∀ x, (f x).landmark? = none) :
    landmarks (xs.map f) = [] := by
  induction xs with
  | nil => rfl
  | cons x xs ih => simp [h, ih]

/-! ## Widgets -/

@[simp] theorem landmark?_spacer (n : Nat) : (spacer n).landmark? = none := rfl
@[simp] theorem landmark?_heading (n : Nat) (t : Value) : (heading n t).landmark? = none := rfl
@[simp] theorem landmark?_textOf (t : Value) (style : List (String × Value)) :
    (textOf t style).landmark? = none := rfl
@[simp] theorem landmark?_muted (t : Value) : (muted t).landmark? = none := rfl
@[simp] theorem landmark?_large (t : Value) : (large t).landmark? = none := rfl
@[simp] theorem landmark?_fine (t : Value) : (fine t).landmark? = none := rfl
@[simp] theorem landmark?_badge (t c : Value) : (badge t c).landmark? = none := rfl
@[simp] theorem landmark?_code (t : Value) (l : String) : (code t l).landmark? = none := rfl
@[simp] theorem landmark?_metric (l v : Value) : (metric l v).landmark? = none := rfl
@[simp] theorem landmark?_wholeTable (rs : List Value) : (wholeTable rs).landmark? = none := rfl
@[simp] theorem landmark?_fixedTable (rs : List Value) : (fixedTable rs).landmark? = none := rfl
@[simp] theorem landmark?_searchTable (n : Nat) (rs : List Value) :
    (searchTable n rs).landmark? = none := rfl
@[simp] theorem landmark?_anchor (t : Value) : (anchor t).landmark? = some (.place t) := rfl
@[simp] theorem landmark?_navItem (l k : Value) (i : String) (more : List (String × Value)) :
    (navItem l k i more).landmark? = some (.item k) := rfl
@[simp] theorem landmark?_listing (t : Value) : (listing true t).landmark? = some (.source t) := rfl

@[simp] theorem landmarks_row (n : Nat) (es : List Event) : landmarks (row n es) = landmarks es :=
  landmarks_inside _ es
@[simp] theorem landmarks_card (t : Value) (es : List Event) :
    landmarks (card t es) = landmarks es := landmarks_inside _ es
@[simp] theorem landmarks_plainCard (es : List Event) : landmarks (plainCard es) = landmarks es :=
  landmarks_inside _ es
@[simp] theorem landmarks_tab (k l : String) (es : List Event) :
    landmarks (tab k l es) = landmarks es := by
  rw [tab, landmarks_inside, landmarks_inside]
  rfl
@[simp] theorem landmarks_panel (k : Value) (es : List Event) :
    landmarks (panel k es) = .panel k :: landmarks es := landmarks_inside _ es
@[simp] theorem landmarks_navGroup (l i : String) (es : List Event) :
    landmarks (navGroup l i es) = landmarks es := landmarks_inside _ es
@[simp] theorem landmarks_sectionTitle (l : String) : landmarks (sectionTitle l) = [] := rfl

/-! ## Drawings -/

/-- The drawing has these landmarks if it succeeds. -/
def Draws (d : Drawing) (ls : List Landmark) : Prop := ∀ es, d = .ok es → landmarks es = ls

/-- The drawing has no landmarks. -/
abbrev Plain (d : Drawing) : Prop := Draws d []

namespace Draws

variable {α : Type} {d : Drawing} {es : List Event} {ls : List Landmark}

theorem pure (h : landmarks es = ls) : Draws (Pure.pure es) ls := by
  intro fs hfs
  obtain rfl := Except.ok.inj hfs
  exact h

theorem bind {x : Answer α} {f : α → Drawing} (h : ∀ a, x = .ok a → Draws (f a) ls) :
    Draws (x >>= f) ls := by
  intro es hes
  obtain ⟨a, ha, hes⟩ := bind_eq_ok.mp hes
  exact h a ha es hes

theorem ite {p : Prop} [Decidable p] {d₁ d₂ : Drawing} (h₁ : p → Draws d₁ ls)
    (h₂ : ¬ p → Draws d₂ ls) : Draws (if p then d₁ else d₂) ls := by
  split
  · exact h₁ ‹p›
  · exact h₂ ‹¬ p›

theorem given_marks {c : Bool} (h : c = true → Draws d ls) :
    Draws (given c d) (if c then ls else []) := by
  cases c with
  | true => exact h rfl
  | false => exact Draws.pure rfl

theorem each_marks {xs : List α} {draw : α → Drawing} {marks : α → List Landmark}
    (h : ∀ x ∈ xs, Draws (draw x) (marks x)) : Draws (each xs draw) (xs.flatMap marks) := by
  rintro _ hes
  obtain ⟨ess, hess, ⟨⟩⟩ := bind_eq_ok.mp hes
  rw [landmarks_flatten]
  clear hes
  replace hess := mapM_eq_ok.mp hess
  induction hess with
  | nil => rfl
  | cons hx _ ih =>
    obtain ⟨hhead, htail⟩ := List.forall_mem_cons.mp h
    rw [List.flatMap_cons, List.flatMap_cons, hhead _ hx, ih htail]

theorem given {c : Bool} (h : Plain d) : Plain (given c d) := by
  intro es hes
  rw [given_marks (fun _ => h) es hes]
  exact ite_self []

theorem each {xs : List α} {draw : α → Drawing} (h : ∀ x, Plain (draw x)) :
    Plain (each xs draw) := by
  intro es hes
  rw [each_marks (fun x _ => h x) es hes]
  exact List.flatMap_eq_nil_iff.mpr fun _ _ => rfl

end Draws

end Docsmith.Site
