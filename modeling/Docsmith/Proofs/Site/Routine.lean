-- SUMMARY: The landmarks of functions, methods and classes.
import Docsmith.Proofs.Site.Docstring
import Docsmith.Site.Routine

/-!
# Exhibits

A site shows a record as an exhibit: a function or a method as a block, an
endpoint as a card, a class as a place on the panel of the types. Every exhibit
has its landmarks, by which it is told from others: a block starts with a divider
and marks the place of the routine, and the source of a routine is listed unless
it is empty. Everything else in a block is drawn without landmarks.
-/

namespace Docsmith.Site

/-! ## Records -/

/-- What stands under a text in a record, or a default. -/
def partOr (v : Value) (key : String) (default : Value) : Value :=
  match v with
  | .dict es => (Entries.getText? es key).getD default
  | _ => default

/-- The items of a value; a value that has none counts as empty. -/
def valuesIn (v : Value) : List Value := v.items.toOption.getD []

/-- The items under a text in a record. -/
def itemsIn (v : Value) (key : String) : List Value := valuesIn (partOr v key (.list []))

variable {v x : Value} {key : String}

theorem getD_eq_ok {default : Value} (h : v.getD key default = .ok x) : partOr v key default = x := by
  obtain ⟨es, hes, h⟩ := bind_eq_ok.mp h
  cases v <;> cases hes
  exact Except.ok.inj h

theorem field_eq_ok (h : v.field key = .ok x) (default : Value) : partOr v key default = x := by
  cases v with
  | dict es =>
    simp only [Value.field] at h
    split at h
    · rename_i y hy
      obtain rfl := Except.ok.inj h
      simp [partOr, hy]
    · cases h
  | _ => cases h

theorem items_eq_ok {xs : List Value} (h : v.items = .ok xs) : valuesIn v = xs := by
  rw [valuesIn, h]
  rfl

theorem itemsOf_eq_ok {xs : List Value} (h : v.itemsOf key = .ok xs) : itemsIn v key = xs := by
  obtain ⟨y, hy, h⟩ := bind_eq_ok.mp h
  rw [itemsIn, getD_eq_ok hy, items_eq_ok h]

/-- A value that counts as false has no items. -/
theorem valuesIn_of_not_isTrue (h : v.isTrue = false) : valuesIn v = [] := by
  cases v with
  | str s =>
    obtain rfl : s = "" := by simpa [Value.isTrue] using h
    rfl
  | list xs =>
    obtain rfl : xs = [] := by simpa [Value.isTrue] using h
    rfl
  | tuple xs =>
    obtain rfl : xs = [] := by simpa [Value.isTrue] using h
    rfl
  | dict es =>
    obtain rfl : es = [] := by simpa [Value.isTrue] using h
    rfl
  | bytes bs =>
    obtain rfl : bs = [] := by simpa [Value.isTrue] using h
    rfl
  | _ => rfl

/-- Items are kept by a test that has an answer for each of them. -/
theorem keep_eq_ok {test : Value → Answer Bool} {p : Value → Bool}
    (h : ∀ x b, test x = .ok b → p x = b) {xs ys : List Value} (hkeep : keep test xs = .ok ys) :
    ys = xs.filter p := by
  induction xs generalizing ys with
  | nil => exact (Except.ok.inj hkeep).symm
  | cons x xs ih =>
    rw [keep] at hkeep
    obtain ⟨wanted, hwanted, hkeep⟩ := bind_eq_ok.mp hkeep
    obtain ⟨rest, hrest, hkeep⟩ := bind_eq_ok.mp hkeep
    obtain rfl := Except.ok.inj hkeep
    rw [List.filter_cons, h x wanted hwanted, ih hrest]

/-! ## Exhibits -/

/-- A record as it is shown. -/
inductive Exhibit where
  | block (routine : Value)
  | endpoint (item : Value)
  | type (cls : Value)

/-- The listing of the source of an item. -/
def sourceMarks (item : Value) : List Landmark :=
  if (partOr item "source" .none).isTrue then [.source (partOr item "source" .none)] else []

/-- The landmarks of an exhibit. -/
def Exhibit.marks : Exhibit → List Landmark
  | .block r => .block :: .place (partOr r "full_path" (partOr r "name" .none)) :: sourceMarks r
  | .endpoint e => .place (.str ("ep_" ++ (partOr e "full_path" .none).text)) :: sourceMarks e
  | .type c => [.place (.str ("type_" ++ (partOr c "full_path" .none).text))]

/-! ## Blocks -/

variable (edition : Edition) (f : Value)

theorem plain_headLine (name sig kind ds : Value) : Plain (headLine edition f name sig kind ds) := by
  refine .ite (fun _ => ?_) fun _ => ?_
  · refine .bind fun method _ => .bind fun path _ => .ite (fun _ => ?_) fun _ => .pure (by simp)
    refine .bind fun mark hmark => .pure ?_
    simp [plain_methodBadge method mark hmark]
  · exact .bind fun async _ => .pure (by simp)

theorem plain_markIf (key label color : String) : Plain (markIf f key label color) := by
  refine .bind fun v _ => .pure ?_
  simp

theorem plain_deprecationBadge : Plain (deprecationBadge f) := by
  refine .bind fun v _ => .given (.bind fun since _ => .pure ?_)
  simp

theorem plain_complexityBadge : Plain (complexityBadge f) := by
  refine .bind fun complexity _ => .bind fun high _ => .ite (fun _ => .pure (by simp)) fun _ => ?_
  exact .bind fun medium _ => .ite (fun _ => .pure (by simp)) fun _ => .pure rfl

theorem plain_originBadges : Plain (originBadges f) := by
  refine .bind fun version _ => .bind fun category _ => .pure ?_
  simp

theorem plain_badges (kind decorators : Value) : Plain (badges edition f kind decorators) := by
  refine .bind fun decorations hdecorations => .bind fun async hasync => .bind fun marks hmarks =>
    .bind fun deprecation hdeprecation => .bind fun origin horigin =>
    .bind fun complexity hcomplexity => .pure ?_
  have hdecorations : landmarks decorations = [] := by
    refine Draws.given (.bind fun items _ => .each fun d => ?_) _ hdecorations
    exact .bind fun text _ => .pure (by simp)
  have hmarks : landmarks marks = [] := by
    refine Draws.given (.bind fun ofClass hofClass => .bind fun ofNone hofNone =>
      .bind fun property hproperty => .pure ?_) _ hmarks
    simp [plain_markIf f _ _ _ ofClass hofClass, plain_markIf f _ _ _ ofNone hofNone,
      plain_markIf f _ _ _ property hproperty]
  simp [hdecorations, hmarks, plain_markIf f _ _ _ async hasync,
    Draws.given (plain_deprecationBadge f) deprecation hdeprecation,
    Draws.given (plain_originBadges f) origin horigin,
    Draws.given (plain_complexityBadge f) complexity hcomplexity]

theorem plain_deprecationLine : Plain (deprecationLine f) := by
  refine .bind fun v _ => .given (.bind fun message _ => .bind fun since _ => .ite (fun _ => ?_)
    fun _ => ?_)
  · exact .bind fun text _ => .bind fun message _ => .pure (by simp)
  · exact .bind fun message _ => .pure (by simp)

theorem plain_badgeRow (label color : String) (items : Value) :
    Plain (badgeRow label color items) := by
  refine .given (.bind fun values _ => .pure ?_)
  simp [landmarks_map fun i => landmark?_badge i (.str color)]

/-- The source of an item is listed unless it is empty. -/
theorem draws_sourceTab (hedition : edition ≠ .basic) (space : Nat) (item name : Value) :
    Draws (sourceTab edition space item name) (sourceMarks item) := by
  refine .bind fun text htext => ?_
  rw [sourceMarks, getD_eq_ok htext]
  refine .given_marks fun _ => .ite (fun _ => .bind fun key _ => .pure ?_)
    fun _ => .bind fun key _ => .pure ?_
  all_goals simp [bne_iff_ne.mpr hedition]

/-- A block has the landmarks of its routine. -/
theorem draws_functionBlock (hedition : edition ≠ .basic) (data : Value) :
    Draws (functionBlock edition data f) (Exhibit.block f).marks := by
  refine .bind fun name hname => .bind fun sig _ => .bind fun decorators _ => .bind fun kind _ =>
    .bind fun path hpath => .bind fun ds _ => .bind fun head hhead => .bind fun marks hmarks =>
    .bind fun warning hwarning => .bind fun documentation hdocumentation =>
    .bind fun calls hcalls => .bind fun callers hcallers => .bind fun source hsource => .pure ?_
  have hcalls : landmarks calls = [] :=
    Draws.given (.bind fun items _ => plain_badgeRow _ _ items) _ hcalls
  have hcallers : landmarks callers = [] :=
    Draws.given (.bind fun items _ => plain_badgeRow _ _ items) _ hcallers
  have hdivider : (single "divider" [] []).landmark? = some .block := rfl
  rw [Exhibit.marks, field_eq_ok hname, getD_eq_ok hpath]
  simp [hdivider, beq_false_of_ne hedition, plain_headLine edition f _ _ _ _ head hhead,
    plain_badges edition f _ _ marks hmarks,
    Draws.given (plain_deprecationLine f) warning hwarning,
    plain_docstring edition ds documentation hdocumentation, hcalls, hcallers,
    draws_sourceTab edition hedition _ f _ source hsource]

/-! ## Classes -/

/-- The method is a constructor. -/
def isConstructor (m : Value) : Bool := (partOr m "name" .none).same (.str "__init__")

/-- The name of the method is private. -/
def hasPrivateName (m : Value) : Bool :=
  match partOr m "name" .none with
  | .str s => s.startsWith "_"
  | _ => false

/-- The methods of a class in the order in which they are shown: the first constructor, then
    public and then private ones. -/
def classRoutines (cls : Value) : List Value :=
  let ms := itemsIn cls "methods"
  (ms.find? isConstructor).toList ++ ms.filter (!hasPrivateName ·)
    ++ ms.filter fun m => hasPrivateName m && !isConstructor m

theorem classRoutines_subset (cls : Value) : classRoutines cls ⊆ itemsIn cls "methods" := by
  intro m hm
  simp only [classRoutines, List.mem_append, Option.mem_toList, List.mem_filter] at hm
  obtain (hm | hm) | hm := hm
  · exact List.mem_of_find?_eq_some hm
  · exact hm.1
  · exact hm.1

theorem constructor?_eq_ok {ms : List Value} {m : Option Value} (h : constructor? ms = .ok m) :
    m = ms.find? isConstructor := by
  induction ms with
  | nil => exact (Except.ok.inj h).symm
  | cons n ms ih =>
    rw [constructor?] at h
    obtain ⟨name, hname, h⟩ := bind_eq_ok.mp h
    rw [List.find?_cons, isConstructor, field_eq_ok hname]
    split at h
    · rename_i hinit
      rw [hinit]
      exact (Except.ok.inj h).symm
    · rename_i hinit
      rw [Bool.not_eq_true] at hinit
      rw [hinit]
      exact ih h

theorem isPrivate_eq_ok {m : Value} {b : Bool} (h : isPrivate m = .ok b) : hasPrivateName m = b := by
  obtain ⟨name, hname, h⟩ := bind_eq_ok.mp h
  obtain ⟨text, htext, h⟩ := bind_eq_ok.mp h
  rw [hasPrivateName, field_eq_ok hname]
  cases name <;> cases htext
  exact Except.ok.inj h

theorem keep_public {ms shown : List Value}
    (h : keep (fun m => do return !(← isPrivate m)) ms = .ok shown) :
    shown = ms.filter (!hasPrivateName ·) := by
  refine keep_eq_ok (fun m b hm => ?_) h
  obtain ⟨c, hc, hm⟩ := bind_eq_ok.mp hm
  rw [isPrivate_eq_ok hc]
  exact Except.ok.inj hm

theorem keep_private {ms shown : List Value}
    (h : keep (fun m => do
      if ← isPrivate m then return !((← m.field "name").same (.str "__init__")) else return false) ms
        = .ok shown) :
    shown = ms.filter fun m => hasPrivateName m && !isConstructor m := by
  refine keep_eq_ok (fun m b hm => ?_) h
  obtain ⟨c, hc, hm⟩ := bind_eq_ok.mp hm
  rw [isPrivate_eq_ok hc]
  cases c with
  | false => exact Except.ok.inj hm
  | true =>
    obtain ⟨name, hname, hm⟩ := bind_eq_ok.mp hm
    rw [isConstructor, field_eq_ok hname]
    exact Except.ok.inj hm

/-- Drawing nothing for an empty list leaves out no landmarks. -/
theorem Draws.given_nonempty {α : Type} {xs : List α} {marks : α → List Landmark} {d : Drawing}
    (h : Draws d (xs.flatMap marks)) : Draws (Site.given (!xs.isEmpty) d) (xs.flatMap marks) := by
  cases xs with
  | nil => exact .pure rfl
  | cons x xs => exact h

theorem draws_constructorBlock (hedition : edition ≠ .basic) (data : Value) (ms : List Value) :
    Draws (constructorBlock edition data ms)
      ((ms.find? isConstructor).toList.flatMap fun m => (Exhibit.block m).marks) := by
  refine .bind fun constructor hconstructor => ?_
  rw [← constructor?_eq_ok hconstructor]
  cases constructor with
  | none => exact .pure rfl
  | some m =>
    refine .bind fun block hblock => .pure ?_
    simp [draws_functionBlock edition m hedition data block hblock]

/-- A class has the landmarks of its methods. -/
theorem draws_classBlock (hedition : edition ≠ .basic) (data cls : Value) :
    Draws (classBlock edition data cls)
      ((classRoutines cls).flatMap fun m => (Exhibit.block m).marks) := by
  refine .bind fun bases _ => .bind fun name _ => .bind fun decorators _ =>
    .bind fun decorations hdecorations => .bind fun ds _ =>
    .bind fun documentation hdocumentation => .bind fun methods hmethods =>
    .bind fun constructor hconstructor => .bind fun shown hshown =>
    .bind fun shownBlocks hshownBlocks => .bind fun others hothers =>
    .bind fun otherBlocks hotherBlocks => .pure ?_
  have hblock (m : Value) := draws_functionBlock edition m hedition data
  have hdecorations : landmarks decorations = [] := by
    refine Draws.given (.bind fun items _ => .pure ?_) _ hdecorations
    simp [landmarks_map fun d : Value => landmark?_badge (.str ("@" ++ d.text)) (.str "info")]
  have hshownBlocks : landmarks shownBlocks
      = shown.flatMap fun m => (Exhibit.block m).marks := by
    refine Draws.given_nonempty (.bind fun drawn hdrawn => .pure ?_) _ hshownBlocks
    simp [Draws.each_marks (fun m _ => hblock m) drawn hdrawn]
  have hotherBlocks : landmarks otherBlocks
      = others.flatMap fun m => (Exhibit.block m).marks := by
    refine Draws.given_nonempty (.bind fun drawn hdrawn => .pure ?_) _ hotherBlocks
    simp [Draws.each_marks (fun m _ => hblock m) drawn hdrawn]
  rw [classRoutines, itemsOf_eq_ok hmethods, ← keep_public hshown, ← keep_private hothers]
  simp [hdecorations, plain_docstring edition ds documentation hdocumentation,
    draws_constructorBlock edition hedition data methods constructor hconstructor, hshownBlocks,
    hotherBlocks]

end Docsmith.Site
