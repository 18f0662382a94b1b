-- SUMMARY: When the directives of a documentation text leave its sections alone.
import Docsmith.Proofs.Docstring.Section
import Mathlib.Data.List.Basic

/-!
# Directives and sections

The directives are looked for on all lines of a documentation text, those of its
sections included. A sort of directive stays out of the sections exactly if a
line before the first heading has it, which is then the one that is taken, or no
later line looks like it. `keepsSections_iff` says that this is all there is: if
it holds for each of the four sorts, then the blocks of the text come through as
they are written and the four values come from the lines before the first
heading, and if it fails for one of them, then a line is gone from the blocks.

The four sorts are told apart by their words, so no line is two directives and
taking one out cannot make or unmake another.
-/

namespace Docsmith.Docstring

variable {kinds : List CustomKind} {ls : List Line}

/-! ## The four sorts of directives -/

/-- For each sort of directive, in the order in which they are taken out, the lines that
    its reader accepts. -/
def directiveTests (kinds : List CustomKind) : List (Line → Bool) :=
  [fun l => (kindOfLine? kinds l).isSome, fun l => (wordDirective? "Method" l).isSome,
    fun l => (textDirective? "Path" l).isSome, fun l => (textDirective? "Trigger" l).isSome]

theorem afterWord?_isSome_of_wordDirective? {word : String} {l : Line}
    (h : (wordDirective? word l).isSome) : (afterWord? word l).isSome := by
  cases hafter : afterWord? word l with
  | none => simp [wordDirective?, hafter] at h
  | some r => rfl

theorem afterWord?_isSome_of_textDirective? {word : String} {l : Line}
    (h : (textDirective? word l).isSome) : (afterWord? word l).isSome := by
  cases hafter : afterWord? word l with
  | none => simp [textDirective?, hafter] at h
  | some r => rfl

theorem afterWord?_isSome_of_kindOfLine? {l : Line} (h : (kindOfLine? kinds l).isSome) :
    (afterWord? "Type" l).isSome := by
  apply afterWord?_isSome_of_wordDirective?
  cases hword : wordDirective? "Type" l with
  | none => simp [kindOfLine?, hword] at h
  | some r => rfl

theorem afterWord?_eq_none_of_differ {v w : String} {l : Line}
    (hdiffer : Text.differ v.toList w.toList = true) (hv : (afterWord? v l).isSome) :
    afterWord? w l = none := by
  cases hdrop : Text.dropWord? v.toList (Text.stripStart l) with
  | none => simp [afterWord?, hdrop] at hv
  | some r => simp [afterWord?, Text.dropWord?_eq_none_of_differ hdiffer hdrop]

/-- A line that starts with none of the words is no directive. -/
theorem directiveTests_eq_false {l : Line}
    (h : ∀ word ∈ ["Type", "Method", "Path", "Trigger"], afterWord? word l = none) :
    ∀ p ∈ directiveTests kinds, p l = false := by
  simp only [List.forall_mem_cons] at h
  obtain ⟨htype, hmethod, hpath, htrigger, -⟩ := h
  simp [directiveTests, kindOfLine?, wordDirective?, textDirective?, htype, hmethod, hpath,
    htrigger]

/-- Tests that need different words accept different lines. -/
theorem false_of_differ {v w : String} {p q : Line → Bool}
    (hp : ∀ l, p l = true → (afterWord? v l).isSome)
    (hq : ∀ l, q l = true → (afterWord? w l).isSome)
    (hdiffer : Text.differ v.toList w.toList = true) (l : Line) (hl : p l = true) :
    q l = false := by
  rw [← Bool.not_eq_true]
  intro hql
  have hnone := afterWord?_eq_none_of_differ hdiffer (hp l hl)
  exact absurd (hq l hql) (by simp [hnone])

/-- No line is a directive of two sorts. -/
theorem directiveTests_pairwise (kinds : List CustomKind) :
    (directiveTests kinds).Pairwise fun p q => ∀ l, p l = true → q l = false := by
  have hkind (l : Line) : (kindOfLine? kinds l).isSome = true → _ :=
    afterWord?_isSome_of_kindOfLine?
  have hmethod (l : Line) : (wordDirective? "Method" l).isSome = true → _ :=
    afterWord?_isSome_of_wordDirective?
  have hpath (l : Line) : (textDirective? "Path" l).isSome = true → _ :=
    afterWord?_isSome_of_textDirective?
  have htrigger (l : Line) : (textDirective? "Trigger" l).isSome = true → _ :=
    afterWord?_isSome_of_textDirective?
  simp only [directiveTests, List.pairwise_cons, List.forall_mem_cons]
  refine ⟨⟨?_, ?_, ?_, by simp⟩, ⟨?_, ?_, by simp⟩, ⟨?_, by simp⟩, by simp, .nil⟩
  · exact false_of_differ hkind hmethod (by decide)
  · exact false_of_differ hkind hpath (by decide)
  · exact false_of_differ hkind htrigger (by decide)
  · exact false_of_differ hmethod hpath (by decide)
  · exact false_of_differ hmethod htrigger (by decide)
  · exact false_of_differ hpath htrigger (by decide)

/-! ## Taking the directives out -/

theorem takeFirst_eq {α : Type} (read : Line → Option α) (ls : List Line) :
    takeFirst read ls = (ls.findSome? read, ls.eraseP fun l => (read l).isSome) := by
  induction ls with
  | nil => rfl
  | cons l ls ih =>
    cases h : read l with
    | none => simp [takeFirst, h, ih]
    | some a => simp [takeFirst, h]

/-- Lines that a reader does not accept may be taken out before it looks. -/
theorem findSome?_eraseP {α : Type} {read : Line → Option α} {p : Line → Bool}
    (h : ∀ l, p l = true → read l = none) (ls : List Line) :
    (ls.eraseP p).findSome? read = ls.findSome? read := by
  induction ls with
  | nil => rfl
  | cons l ls ih =>
    cases hp : p l with
    | true => simp [hp, h l hp]
    | false => simp [hp, List.findSome?_cons, ih]

/-- What is left when each test has taken the first item it accepts. -/
def eraseFirsts {α : Type} (tests : List (α → Bool)) (xs : List α) : List α :=
  tests.foldl (fun xs p => xs.eraseP p) xs

theorem Body.ofLines_lines (kinds : List CustomKind) (ls : List Line) :
    (Body.ofLines kinds ls).lines = eraseFirsts (directiveTests kinds) ls := by
  simp [Body.ofLines, takeDirectives, takeFirst_eq, eraseFirsts, directiveTests]

/-- The line that the test takes is not one of `back`, which come after those of `front`. -/
def TakesFromFront (p : Line → Bool) (front back : List Line) : Prop :=
  (∃ l ∈ front, p l = true) ∨ ∀ l ∈ back, p l = false

variable {p q : Line → Bool} {front back : List Line}

theorem exists_mem_eraseP_iff (hpq : ∀ l, p l = true → q l = false) (ls : List Line) :
    (∃ l ∈ ls.eraseP p, q l = true) ↔ ∃ l ∈ ls, q l = true := by
  refine exists_congr fun l => and_congr_left fun hql => ?_
  have hpl : ¬p l = true := fun hpl => by simp [hpq l hpl] at hql
  exact List.mem_eraseP_of_neg hpl

/-- A test takes from the same part whether or not another has taken its line before. -/
theorem takesFromFront_eraseP_front (hpq : ∀ l, p l = true → q l = false) :
    TakesFromFront q (front.eraseP p) back ↔ TakesFromFront q front back :=
  or_congr_left (exists_mem_eraseP_iff hpq front)

theorem takesFromFront_eraseP_back (hpq : ∀ l, p l = true → q l = false) :
    TakesFromFront q front (back.eraseP p) ↔ TakesFromFront q front back := by
  have hnone := not_congr (exists_mem_eraseP_iff hpq back)
  simp only [not_exists, not_and, Bool.not_eq_true] at hnone
  exact or_congr_right hnone

/-- A line that is taken out is missed. -/
theorem ne_of_sublist_eraseP {ls ms : List Line} (hsub : ms.Sublist (ls.eraseP p)) {l : Line}
    (hl : l ∈ ls) (hpl : p l = true) : ms ≠ ls := by
  have hshort : ms.length < ls.length := calc
    ms.length ≤ (ls.eraseP p).length := hsub.length_le
    _ = ls.length - 1 := List.length_eraseP_of_mem hl hpl
    _ < ls.length := Nat.sub_lt (List.length_pos_of_mem hl) Nat.one_pos
  rintro rfl
  exact Nat.lt_irrefl _ hshort

/-- Taking directives out leaves a part of the lines in front and a part of the lines after
    them, and all of the latter exactly if each test takes its line from the front. -/
theorem eraseFirsts_append {tests : List (Line → Bool)}
    (hdisjoint : tests.Pairwise fun p q => ∀ l, p l = true → q l = false)
    (front back : List Line) :
    ∃ front' back', eraseFirsts tests (front ++ back) = front' ++ back' ∧
      front'.Sublist front ∧ back'.Sublist back ∧
      (back' = back ↔ ∀ p ∈ tests, TakesFromFront p front back) := by
  induction tests generalizing front back with
  | nil => exact ⟨front, back, rfl, .refl _, .refl _, by simp⟩
  | cons p tests ih =>
    obtain ⟨hp, htests⟩ := List.pairwise_cons.mp hdisjoint
    rw [List.forall_mem_cons]
    by_cases hfront : ∃ l ∈ front, p l = true
    · obtain ⟨l, hl, hpl⟩ := hfront
      obtain ⟨front', back', heq, hsubF, hsubB, hiff⟩ := ih htests (front.eraseP p) back
      refine ⟨front', back', ?_, hsubF.trans List.eraseP_sublist, hsubB, hiff.trans ?_⟩
      · rw [← heq, eraseFirsts, List.foldl_cons, List.eraseP_append_left hpl _ hl, ← eraseFirsts]
      · rw [and_iff_right (.inl ⟨l, hl, hpl⟩)]
        exact forall₂_congr fun q hq => takesFromFront_eraseP_front (hp q hq)
    · have hnone : ∀ l ∈ front, ¬p l = true := fun l hl hpl => hfront ⟨l, hl, hpl⟩
      obtain ⟨front', back', heq, hsubF, hsubB, hiff⟩ := ih htests front (back.eraseP p)
      refine ⟨front', back', ?_, hsubF, hsubB.trans List.eraseP_sublist, ?_⟩
      · rw [← heq, eraseFirsts, List.foldl_cons, List.eraseP_append_right _ hnone, ← eraseFirsts]
      · have hrest : (∀ q ∈ tests, TakesFromFront q front (back.eraseP p)) ↔
            ∀ q ∈ tests, TakesFromFront q front back :=
          forall₂_congr fun q hq => takesFromFront_eraseP_back (hp q hq)
        rw [hrest] at hiff
        by_cases hback : ∃ l ∈ back, p l = true
        · obtain ⟨l, hl, hpl⟩ := hback
          refine iff_of_false (ne_of_sublist_eraseP hsubB hl hpl) (fun h => ?_)
          rcases h.1 with ⟨k, hk, hpk⟩ | hall
          · exact hnone k hk hpk
          · simp [hall l hl] at hpl
        · have hall : ∀ l ∈ back, ¬p l = true := fun l hl hpl => hback ⟨l, hl, hpl⟩
          rw [List.eraseP_of_forall_not hall] at hiff
          rw [and_iff_right (.inr fun l hl => by simpa using hall l hl)]
          exact hiff

/-! ## Blocks -/

/-- The lines before the first heading. -/
def frontOf (known : List (List Char)) (ls : List Line) : List Line :=
  ls.takeWhile fun l => (heading? known l).isNone

/-- The first heading and all lines after it. -/
def backOf (known : List (List Char)) (ls : List Line) : List Line :=
  ls.dropWhile fun l => (heading? known l).isNone

variable {known : List (List Char)}

theorem frontOf_append_backOf (known : List (List Char)) (ls : List Line) :
    frontOf known ls ++ backOf known ls = ls := List.takeWhile_append_dropWhile

theorem heading?_eq_none_of_mem_frontOf {l : Line} (hl : l ∈ frontOf known ls) :
    heading? known l = none :=
  Option.isNone_iff_eq_none.mp (List.all_eq_true.mp List.all_takeWhile l hl)

theorem splitBlocks_backOf (known : List (List Char)) (ls : List Line) :
    splitBlocks known (backOf known ls) = ([], (splitBlocks known ls).2) := by
  induction ls with
  | nil => rfl
  | cons l ls ih =>
    cases h : heading? known l with
    | none => simpa [backOf, h, splitBlocks_cons_of_none h] using ih
    | some hd => simp [backOf, h, splitBlocks_cons_of_some h]

/-- Of lines taken out of `back`, which starts with a heading, the blocks tell. -/
theorem splitBlocks_append_eq_iff (hfront : ∀ l ∈ front, heading? known l = none)
    (hback : (splitBlocks known back).1 = []) {back' : List Line} (hsub : back'.Sublist back) :
    (splitBlocks known (front ++ back')).2 = (splitBlocks known back).2 ↔ back' = back := by
  rw [splitBlocks_append hfront]
  refine ⟨fun h => hsub.eq_of_length_le ?_, fun h => h ▸ rfl⟩
  have hsize := length_splitBlocks known back
  have hsize' := length_splitBlocks known back'
  rw [hback, List.length_nil] at hsize
  rw [h] at hsize'
  omega

theorem splitBlocks_body_eq_iff (kinds : List CustomKind) (ls : List Line) :
    (splitBlocks known (Body.ofLines kinds ls).lines).2 = (splitBlocks known ls).2 ↔
      ∀ p ∈ directiveTests kinds, TakesFromFront p (frontOf known ls) (backOf known ls) := by
  obtain ⟨front, back, heq, hfront, hback, hiff⟩ := eraseFirsts_append
    (directiveTests_pairwise kinds) (frontOf known ls) (backOf known ls)
  have hblocks := splitBlocks_backOf known ls
  rw [Body.ofLines_lines, ← hiff]
  rw [frontOf_append_backOf] at heq
  rw [heq, ← splitBlocks_append_eq_iff (fun l hl => heading?_eq_none_of_mem_frontOf
    (hfront.subset hl)) (congrArg Prod.fst hblocks) hback, hblocks]

/-! ## Values -/

/-- A directive that is not taken from `back` has the value that `front` gives it. -/
theorem findSome?_of_takesFromFront {α : Type} {read : Line → Option α}
    (h : TakesFromFront (fun l => (read l).isSome) (frontOf known ls) (backOf known ls)) :
    ls.findSome? read = (frontOf known ls).findSome? read := by
  rw [← congrArg (List.findSome? read) (frontOf_append_backOf known ls), List.findSome?_append]
  rcases h with hfront | hback
  · have hsome : ((frontOf known ls).findSome? read).isSome := List.findSome?_isSome_iff.mpr hfront
    exact Option.or_of_isSome hsome
  · have hnone : (backOf known ls).findSome? read = none :=
      List.findSome?_eq_none_iff.mpr fun l hl => by simpa using hback l hl
    rw [hnone, Option.or_none]

/-- Each directive has the value of the first line that its reader accepts. -/
theorem Body.ofLines_eq (kinds : List CustomKind) (ls : List Line) :
    Body.ofLines kinds ls =
      { kind := ls.findSome? (kindOfLine? kinds)
        directives :=
          { method := (ls.findSome? (wordDirective? "Method")).map Text.upper
            path := ls.findSome? (textDirective? "Path")
            trigger := ls.findSome? (textDirective? "Trigger") }
        lines := eraseFirsts (directiveTests kinds) ls } := by
  have hdisjoint := directiveTests_pairwise kinds
  simp only [directiveTests, List.pairwise_cons, List.forall_mem_cons,
    Option.isSome_eq_false_iff, Option.isNone_iff_eq_none] at hdisjoint
  obtain ⟨⟨hkm, hkp, hkt, -⟩, ⟨hmp, hmt, -⟩, ⟨hpt, -⟩, -⟩ := hdisjoint
  simp only [Body.ofLines, takeDirectives, takeFirst_eq, eraseFirsts, directiveTests,
    List.foldl_cons, List.foldl_nil, findSome?_eraseP hkm, findSome?_eraseP hkp,
    findSome?_eraseP hkt, findSome?_eraseP hmp, findSome?_eraseP hmt, findSome?_eraseP hpt]

theorem eraseFirsts_of_plain {tests : List (Line → Bool)}
    (h : ∀ p ∈ tests, ∀ l ∈ ls, p l = false) : eraseFirsts tests ls = ls := by
  induction tests with
  | nil => rfl
  | cons p tests ih =>
    obtain ⟨hp, htests⟩ := List.forall_mem_cons.mp h
    rw [eraseFirsts, List.foldl_cons, List.eraseP_of_forall_not fun l hl => by simp [hp l hl]]
    exact ih htests

/-- Lines without directives are left as they are. -/
theorem Body.ofLines_of_plain (h : ∀ p ∈ directiveTests kinds, ∀ l ∈ ls, p l = false) :
    Body.ofLines kinds ls = ⟨none, ⟨none, none, none⟩, ls⟩ := by
  have hread {α : Type} {read : Line → Option α}
      (hplain : ∀ l ∈ ls, (read l).isSome = false) : ls.findSome? read = none :=
    List.findSome?_eq_none_iff.mpr fun l hl => by simpa using hplain l hl
  have hlines := eraseFirsts_of_plain h
  simp only [directiveTests, List.forall_mem_cons] at h
  obtain ⟨hkind, hmethod, hpath, htrigger, -⟩ := h
  rw [Body.ofLines_eq, hlines, hread hkind, hread hmethod, hread hpath, hread htrigger]
  rfl

/-- What a documentation record does not have from its sections. -/
def heads (d : Docstring) : String × Kind × String × String × String :=
  (d.summary, d.kind, d.method, d.path, d.trigger)

theorem heads_addSection (d : Docstring) (s : Section) : heads (addSection d s) = heads d := by
  fun_cases addSection d s <;> rfl

theorem heads_foldl_addSection (ss : List Section) (d : Docstring) :
    heads (ss.foldl addSection d) = heads d := by
  induction ss generalizing d with
  | nil => rfl
  | cons s ss ih => rw [List.foldl_cons, ih, heads_addSection]

theorem heads_addSections (known : List (List Char)) (d : Docstring) (ls : List Line) :
    heads (addSections known d ls) = heads d :=
  heads_foldl_addSection (sectionsOf known ls) d

theorem heads_parse (kinds : List CustomKind) (hint : Option Kind) {text : String}
    (htext : text.isEmpty = false) :
    ∃ summary, heads (parse kinds hint text) =
      heads ((Body.ofLines kinds (dedentedLines text.toList)).record hint summary) := by
  rw [parse, htext]
  exact ⟨_, heads_addSections _ _ _⟩

/-- The first line that sets a kind decides, then the hint. -/
theorem kind_parse_eq (kinds : List CustomKind) (hint : Option Kind) {text : String}
    (htext : text.isEmpty = false) : (parse kinds hint text).kind =
      ((dedentedLines text.toList).findSome? (kindOfLine? kinds) <|> hint).getD .function := by
  obtain ⟨summary, hheads⟩ := heads_parse kinds hint htext
  rw [Body.ofLines_eq] at hheads
  exact congrArg (fun h => h.2.1) hheads

/-! ## Texts whose directives stay out of the sections -/

/-- The lines of a text before its first heading. -/
def linesBefore (kinds : List CustomKind) (text : String) : List Line :=
  frontOf (headingsWith kinds) (dedentedLines text.toList)

/-- The lines of a text from its first heading on. -/
def linesFrom (kinds : List CustomKind) (text : String) : List Line :=
  backOf (headingsWith kinds) (dedentedLines text.toList)

/-- Each line from the first heading on comes through in its place, and the kind, method,
    path and trigger are those that the lines before the first heading give. -/
structure KeepsSections (kinds : List CustomKind) (hint : Option Kind) (text : String) : Prop where
  blocks :
    let known := headingsWith kinds
    let ls := dedentedLines text.toList
    (splitBlocks known (splitSummary known (Body.ofLines kinds ls).lines).2).2 =
      (splitBlocks known ls).2
  kind : (parse kinds hint text).kind =
    if text.isEmpty then .function
    else ((linesBefore kinds text).findSome? (kindOfLine? kinds) <|> hint).getD .function
  method : (parse kinds hint text).method =
    textOf (((linesBefore kinds text).findSome? (wordDirective? "Method")).map Text.upper)
  path : (parse kinds hint text).path =
    textOf ((linesBefore kinds text).findSome? (textDirective? "Path"))
  trigger : (parse kinds hint text).trigger =
    textOf ((linesBefore kinds text).findSome? (textDirective? "Trigger"))

/-- The one line of an empty text is empty. -/
theorem findSome?_linesBefore_empty {α : Type} (kinds : List CustomKind)
    {read : Line → Option α} (hread : read [] = none) :
    (linesBefore kinds "").findSome? read = none := by
  refine List.findSome?_eq_none_iff.mpr fun l hl => ?_
  rw [linesBefore, frontOf] at hl
  have hmem : l ∈ dedentedLines "".toList := (List.takeWhile_sublist _).subset hl
  obtain rfl : l = [] := List.mem_singleton.mp hmem
  exact hread

/-- The directives of a text stay out of its sections exactly if, for each sort of directive,
    a line before the first heading is one or no later line looks like one. -/
theorem keepsSections_iff (kinds : List CustomKind) (hint : Option Kind) (text : String) :
    KeepsSections kinds hint text ↔
      ∀ p ∈ directiveTests kinds,
        (∃ l ∈ linesBefore kinds text, p l = true) ∨ ∀ l ∈ linesFrom kinds text, p l = false := by
  constructor
  · intro h
    have hblocks := h.blocks
    simp only [splitBlocks_splitSummary] at hblocks
    exact (splitBlocks_body_eq_iff kinds _).mp hblocks
  · intro h
    have hblocks := (splitBlocks_body_eq_iff kinds _).mpr h
    rw [← splitBlocks_splitSummary] at hblocks
    simp only [directiveTests, List.forall_mem_cons] at h
    obtain ⟨hkind, hmethod, hpath, htrigger, -⟩ := h
    cases htext : text.isEmpty with
    | true =>
      obtain rfl := String.isEmpty_iff.mp htext
      refine ⟨hblocks, rfl, ?_, ?_, ?_⟩
      · rw [findSome?_linesBefore_empty kinds rfl]; rfl
      · rw [findSome?_linesBefore_empty kinds rfl]; rfl
      · rw [findSome?_linesBefore_empty kinds rfl]; rfl
    | false =>
      obtain ⟨summary, hheads⟩ := heads_parse kinds hint htext
      rw [Body.ofLines_eq] at hheads
      simp only [heads, Body.record, Prod.mk.injEq, findSome?_of_takesFromFront hkind,
        findSome?_of_takesFromFront hmethod, findSome?_of_takesFromFront hpath,
        findSome?_of_takesFromFront htrigger] at hheads
      obtain ⟨-, hk, hm, hp, ht⟩ := hheads
      exact ⟨hblocks, by rw [hk, htext]; rfl, hm, hp, ht⟩

/-- The line of an argument that is named like a directive is lost to the section. -/
example : (parse [] none "S.\n\nArgs:\n    path: The path.\n").path = "The path." ∧
    (parse [] none "S.\n\nArgs:\n    path: The path.\n").args.length = 0 := by
  decide +kernel

end Docsmith.Docstring
