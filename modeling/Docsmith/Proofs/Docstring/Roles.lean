-- SUMMARY: Every line of a documentation text plays exactly one role.
import Docsmith.Proofs.Docstring.Directive
import Mathlib.Data.List.Nodup
import Mathlib.Data.List.Perm.Basic
import Mathlib.Data.List.Sigma

/-!
# Roles of lines

Taking a documentation text apart loses no line and uses none twice. Each line
is a directive that is taken out, a line of the summary, the blank line that
ends the summary, a heading, or a line of the description or of the section or
response under a heading. The sections and responses stand in the order of their
headings, and each has the run of lines from its heading to the next one that
the directives leave.

Equal lines may play different roles, so the roles are those of lines with their
places in the text.
-/

namespace Docsmith.Docstring

variable {known : List (List Char)}

/-! ## Roles -/

/-- A line with its place in the text. -/
abbrev Placed := Line × Nat

/-- A heading with the lines under it, none of which is a heading. -/
structure Part (known : List (List Char)) where
  heading : Heading
  line : Placed
  content : List Placed
  opens : heading? known line.1 = some heading
  plain : ∀ l ∈ content, heading? known l.1 = none

/-- The lines of a text by their roles. The gap is the blank line that ends the summary; without
    one, a heading or the end of the text ends it. -/
structure Roles (known : List (List Char)) where
  directives : List Placed
  summary : List Placed
  gap : List Placed
  description : List Placed
  parts : List (Part known)
  goesOn : ∀ l ∈ summary, endsSummary known l.1 = false
  gap_length : gap.length ≤ 1
  gap_blank : ∀ l ∈ gap, isBlankLine l.1 = true
  ends : gap = [] → description = []
  plain : ∀ l ∈ description, heading? known l.1 = none

/-- What a line is for. The lines of the description are content of number zero, those under
    the first heading of number one, and so on. -/
inductive Role where
  | directive
  | summary
  | gap
  | heading
  | content (number : Nat)

/-- The part as a block of lines. -/
def Part.block (p : Part known) : Block := ⟨p.heading, p.content.map Prod.fst⟩

/-- The heading and the lines under it. -/
def Part.lines (p : Part known) : List Placed := p.line :: p.content

namespace Roles

/-- The lines after the summary. -/
def rest (r : Roles known) : List Placed := r.description ++ r.parts.flatMap Part.lines

/-- The lines that are no directives, in the order in which they are read. -/
def remaining (r : Roles known) : List Placed := r.summary ++ (r.gap ++ r.rest)

/-- The lines of the description, and those under each heading. -/
def contents (r : Roles known) : List (List Placed) := r.description :: r.parts.map Part.content

/-- The lines with a role. -/
def linesOf (r : Roles known) : Role → List Placed
  | .directive => r.directives
  | .summary => r.summary
  | .gap => r.gap
  | .heading => r.parts.map Part.line
  | .content n => r.contents.getD n []

/-- The sections that the roles give: the description, if it has lines, and the parts with a
    name. -/
def sections (r : Roles known) : List Section :=
  (if r.description.isEmpty then [] else [⟨[], r.description.map Prod.fst⟩])
    ++ (r.parts.map Part.block).filterMap Block.section?

/-- The responses that the roles give. -/
def responses (r : Roles known) : List (Nat × List Line) :=
  (r.parts.map Part.block).filterMap Block.response?

end Roles

/-! ## Taking out the directives -/

variable {α β : Type}

/-- What a test takes and what it leaves is all there was. -/
theorem perm_find?_eraseP (p : α → Bool) (xs : List α) :
    ((xs.find? p).toList ++ xs.eraseP p).Perm xs := by
  induction xs with
  | nil => exact .nil
  | cons x xs ih =>
    cases hp : p x with
    | true => simp [hp]
    | false =>
      simp only [List.find?_cons, hp, List.eraseP_cons, cond_false]
      exact List.perm_middle.trans (ih.cons x)

/-- A test finds what it would find before another test took its item. -/
theorem find?_eraseP {p q : α → Bool} (h : ∀ x, p x = true → q x = false) (xs : List α) :
    (xs.eraseP p).find? q = xs.find? q := by
  induction xs with
  | nil => rfl
  | cons x xs ih =>
    cases hp : p x with
    | true => simp [hp, h x hp]
    | false => simp [hp, List.find?_cons, ih]

/-- Tests that accept different items take the first that each of them accepts. -/
theorem perm_eraseFirsts {tests : List (α → Bool)}
    (hdisjoint : tests.Pairwise fun p q => ∀ x, p x = true → q x = false) (xs : List α) :
    (tests.filterMap xs.find? ++ eraseFirsts tests xs).Perm xs := by
  induction tests generalizing xs with
  | nil => exact .refl xs
  | cons p tests ih =>
    obtain ⟨hp, htests⟩ := List.pairwise_cons.mp hdisjoint
    have hfound : tests.filterMap xs.find? = tests.filterMap (xs.eraseP p).find? :=
      List.filterMap_congr fun q hq => (find?_eraseP (hp q hq) xs).symm
    have hcons : (p :: tests).filterMap xs.find?
        = (xs.find? p).toList ++ tests.filterMap xs.find? := by
      cases hfind : xs.find? p <;> simp [hfind]
    rw [hcons, hfound, List.append_assoc]
    exact ((ih htests (xs.eraseP p)).append_left _).trans (perm_find?_eraseP p xs)

theorem eraseFirsts_sublist (tests : List (α → Bool)) (xs : List α) :
    (eraseFirsts tests xs).Sublist xs := by
  induction tests generalizing xs with
  | nil => exact .refl xs
  | cons p tests ih => exact (ih (xs.eraseP p)).trans List.eraseP_sublist

theorem map_eraseFirsts (f : α → β) (tests : List (β → Bool)) (xs : List α) :
    (eraseFirsts (tests.map (· ∘ f)) xs).map f = eraseFirsts tests (xs.map f) := by
  induction tests generalizing xs with
  | nil => rfl
  | cons p tests ih =>
    rw [eraseFirsts, eraseFirsts, List.map_cons, List.foldl_cons, List.foldl_cons,
      List.eraseP_map]
    exact ih (xs.eraseP (p ∘ f))

/-! ## Cutting what is left -/

/-- The summary, the blank line after it if there is one, and the lines after that. -/
theorem exists_splitSummary (known : List (List Char)) (xs : List Placed) :
    ∃ summary gap rest, xs = summary ++ (gap ++ rest)
      ∧ splitSummary known (xs.map Prod.fst) = (summary.map Prod.fst, rest.map Prod.fst)
      ∧ (∀ l ∈ summary, endsSummary known l.1 = false)
      ∧ gap.length ≤ 1 ∧ (∀ l ∈ gap, isBlankLine l.1 = true)
      ∧ (gap = [] → (splitBlocks known (rest.map Prod.fst)).1 = []) := by
  induction xs with
  | nil => exact ⟨[], [], [], rfl, rfl, by simp, by simp, by simp, fun _ => rfl⟩
  | cons x xs ih =>
    by_cases hblank : isBlankLine x.1 = true
    · exact ⟨[], [x], xs, rfl, by simp [splitSummary, hblank], by simp, by simp,
        by simpa using hblank, by simp⟩
    · by_cases hheading : (heading? known x.1).isSome = true
      · obtain ⟨hd, hhd⟩ := Option.isSome_iff_exists.mp hheading
        refine ⟨[], [], x :: xs, rfl, ?_, by simp, by simp, by simp, fun _ => ?_⟩
        · simp [splitSummary, hblank, hheading]
        · rw [List.map_cons, splitBlocks_cons_of_some hhd]
      · obtain ⟨summary, gap, rest, rfl, hsplit, hsummary, hrest⟩ := ih
        refine ⟨x :: summary, gap, rest, rfl, ?_, ?_, hrest⟩
        · rw [List.map_cons, splitSummary, if_neg hblank, if_neg hheading, hsplit]
          rfl
        · refine List.forall_mem_cons.mpr ⟨?_, hsummary⟩
          simp only [endsSummary, Bool.or_eq_false_iff]
          exact ⟨Bool.not_eq_true _ ▸ hblank, Bool.not_eq_true _ ▸ hheading⟩

/-- The lines before the first heading, and the headings with the lines under them. -/
theorem exists_splitBlocks (known : List (List Char)) (xs : List Placed) :
    ∃ (description : List Placed) (parts : List (Part known)),
      xs = description ++ parts.flatMap Part.lines
      ∧ splitBlocks known (xs.map Prod.fst) = (description.map Prod.fst, parts.map Part.block)
      ∧ ∀ l ∈ description, heading? known l.1 = none := by
  induction xs with
  | nil => exact ⟨[], [], rfl, rfl, by simp⟩
  | cons x xs ih =>
    obtain ⟨description, parts, rfl, hsplit, hplain⟩ := ih
    cases hx : heading? known x.1 with
    | none =>
      refine ⟨x :: description, parts, rfl, ?_, List.forall_mem_cons.mpr ⟨hx, hplain⟩⟩
      rw [List.map_cons, splitBlocks_cons_of_none hx, hsplit]
      rfl
    | some hd =>
      refine ⟨[], ⟨hd, x, description, hx, hplain⟩ :: parts, rfl, ?_, by simp⟩
      rw [List.map_cons, splitBlocks_cons_of_some hx, hsplit]
      rfl

/-! ## The roles of the lines of a text -/

/-- The lines that are left of a text after its directives and its summary. -/
def afterSummary (kinds : List CustomKind) (text : String) : List Line :=
  (splitSummary (headingsWith kinds) (Body.ofLines kinds (dedentedLines text.toList)).lines).2

/-- The roles are those of the lines of a text. -/
structure Roles.Of (kinds : List CustomKind) (hint : Option Kind) (text : String)
    (r : Roles (headingsWith kinds)) : Prop where
  /-- Every line has a role, and none has two. -/
  once : (r.directives ++ r.remaining).Perm (dedentedLines text.toList).zipIdx
  /-- The lines that are left stand in the order of the text. -/
  inOrder : r.remaining.Sublist (dedentedLines text.toList).zipIdx
  /-- The directives are the first lines that the four tests accept. -/
  directives : r.directives = (directiveTests kinds).filterMap fun p =>
    (dedentedLines text.toList).zipIdx.find? fun l => p l.1
  summary : (parse kinds hint text).summary =
    String.ofList (Text.joinWith [' '] (r.summary.map fun l => Text.strip l.1))
  /-- Blank lines alone are no section. -/
  sections : sectionsOf (headingsWith kinds) (afterSummary kinds text) =
    if r.rest.all fun l => isBlankLine l.1 then [] else r.sections
  responses : responsesOf (headingsWith kinds) (afterSummary kinds text) = r.responses

theorem summary_addSections (known : List (List Char)) (d : Docstring) (ls : List Line) :
    (addSections known d ls).summary = d.summary :=
  congrArg Prod.fst (heads_addSections known d ls)

theorem summary_parse (kinds : List CustomKind) (hint : Option Kind) (text : String) :
    (parse kinds hint text).summary = String.ofList (Text.joinWith [' ']
      ((splitSummary (headingsWith kinds)
        (Body.ofLines kinds (dedentedLines text.toList)).lines).1.map Text.strip)) := by
  cases htext : text.isEmpty with
  | true =>
    obtain rfl := String.isEmpty_iff.mp htext
    have hplain : ∀ p ∈ directiveTests kinds, ∀ l ∈ [([] : Line)], p l = false := by
      simp only [List.forall_mem_singleton]
      exact directiveTests_eq_false (by decide)
    have hbody : Body.ofLines kinds (dedentedLines "".toList) = _ := Body.ofLines_of_plain hplain
    rw [hbody]
    rfl
  | false =>
    rw [parse, if_neg (by simp [htext])]
    exact summary_addSections (headingsWith kinds) _ _

theorem responsesOf_eq (known : List (List Char)) (ls : List Line) :
    responsesOf known ls = (splitBlocks known ls).2.filterMap Block.response? := by
  unfold responsesOf
  split
  · rename_i hblank
    rw [splitBlocks_blank known (List.all_eq_true.mp hblank)]
    rfl
  · rfl

/-- The tests for directives, on lines with their places. -/
def placedTests (kinds : List CustomKind) : List (Placed → Bool) :=
  (directiveTests kinds).map fun p => p ∘ Prod.fst

/-- The passes over a text give roles to its lines. -/
theorem exists_rolesOf (kinds : List CustomKind) (hint : Option Kind) (text : String) :
    ∃ r, Roles.Of kinds hint text r := by
  let lines := dedentedLines text.toList
  let left := eraseFirsts (placedTests kinds) lines.zipIdx
  have hdisjoint : (placedTests kinds).Pairwise fun p q => ∀ l, p l = true → q l = false :=
    List.pairwise_map.mpr ((directiveTests_pairwise kinds).imp fun h (l : Placed) => h l.1)
  have hleft : left.map Prod.fst = (Body.ofLines kinds lines).lines := by
    rw [Body.ofLines_lines, ← congrArg (eraseFirsts _) (List.zipIdx_map_fst 0 lines)]
    exact map_eraseFirsts Prod.fst (directiveTests kinds) lines.zipIdx
  obtain ⟨summary, gap, rest, hcut, hsplit, hgoesOn, hlength, hblank, hends⟩ :=
    exists_splitSummary (headingsWith kinds) left
  obtain ⟨description, parts, rfl, hblocks, hplain⟩ := exists_splitBlocks (headingsWith kinds) rest
  have hdescription (hgap : gap = []) : description = [] := by
    have hnone := hends hgap
    rw [hblocks] at hnone
    exact List.map_eq_nil_iff.mp hnone
  have honce : ((placedTests kinds).filterMap lines.zipIdx.find? ++ left).Perm lines.zipIdx :=
    perm_eraseFirsts hdisjoint lines.zipIdx
  have horder : left.Sublist lines.zipIdx := eraseFirsts_sublist (placedTests kinds) lines.zipIdx
  rw [hcut] at honce horder
  rw [hleft] at hsplit
  have hafter : afterSummary kinds text = (description ++ parts.flatMap Part.lines).map Prod.fst :=
    congrArg Prod.snd hsplit
  refine ⟨⟨(placedTests kinds).filterMap lines.zipIdx.find?, summary, gap, description, parts,
    hgoesOn, hlength, hblank, hdescription, hplain⟩, honce, horder, List.filterMap_map, ?_, ?_, ?_⟩
  · rw [summary_parse, hsplit, List.map_map]
    rfl
  · rw [sectionsOf, hafter, hblocks, List.all_map]
    cases description <;> rfl
  · rw [responsesOf_eq, hafter, hblocks]
    rfl

section

variable {kinds : List CustomKind} {hint : Option Kind} {text : String}
  {r : Roles (headingsWith kinds)} {x : Placed}

theorem Roles.Of.mem_directives_iff (h : r.Of kinds hint text) :
    x ∈ r.directives ↔ ∃ p ∈ directiveTests kinds,
      ((dedentedLines text.toList).zipIdx.find? fun l => p l.1) = some x := by
  rw [h.directives, List.mem_filterMap]

/-- The lines that are left are those that are no directives. -/
theorem Roles.Of.mem_remaining_iff (h : r.Of kinds hint text)
    (hx : x ∈ (dedentedLines text.toList).zipIdx) : x ∈ r.remaining ↔ x ∉ r.directives := by
  have hnodup : (dedentedLines text.toList).zipIdx.Nodup :=
    List.Nodup.of_map Prod.snd (List.nodup_zipIdx_map_snd _)
  obtain ⟨-, -, hdisjoint⟩ := List.nodup_append.mp (h.once.nodup_iff.mpr hnodup)
  have hmem := h.once.mem_iff.mpr hx
  constructor
  · intro hr hd
    exact hdisjoint x hd x hr rfl
  · intro hd
    exact (List.mem_append.mp hmem).resolve_left hd

end

/-! ## One role for each line -/

/-- The number of a role among the lists of lines. -/
def Role.index : Role → Nat
  | .directive => 0
  | .summary => 1
  | .gap => 2
  | .heading => 3
  | .content n => n + 4

theorem Role.index_injective : Function.Injective Role.index := by
  intro a b h
  cases a <;> cases b <;> simp_all [Role.index]

theorem Role.index_surjective : Function.Surjective Role.index
  | 0 => ⟨.directive, rfl⟩
  | 1 => ⟨.summary, rfl⟩
  | 2 => ⟨.gap, rfl⟩
  | 3 => ⟨.heading, rfl⟩
  | n + 4 => ⟨.content n, rfl⟩

namespace Roles

/-- The lines of each role. -/
def lists (r : Roles known) : List (List Placed) :=
  r.directives :: r.summary :: r.gap :: r.parts.map Part.line :: r.contents

theorem linesOf_eq (r : Roles known) (role : Role) :
    r.linesOf role = r.lists.getD role.index [] := by
  cases role <;> rfl

/-- Headings and contents apart are the lines in order. -/
theorem flatten_lists_perm (r : Roles known) :
    r.lists.flatten.Perm (r.directives ++ r.remaining) := by
  have hparts : (r.parts.map Part.line ++ (r.parts.map Part.content).flatten).Perm
      (r.parts.flatMap Part.lines) := by
    rw [← List.flatMap_def]
    exact List.map_append_flatMap_perm r.parts Part.line Part.content
  have hrest : (r.parts.map Part.line ++ r.contents.flatten).Perm r.rest :=
    (List.perm_append_comm_assoc _ _ _).trans (hparts.append_left r.description)
  exact ((hrest.append_left r.gap).append_left r.summary).append_left r.directives

end Roles

theorem mem_getD_iff {lists : List (List α)} {x : α} {i : Nat} :
    x ∈ lists.getD i [] ↔ ∃ xs, lists[i]? = some xs ∧ x ∈ xs := by
  rw [List.getD_eq_getElem?_getD]
  cases lists[i]? <;> simp

theorem exists_index {lists : List (List α)} {x : α} (h : x ∈ lists.flatten) :
    ∃ i, x ∈ lists.getD i [] := by
  obtain ⟨xs, hxs, hx⟩ := List.mem_flatten.mp h
  obtain ⟨i, hi⟩ := List.mem_iff_getElem?.mp hxs
  exact ⟨i, mem_getD_iff.mpr ⟨xs, hi, hx⟩⟩

/-- Where nothing stands twice, nothing stands in two lists. -/
theorem index_unique {lists : List (List α)} (h : lists.flatten.Nodup) {x : α} {i j : Nat}
    (hi : x ∈ lists.getD i []) (hj : x ∈ lists.getD j []) : i = j := by
  obtain ⟨xs, hxs, hx⟩ := mem_getD_iff.mp hi
  obtain ⟨ys, hys, hy⟩ := mem_getD_iff.mp hj
  obtain ⟨hi', rfl⟩ := List.getElem?_eq_some_iff.mp hxs
  obtain ⟨hj', rfl⟩ := List.getElem?_eq_some_iff.mp hys
  have hdisjoint := List.pairwise_iff_getElem.mp (List.nodup_flatten.mp h).2
  rcases Nat.lt_trichotomy i j with hlt | heq | hgt
  · exact absurd hy (hdisjoint i j hi' hj' hlt hx)
  · exact heq
  · exact absurd hx (hdisjoint j i hj' hi' hgt hy)

/-- The part is the content of one entry, of the sections or of the responses. -/
def Part.HasOneEntry (p : Part known) : Prop :=
  (∃ name, p.block.section? = some ⟨name, p.content.map Prod.fst⟩ ∧ p.block.response? = none)
    ∨ ∃ status, p.block.response? = some (status, p.content.map Prod.fst) ∧ p.block.section? = none

theorem Part.hasOneEntry {p : Part known} (h : p.content ≠ []) : p.HasOneEntry := by
  obtain ⟨heading, line, content, opens, plain⟩ := p
  cases heading with
  | named name => exact .inl ⟨name, by simp [Part.block, Block.section?, h], rfl⟩
  | response status => exact .inr ⟨status, rfl, rfl⟩

/-- Every line of a text plays exactly one role, whatever kinds a project defines. The parts with
    lines are one entry each, of the sections or of the responses. -/
theorem lines_play_one_role (kinds : List CustomKind) (hint : Option Kind) (text : String) :
    ∃ r : Roles (headingsWith kinds), r.Of kinds hint text
      ∧ (∀ l ∈ (dedentedLines text.toList).zipIdx, ∃! role, l ∈ r.linesOf role)
      ∧ ∀ p ∈ r.parts, p.content ≠ [] → p.HasOneEntry := by
  obtain ⟨r, hr⟩ := exists_rolesOf kinds hint text
  refine ⟨r, hr, fun l hl => ?_, fun p _ => Part.hasOneEntry⟩
  have hperm := r.flatten_lists_perm.trans hr.once
  have hnodup : (dedentedLines text.toList).zipIdx.Nodup := by
    apply List.Nodup.of_map Prod.snd
    rw [List.zipIdx_map_snd]
    exact List.nodup_range'
  simp only [Roles.linesOf_eq]
  obtain ⟨i, hi⟩ := exists_index (hperm.mem_iff.mpr hl)
  obtain ⟨role, rfl⟩ := Role.index_surjective i
  refine ⟨role, hi, fun other hother => Role.index_injective ?_⟩
  exact index_unique (hperm.nodup_iff.mpr hnodup) hother hi

end Docsmith.Docstring
