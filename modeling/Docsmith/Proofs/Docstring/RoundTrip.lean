-- SUMMARY: Documentation texts are read back as the parts they are written from.
import Docsmith.Proofs.Docstring.Outline

/-!
# Reading written documentation texts

`parse_text`: reading the text of an outline gives every part back as it went in
and finds nothing else, as long as no line but the headings looks like a heading
or a directive.

The lines are followed through the passes of the reader: the text is cut at its
line feeds, no line is moved since the headings stand at the margin, no
directive is taken out, the summary ends at the first empty line, and each
section holds the lines it was written with, followed by blank ones.
-/

namespace Docsmith.Docstring

/-! ## Emptied lines -/

theorem emptied_eq_self {l : Line} (h : isBlankLine l = false) : emptied l = l := by
  simp [emptied, h]

theorem emptied_eq_self_of_mem {l : Line} {c : Char} (hc : c ∈ l) (h : Text.isBlank c = false) :
    emptied l = l := by
  refine emptied_eq_self ?_
  rw [← Bool.not_eq_true]
  intro hblank
  exact absurd (List.all_eq_true.mp hblank c hc) (by simp [h])

/-- The first and the last line of a stripped text are not blank. -/
theorem hasFullEnds_map_emptied {ls : List Line} (h : Text.HasFullEnds ls) :
    Text.HasFullEnds (ls.map emptied) := by
  obtain ⟨⟨c, cs, ms, hhead, hc⟩, ⟨ms', cs', c', hlast, hc'⟩⟩ := h
  refine ⟨⟨c, cs, ms.map emptied, ?_, hc⟩, ⟨ms'.map emptied, cs', c', ?_, hc'⟩⟩
  · rw [hhead, List.map_cons, emptied_eq_self_of_mem List.mem_cons_self hc]
  · rw [hlast, List.map_append, List.map_singleton,
      emptied_eq_self_of_mem (List.mem_append_right cs' List.mem_cons_self) hc']

/-! ## The lines of the text -/

theorem isFlat_append {a b : List Char} (ha : IsFlat a) (hb : IsFlat b) : IsFlat (a ++ b) :=
  List.forall_mem_append.mpr ⟨ha, hb⟩

theorem isFlat_replicate (n : Nat) : IsFlat (List.replicate n ' ') := by
  intro c hc
  rw [List.eq_of_mem_replicate hc]
  decide

/-- Characters that are no white space may stand inside a line. -/
theorem isFlat_of_not_isBlank {cs : List Char} (h : ∀ c ∈ cs, Text.isBlank c = false) :
    IsFlat cs := by
  intro c hc
  refine ⟨?_, ?_⟩
  · rintro rfl
    exact absurd (h '\t' hc) (by decide)
  · rw [← Bool.not_eq_true]
    intro hbreak
    exact absurd (Text.isBlank_of_isBreak hbreak) (by simp [h c hc])

theorem Item.isFlat_line {i : Item} (hname : isName i.name = true) (hnote : IsFlat i.note)
    (htext : IsFlat i.text) : IsFlat i.line := by
  have hopen : IsFlat [' ', '('] := by decide
  have hclose : IsFlat [')'] := by decide
  have hcolon : IsFlat [':', ' '] := by decide
  refine isFlat_append (isFlat_replicate 4) (isFlat_append
    (isFlat_of_not_isBlank (not_isBlank_of_mem_name hname)) (isFlat_append ?_
    (isFlat_append hcolon htext)))
  split
  · exact List.forall_mem_nil _
  · exact isFlat_append hopen (isFlat_append hnote hclose)

/-- An item line is not blank. -/
theorem Item.isBlankLine_line (i : Item) : isBlankLine i.line = false := by
  simp [isBlankLine, Item.line, writtenNoteAndText, Text.isBlank]

/-- The line may stand in a text and is not blank. -/
def IsFull (l : Line) : Prop := IsFlat l ∧ isBlankLine l = false

instance (l : Line) : Decidable (IsFull l) := inferInstanceAs (Decidable (_ ∧ _))

theorem ArgPart.isFull_lines (a : ArgPart) : ∀ l ∈ a.entry.lines, IsFull l := by
  have hnote : IsFlat a.entry.item.note := by
    intro c hc
    rcases mem_argNote hc with htype | hword | rfl | ⟨d, hd, hmem⟩
    · exact a.type.flat c htype
    · exact (by decide : IsFlat (',' :: ' ' :: requiredWord)) c hword
    · decide
    · obtain ⟨p, -, rfl⟩ := Option.map_eq_some_iff.mp hd
      exact p.flat c hmem
  refine List.forall_mem_cons.mpr
    ⟨⟨Item.isFlat_line a.isName hnote a.first.flat, a.entry.item.isBlankLine_line⟩, fun l hl => ?_⟩
  refine ⟨?_, (a.entry_isWritten.more l hl).2⟩
  obtain ⟨p, -, rfl⟩ := List.mem_map.mp hl
  exact isFlat_append (isFlat_replicate 8) p.flat

theorem RaisePart.isFull_lines (r : RaisePart) : ∀ l ∈ r.entry.lines, IsFull l :=
  List.forall_mem_singleton.mpr
    ⟨Item.isFlat_line r.isName (List.forall_mem_nil _) r.description.flat,
      r.entry.item.isBlankLine_line⟩

theorem ReturnPart.isFull_content (r : ReturnPart) :
    IsFull (List.replicate 4 ' ' ++ r.content) := by
  rw [IsFull, isBlankLine_replicate_append]
  cases r with
  | typed type description ne noColon =>
    refine ⟨isFlat_append (isFlat_replicate 4) (isFlat_append type.flat
      (isFlat_append (by decide : IsFlat [':', ' ']) description.flat)), ?_⟩
    simp [ReturnPart.content, isBlankLine, Text.isBlank]
  | untyped description ne noColon =>
    exact ⟨isFlat_append (isFlat_replicate 4) description.flat, description.isBlankLine_eq_false ne⟩

namespace Outline

variable (o : Outline) (layout : Layout)

theorem mem_sections {s : Section} (hs : s ∈ o.sections layout) :
    s = ⟨"Args".toList, o.argLines⟩ ∨ s = ⟨"Returns".toList, o.returnLines⟩ ∨
      s = ⟨"Raises".toList, o.raiseLines⟩ := by
  simpa using (List.mem_filter.mp hs).1

theorem name_mem_callHeadings {s : Section} (hs : s ∈ o.sections layout) :
    s.name ∈ callHeadings := by
  rcases o.mem_sections layout hs with rfl | rfl | rfl <;> simp [callHeadings]

/-- A heading stands at the margin. -/
theorem heading_isFull : ∀ name ∈ callHeadings,
    IsFull (name ++ [':']) ∧ indent? (name ++ [':']) = some 0 := by decide

theorem isFull_of_mem_lines {s : Section} (hs : s ∈ o.sections layout) :
    ∀ l ∈ s.lines, IsFull l := by
  rcases o.mem_sections layout hs with rfl | rfl | rfl <;> intro l hl
  · obtain ⟨a, -, hl⟩ := List.mem_flatMap.mp hl
    exact a.isFull_lines l hl
  · obtain ⟨r, -, rfl⟩ := List.mem_map.mp hl
    exact r.isFull_content
  · obtain ⟨r, -, hl⟩ := List.mem_flatMap.mp hl
    exact r.isFull_lines l hl

theorem isFull_of_mem_written {s : Section} (hs : s ∈ o.sections layout) :
    ∀ l ∈ s.written, IsFull l :=
  List.forall_mem_cons.mpr ⟨(heading_isFull _ (o.name_mem_callHeadings layout hs)).1,
    o.isFull_of_mem_lines layout hs⟩

theorem description_hasFullEnds (hne : o.description ≠ []) : Text.HasFullEnds o.description :=
  Text.hasFullEnds_of_strip hne o.description_ne o.description_stripped

end Outline

theorem indent?_cons {c : Char} (h : Text.isBlank c = false) (cs : Line) :
    indent? (c :: cs) = some 0 := by
  simp [indent?, isBlankLine, Text.stripStart, h]

/-- Lines that are written together. -/
structure IsPart (q : List Line) : Prop where
  flat : ∀ l ∈ q, IsFlat l
  margin : ∃ l ∈ q, indent? l = some 0
  last : ∃ ms l, q = ms ++ [l] ∧ l ≠ []

theorem Outline.isPart_of_mem_parts (o : Outline) (layout : Layout) {q : List Line}
    (hq : q ∈ o.parts layout) : IsPart q := by
  rcases List.mem_append.mp hq with hdescription | hsections
  · have hq : o.description ≠ [] ∧ q = o.description := by
      split at hdescription
      · cases hdescription
      · rename_i hne
        exact ⟨by simpa using hne, List.mem_singleton.mp hdescription⟩
    obtain ⟨hne, rfl⟩ := hq
    obtain ⟨⟨c, cs, ms, hhead, hc⟩, ⟨ms', cs', c', hlast, -⟩⟩ := o.description_hasFullEnds hne
    refine ⟨o.description_flat, ⟨c :: cs, ?_, indent?_cons hc cs⟩,
      ⟨ms', cs' ++ [c'], hlast, by simp⟩⟩
    rw [hhead]
    exact List.mem_cons_self
  · obtain ⟨s, hs, rfl⟩ := List.mem_map.mp hsections
    have hfull := o.isFull_of_mem_written layout hs
    refine ⟨fun l hl => (hfull l hl).1, ⟨_, List.mem_cons_self,
      (heading_isFull _ (o.name_mem_callHeadings layout hs)).2⟩, ?_⟩
    obtain ⟨ms, l, heq⟩ := Text.exists_concat_of_ne_nil (List.cons_ne_nil (s.name ++ [':']) s.lines)
    refine ⟨ms, l, heq, ?_⟩
    rintro rfl
    have hblank := (hfull [] (by rw [Section.written, heq]; simp)).2
    exact absurd hblank (by decide)

/-- An empty line between any two parts, and one before the first, is one before each. -/
theorem cons_intercalate (p : List Line) (ps : List (List Line)) :
    [] :: [[]].intercalate (p :: ps) = (p :: ps).flatMap ([] :: ·) := by
  induction ps generalizing p with
  | nil => simp [List.intercalate]
  | cons q ps ih =>
    rw [List.flatMap_cons, ← ih q]
    simp [List.intercalate]

namespace Outline

variable (o : Outline) (layout : Layout)

theorem lines_eq_of_parts {q : List Line} {qs : List (List Line)} (h : o.parts layout = q :: qs) :
    o.lines layout = o.summary.chars :: (o.parts layout).flatMap ([] :: ·) := by
  rw [lines, h, ← cons_intercalate]
  rfl

theorem isFlat_of_mem_lines : ∀ l ∈ o.lines layout, IsFlat l := by
  have hparts : ∀ l ∈ (o.parts layout).flatMap ([] :: ·), IsFlat l := by
    intro l hl
    obtain ⟨q, hq, hl⟩ := List.mem_flatMap.mp hl
    rcases List.mem_cons.mp hl with rfl | hl
    · exact List.forall_mem_nil _
    · exact (o.isPart_of_mem_parts layout hq).flat l hl
  cases h : o.parts layout with
  | nil =>
    rw [lines, h]
    exact List.forall_mem_cons.mpr ⟨o.summary.flat, by simp [List.intercalate, IsFlat]⟩
  | cons q qs =>
    rw [o.lines_eq_of_parts layout h]
    exact List.forall_mem_cons.mpr ⟨o.summary.flat, hparts⟩

theorem tab_not_mem_text : '\t' ∉ (o.text layout).toList := by
  rw [text, String.toList_ofList, List.mem_append, not_or]
  refine ⟨fun htab => ?_, fun htab => absurd (List.eq_of_mem_replicate htab) (by decide)⟩
  obtain heq | ⟨l, hl, hc⟩ := Text.mem_unlines htab
  · exact absurd heq (by decide)
  · exact (o.isFlat_of_mem_lines layout l hl '\t' hc).1 rfl

/-- The text is cut into the summary and the parts, with an empty line before each of them and
    any number of empty lines at the end. -/
theorem exists_lines_text :
    ∃ k, Text.lines (Text.expandTabs 4 (o.text layout).toList) =
      o.summary.chars :: ((o.parts layout).flatMap ([] :: ·) ++ List.replicate k []) := by
  rw [Text.expandTabs_of_not_mem 4 (o.tab_not_mem_text layout), text, String.toList_ofList]
  have hbreak : ∀ l ∈ o.lines layout, Text.NoBreak l := fun l hl c hc =>
    (o.isFlat_of_mem_lines layout l hl c hc).2
  cases h : o.parts layout with
  | nil =>
    refine ⟨layout.tail, ?_⟩
    have hlines : o.lines layout = [o.summary.chars, []] := by simp [lines, h, List.intercalate]
    have hsummary : Text.NoBreak o.summary.chars := hbreak _ (by simp [hlines])
    rw [hlines, Text.unlines_cons_cons, List.append_assoc]
    exact (Text.lines_append_newline hsummary _).trans
      (congrArg _ (Text.lines_replicate_newline layout.tail))
  | cons q qs =>
    refine ⟨layout.tail - 1, ?_⟩
    obtain ⟨front, r, hr⟩ := Text.exists_concat_of_ne_nil (List.cons_ne_nil q qs)
    have hmem : r ∈ o.parts layout := by rw [h, hr]; simp
    obtain ⟨ms, l, rfl, hne⟩ := (o.isPart_of_mem_parts layout hmem).last
    have hlines : o.lines layout =
        o.summary.chars :: (front.flatMap ([] :: ·) ++ [] :: ms) ++ [l] := by
      rw [o.lines_eq_of_parts layout h, h, hr]
      simp
    rw [hlines] at hbreak ⊢
    rw [Text.lines_unlines_append (fun k hk => hbreak k (List.mem_append_left _ hk)) hne
      (hbreak l (by simp)), hr]
    simp

end Outline

/-! ## The margin -/

theorem foldl_min_eq_zero {ns : List Nat} {n : Nat} (h : n = 0 ∨ 0 ∈ ns) :
    ns.foldl min n = 0 := by
  induction ns generalizing n with
  | nil => simpa using h
  | cons m ns ih =>
    refine ih ?_
    rw [List.mem_cons] at h
    rcases h with rfl | rfl | h
    · exact .inl (Nat.zero_min m)
    · exact .inl (Nat.min_zero n)
    · exact .inr h

theorem leastIndent_eq_zero {ns : List Nat} (h : ns = [] ∨ 0 ∈ ns) : leastIndent ns = 0 := by
  cases ns with
  | nil => rfl
  | cons n ns =>
    refine foldl_min_eq_zero ?_
    rcases h with h | h
    · cases h
    · rcases List.mem_cons.mp h with rfl | h
      · exact .inl rfl
      · exact .inr h

/-- With a line at the margin only blank lines change. -/
theorem dedent_of_margin (first : Line) {rest : List Line}
    (h : rest.filterMap indent? = [] ∨ 0 ∈ rest.filterMap indent?) :
    dedent (first :: rest) = Text.strip first :: rest.map emptied := by
  simp only [dedent, leastIndent_eq_zero h, List.drop_zero]
  rfl

namespace Outline

variable (o : Outline) (layout : Layout)

/-- The description and the empty line before it, as they are read. -/
def descriptionLines : List Line :=
  if o.description.isEmpty then [] else [] :: o.description.map emptied

/-- The sections as they are written, with an empty line before each. -/
def sectionLines : List Line := (o.sections layout).flatMap fun s => [] :: s.written

theorem map_emptied_parts : ((o.parts layout).flatMap ([] :: ·)).map emptied =
    o.descriptionLines ++ o.sectionLines layout := by
  have hsections : (o.sectionLines layout).map emptied = o.sectionLines layout := by
    refine (List.map_congr_left fun l hl => ?_).trans (List.map_id _)
    obtain ⟨s, hs, hl⟩ := List.mem_flatMap.mp hl
    rcases List.mem_cons.mp hl with rfl | hl
    · rfl
    · exact emptied_eq_self (o.isFull_of_mem_written layout hs l hl).2
  rw [parts, List.flatMap_append, List.map_append, List.flatMap_map]
  refine congrArg₂ _ ?_ hsections
  rw [descriptionLines]
  split
  · rfl
  · simp [emptied, isBlankLine]

/-- No line of the text is moved. -/
theorem exists_dedentedLines_text :
    ∃ k, dedentedLines (o.text layout).toList =
      o.summary.chars
        :: (o.descriptionLines ++ (o.sectionLines layout ++ List.replicate k [])) := by
  obtain ⟨k, hlines⟩ := o.exists_lines_text layout
  refine ⟨k, ?_⟩
  have hmargin :
      ((o.parts layout).flatMap ([] :: ·) ++ List.replicate k []).filterMap indent? = [] ∨
      0 ∈ ((o.parts layout).flatMap ([] :: ·) ++ List.replicate k []).filterMap indent? := by
    cases h : o.parts layout with
    | nil =>
      left
      rw [List.flatMap_nil, List.nil_append, List.filterMap_eq_nil_iff]
      intro l hl
      rw [List.eq_of_mem_replicate hl]
      rfl
    | cons q qs =>
      right
      have hmem : q ∈ o.parts layout := by rw [h]; exact List.mem_cons_self
      obtain ⟨l, hl, hindent⟩ := (o.isPart_of_mem_parts layout hmem).margin
      refine List.mem_filterMap.mpr ⟨l, ?_, hindent⟩
      simp [hl]
  have hempty : (List.replicate k ([] : Line)).map emptied = List.replicate k [] := by
    rw [List.map_replicate]
    rfl
  rw [dedentedLines, hlines, dedent_of_margin _ hmargin, o.summary.stripped, List.map_append,
    o.map_emptied_parts layout, hempty, List.append_assoc]

end Outline

/-! ## Headings and directives -/

/-- The line looks neither like a heading nor like a directive. -/
def IsPlain (kinds : List CustomKind) (l : Line) : Prop :=
  heading? (headingsWith kinds) l = none ∧ ∀ p ∈ directiveTests kinds, p l = false

instance (kinds : List CustomKind) (l : Line) : Decidable (IsPlain kinds l) :=
  inferInstanceAs (Decidable (_ ∧ _))

variable {kinds : List CustomKind}

theorem isPlain_nil : IsPlain kinds [] :=
  ⟨heading?_eq_none_of_isBlankLine rfl, directiveTests_eq_false (by decide)⟩

theorem IsPlain.emptied {l : Line} (h : IsPlain kinds l) : IsPlain kinds (emptied l) := by
  unfold Docstring.emptied
  split
  · exact isPlain_nil
  · exact h

/-- The headings of an outline are known, whatever kinds a project defines. -/
theorem heading?_callHeadings (kinds : List CustomKind) : ∀ name ∈ callHeadings,
    heading? (headingsWith kinds) (name ++ [':']) = some (.named name) := by
  have hbuiltIn : ∀ name ∈ callHeadings, responseStatus? (name ++ [':']) = none ∧
      headingAt? (headings.map String.toList) (name ++ [':']) = some name ∧
      Text.strip (name ++ [':']) = name ++ [':'] := by decide
  intro name hname
  obtain ⟨hresponse, hat, hstrip⟩ := hbuiltIn name hname
  obtain ⟨c, cs, hcons⟩ := List.exists_cons_of_ne_nil
    (List.append_ne_nil_of_right_ne_nil name (List.cons_ne_nil ':' []))
  rw [hcons] at hresponse hat hstrip ⊢
  have hknown : headingAt? (headingsWith kinds) (c :: cs) = some name := by
    rw [headingAt?] at hat
    rw [headingsWith, List.map_append, headingAt?, List.findSome?_append, hat]
    rfl
  have hc := Text.not_isBlank_head hstrip c rfl
  simp [heading?, hresponse, sectionName?, hc, hknown]

theorem callHeadings_noDirective : ∀ name ∈ callHeadings, ∀ p ∈ directiveTests kinds,
    p (name ++ [':']) = false := by
  have hwords : ∀ name ∈ callHeadings, ∀ word ∈ ["Type", "Method", "Path", "Trigger"],
      afterWord? word (name ++ [':']) = none := by decide
  exact fun name hname => directiveTests_eq_false (hwords name hname)

namespace Outline

variable {o : Outline} (layout : Layout)

theorem isPlain_of_mem_descriptionLines (h : ∀ l ∈ o.plainLines, IsPlain kinds l) :
    ∀ l ∈ o.descriptionLines, IsPlain kinds l := by
  intro l hl
  rw [descriptionLines] at hl
  split at hl
  · cases hl
  · rcases List.mem_cons.mp hl with rfl | hl
    · exact isPlain_nil
    · obtain ⟨m, hm, rfl⟩ := List.mem_map.mp hl
      exact (h m (by simp [plainLines, hm])).emptied

theorem isPlain_of_mem_section (h : ∀ l ∈ o.plainLines, IsPlain kinds l) {s : Section}
    (hs : s ∈ o.sections layout) : ∀ l ∈ s.lines, IsPlain kinds l := by
  rcases o.mem_sections layout hs with rfl | rfl | rfl <;> intro l hl <;>
    exact h l (by simp [plainLines, hl])

theorem isWritten_of_mem_sections (h : ∀ l ∈ o.plainLines, IsPlain kinds l) :
    ∀ s ∈ o.sections layout, s.IsWritten (headingsWith kinds) := by
  intro s hs
  have hname := o.name_mem_callHeadings layout hs
  refine ⟨?_, heading?_callHeadings kinds _ hname, fun l hl =>
    (isPlain_of_mem_section layout h hs l hl).1⟩
  exact (by decide : ∀ name ∈ callHeadings, name ≠ []) _ hname

/-- No line of the text is a directive. -/
theorem body_of_plain (h : ∀ l ∈ o.plainLines, IsPlain kinds l) (k : Nat) :
    let ls := o.summary.chars ::
      (o.descriptionLines ++ (o.sectionLines layout ++ List.replicate k []))
    Body.ofLines kinds ls = ⟨none, ⟨none, none, none⟩, ls⟩ := by
  refine Body.ofLines_of_plain fun p hp => ?_
  refine List.forall_mem_cons.mpr ⟨(h _ List.mem_cons_self).2 p hp, ?_⟩
  refine List.forall_mem_append.mpr ⟨fun l hl =>
    (isPlain_of_mem_descriptionLines h l hl).2 p hp, ?_⟩
  refine List.forall_mem_append.mpr ⟨fun l hl => ?_, fun l hl => ?_⟩
  · obtain ⟨s, hs, hl⟩ := List.mem_flatMap.mp hl
    rcases List.mem_cons.mp hl with rfl | hl
    · exact isPlain_nil.2 p hp
    · rcases List.mem_cons.mp hl with rfl | hl
      · exact callHeadings_noDirective _ (o.name_mem_callHeadings layout hs) p hp
      · exact (isPlain_of_mem_section layout h hs l hl).2 p hp
  · rw [List.eq_of_mem_replicate hl]
    exact isPlain_nil.2 p hp

end Outline

/-! ## Reading the text -/

/-- The summary ends at the first empty line, if there is one. An empty summary is that line. -/
theorem splitSummary_cons (known : List (List Char)) (p : Piece)
    (hp : heading? known p.chars = none) {ms : List Line} (hms : ms = [] ∨ ∃ ls, ms = [] :: ls) :
    ∃ rest, splitSummary known (p.chars :: ms) =
        (if p.chars.isEmpty then [] else [p.chars], rest) ∧ (ms = rest ∨ ms = [] :: rest) := by
  by_cases hne : p.chars = []
  · exact ⟨ms, by simp [hne, splitSummary, isBlankLine], .inl rfl⟩
  · have hblank := p.isBlankLine_eq_false hne
    have hempty : isBlankLine [] = true := rfl
    rcases hms with rfl | ⟨ls, rfl⟩
    · exact ⟨[], by simp [splitSummary, hblank, hp, hne], .inl rfl⟩
    · exact ⟨ls, by simp [splitSummary, hblank, hp, hne, hempty], .inr rfl⟩

/-- An empty line in front of some lines makes no difference to their sections. -/
theorem addSections_nil_cons (known : List (List Char)) (d : Docstring) (ls : List Line) :
    addSections known d ([] :: ls) = addSections known d ls := by
  have hsplit : splitBlocks known ([] :: ls) =
      ([] :: (splitBlocks known ls).1, (splitBlocks known ls).2) :=
    splitBlocks_cons_of_none (heading?_eq_none_of_isBlankLine rfl)
  have hresponses : responsesOf known ([] :: ls) = responsesOf known ls := by
    rw [responsesOf, responsesOf, hsplit]
    rfl
  have hdescription (ms : List Line) : addSection d ⟨[], [] :: ms⟩ = addSection d ⟨[], ms⟩ := by
    rw [addSection_description, addSection_description, contentOf_nil_cons]
  rw [addSections, addSections, hresponses, foldl_sectionsOf, foldl_sectionsOf, hsplit,
    hdescription]

namespace Outline

variable {o : Outline} (layout : Layout)

/-- The text of the description. -/
theorem contentOf_descriptionLines (o : Outline) :
    contentOf o.descriptionLines = Text.unlines (o.description.map emptied) := by
  rw [descriptionLines]
  split
  · rename_i hempty
    rw [List.isEmpty_iff.mp hempty]
    rfl
  · rename_i hne
    have hne : o.description ≠ [] := by simpa using hne
    rw [contentOf_nil_cons, contentOf]
    exact Text.strip_unlines (hasFullEnds_map_emptied (o.description_hasFullEnds hne))

/-- What the lines after the summary add to a record. -/
theorem addSections_lines (h : ∀ l ∈ o.plainLines, IsPlain kinds l) (k : Nat) {d : Docstring}
    (hargs : d.args = []) (hreturns : d.returns = none) (hraises : d.raises = []) :
    addSections (headingsWith kinds) d
        (o.descriptionLines ++ (o.sectionLines layout ++ List.replicate k [])) =
      { d with
        description := addDescription d.description (Text.unlines (o.description.map emptied))
        args := o.args.map ArgPart.arg
        returns := o.returns.map ReturnPart.value
        raises := o.raises.map RaisePart.value
        responses := [] } := by
  have hblank : ∀ l ∈ List.replicate k ([] : Line), isBlankLine l = true := fun l hl => by
    rw [List.eq_of_mem_replicate hl]; rfl
  obtain ⟨before, blocks, hsections, hbefore, hpadded, hresponses⟩ :=
    splitBlocks_written (isWritten_of_mem_sections layout h) hblank
  have hsplit : splitBlocks (headingsWith kinds)
      (o.descriptionLines ++ (o.sectionLines layout ++ List.replicate k [])) =
      (o.descriptionLines ++ before, blocks) := by
    rw [splitBlocks_append fun l hl => (isPlain_of_mem_descriptionLines h l hl).1, sectionLines,
      hsections]
  have hnone : responsesOf (headingsWith kinds)
      (o.descriptionLines ++ (o.sectionLines layout ++ List.replicate k [])) = [] := by
    rw [responsesOf, hsplit, hresponses, ite_self]
  have hread : (sectionsOf (headingsWith kinds)
      (o.descriptionLines ++ (o.sectionLines layout ++ List.replicate k []))).foldl addSection d =
      { d with
        description := addDescription d.description (Text.unlines (o.description.map emptied))
        args := o.args.map ArgPart.arg
        returns := o.returns.map ReturnPart.value
        raises := o.raises.map RaisePart.value } := by
    rw [foldl_sectionsOf, hsplit, addSection_description, contentOf_append_blank hbefore,
      contentOf_descriptionLines,
      foldl_addSection_padded hpadded fun s hs => o.name_mem_callHeadings layout hs]
    exact foldl_sections o layout hargs hreturns hraises
  rw [addSections, hnone, hread]
  rfl

theorem text_isEmpty (o : Outline) : (o.text layout).isEmpty = false := by
  rw [← Bool.not_eq_true, String.isEmpty_iff]
  intro hempty
  have hchars := congrArg String.toList hempty
  rw [text, String.toList_ofList, lines, List.cons_append, List.cons_append,
    Text.unlines_cons_cons] at hchars
  simp at hchars

/-- What follows the summary starts with an empty line. -/
theorem afterSummary_eq (o : Outline) (k : Nat) :
    let ms := o.descriptionLines ++ (o.sectionLines layout ++ List.replicate k [])
    ms = [] ∨ ∃ ls, ms = [] :: ls := by
  rw [descriptionLines, sectionLines]
  split
  · cases o.sections layout with
    | nil =>
      cases k with
      | zero => exact .inl rfl
      | succ k => exact .inr ⟨_, rfl⟩
    | cons s ss => exact .inr ⟨_, rfl⟩
  · exact .inr ⟨_, rfl⟩

theorem record_eq (o : Outline) (hint : Option Kind) (ls : List Line) :
    { Body.record hint (if o.summary.chars.isEmpty then [] else [o.summary.chars])
        ⟨none, ⟨none, none, none⟩, ls⟩ with
      description := addDescription "" (Text.unlines (o.description.map emptied))
      args := o.args.map ArgPart.arg
      returns := o.returns.map ReturnPart.value
      raises := o.raises.map RaisePart.value
      responses := [] } = o.record hint := by
  have hsummary : Text.joinWith [' ']
      ((if o.summary.chars.isEmpty then [] else [o.summary.chars]).map Text.strip) =
      o.summary.chars := by
    by_cases hne : o.summary.chars = []
    · rw [hne]
      rfl
    · simp [hne, Text.joinWith, o.summary.stripped]
  have hdescription (cs : List Char) : addDescription "" cs = String.ofList cs := by
    cases cs with
    | nil => rfl
    | cons c cs => rfl
  rw [Body.record, hsummary, hdescription]
  rfl

end Outline

/-- A documentation text is read back as the parts it was written from, for any kinds that a
    project defines, if none of its lines but the headings looks like a heading or a
    directive. -/
theorem parse_text (kinds : List CustomKind) (hint : Option Kind) (o : Outline) (layout : Layout)
    (h : ∀ l ∈ o.plainLines, IsPlain kinds l) :
    parse kinds hint (o.text layout) = o.record hint := by
  obtain ⟨k, hlines⟩ := o.exists_dedentedLines_text layout
  obtain ⟨rest, hsummary, hrest⟩ := splitSummary_cons (headingsWith kinds) o.summary
    (h _ List.mem_cons_self).1 (Outline.afterSummary_eq layout o k)
  have hsections (d : Docstring) : addSections (headingsWith kinds) d rest =
      addSections (headingsWith kinds) d
        (o.descriptionLines ++ (o.sectionLines layout ++ List.replicate k [])) := by
    rcases hrest with heq | heq
    · rw [heq]
    · rw [heq, addSections_nil_cons]
  have hparse : parse kinds hint (o.text layout) = addSections (headingsWith kinds)
      (Body.record hint (if o.summary.chars.isEmpty then [] else [o.summary.chars])
        ⟨none, ⟨none, none, none⟩, o.summary.chars ::
          (o.descriptionLines ++ (o.sectionLines layout ++ List.replicate k []))⟩) rest := by
    rw [parse, Outline.text_isEmpty layout o, hlines, Outline.body_of_plain layout h k]
    simp only [hsummary]
    rfl
  rw [hparse, hsections, Outline.addSections_lines layout h k rfl rfl rfl]
  exact o.record_eq hint _

/-- An outline with every part. -/
def openOutline : Outline where
  summary := ⟨"Open a file.".toList, by decide, by decide⟩
  description := ["The file is closed".toList, [], "    at exit: always.".toList]
  args :=
    [{ name := "name".toList
       type := ⟨"str".toList, by decide, by decide⟩
       required := true
       default := none
       first := ⟨"The name of".toList, by decide, by decide⟩
       more := [⟨"the file.".toList, by decide, by decide⟩]
       isName := by decide
       type_closed := by decide
       type_noDefault := by decide
       type_unrequired := by decide
       default_closed := by decide
       first_ne := by decide
       more_ne := by decide
       more_noItem := by decide },
     { name := "**options".toList
       type := ⟨[], rfl, by decide⟩
       required := false
       default := some ⟨"a=b".toList, by decide, by decide⟩
       first := ⟨"How: see below.".toList, by decide, by decide⟩
       more := []
       isName := by decide
       type_closed := by decide
       type_noDefault := by decide
       type_unrequired := by decide
       default_closed := by decide
       first_ne := by decide
       more_ne := by decide
       more_noItem := by decide }]
  returns := some (.typed ⟨"File".toList, by decide, by decide⟩
    ⟨"The handle.".toList, by decide, by decide⟩ (by decide) (by decide))
  raises :=
    [{ name := "OSError".toList
       description := ⟨"If there is none.".toList, by decide, by decide⟩
       name_ne := by decide
       name_word := Text.forall_mem_of_all (by decide) }]
  description_ne := by decide
  description_stripped := by decide
  description_flat := by decide

/-- Every part of the outline comes back. -/
theorem parse_openOutline :
    (∀ l ∈ openOutline.plainLines, IsPlain [] l) ∧
    parse [] none ("Open a file.\n\nThe file is closed\n\n    at exit: always.\n\n" ++
      "Args:\n    name (str, required): The name of\n        the file.\n" ++
      "    **options (=a=b): How: see below.\n\nReturns:\n    File: The handle.\n\n" ++
      "Raises:\n    OSError: If there is none.") = openOutline.record none := by
  have hplain : ∀ l ∈ openOutline.plainLines, IsPlain [] l := by decide +kernel
  have htext : openOutline.text ⟨false, 0⟩ =
      "Open a file.\n\nThe file is closed\n\n    at exit: always.\n\n" ++
      "Args:\n    name (str, required): The name of\n        the file.\n" ++
      "    **options (=a=b): How: see below.\n\nReturns:\n    File: The handle.\n\n" ++
      "Raises:\n    OSError: If there is none." := by decide +kernel
  exact ⟨hplain, htext ▸ parse_text [] none openOutline ⟨false, 0⟩ hplain⟩

end Docsmith.Docstring
