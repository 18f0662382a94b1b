-- SUMMARY: What cutting a documentation text into blocks keeps of its lines.
import Docsmith.Docstring.Parse
import Docsmith.Proofs.Docstring.Item

/-!
# Blocks of a documentation text

Cutting lines into blocks loses no line: every line stands before the first
heading, is a heading, or belongs to the block of the last heading above it.
Lines that are no headings, put in front, change what stands before the first
heading and leave the blocks alone; so does cutting the summary off.
-/

namespace Docsmith.Docstring

variable {known : List (List Char)} {l : Line} {ls : List Line}

/-! ## Headings -/

theorem colon_mem_of_isColonOnly {cs : List Char} (h : isColonOnly cs = true) : ':' ∈ cs := by
  unfold isColonOnly at h
  split at h
  · exact List.mem_cons_self
  · cases h

theorem colon_mem_of_headingAt? {cs : List Char} (h : (headingAt? known cs).isSome) :
    ':' ∈ cs := by
  obtain ⟨w, -, hw⟩ := List.exists_of_findSome?_eq_some (Option.eq_some_of_isSome h)
  split at hw
  · rename_i r hr
    split at hw
    · rename_i hcolon
      exact (Text.suffix_of_dropWord?_eq_some hr).subset (colon_mem_of_isColonOnly hcolon)
    · cases hw
  · cases hw

theorem colon_mem_of_sectionName? (h : (sectionName? known l).isSome) : ':' ∈ l := by
  induction l with
  | nil => exact colon_mem_of_headingAt? h
  | cons c cs ih =>
    unfold sectionName? at h
    split at h
    · cases htail : sectionName? known cs with
      | some name => exact List.mem_cons_of_mem c (ih (by rw [htail]; rfl))
      | none => rw [htail] at h; exact colon_mem_of_headingAt? h
    · exact colon_mem_of_headingAt? h

theorem suffix_of_status?_eq_some {cs r : List Char} {n : Nat} (h : status? cs = some (n, r)) :
    r <:+ cs := by
  unfold status? at h
  split at h
  · rename_i a b c r'
    simp only [Option.bind_eq_bind, Option.bind_eq_some_iff, Option.pure_def, Option.some.injEq,
      Prod.mk.injEq] at h
    obtain ⟨_, _, _, _, _, _, _, rfl⟩ := h
    exact List.suffix_append [a, b, c] r'
  · cases h

theorem stripStart_suffix (cs : List Char) : Text.stripStart cs <:+ cs :=
  List.dropWhile_suffix _

theorem colon_mem_of_responseStatus? (h : (responseStatus? l).isSome) : ':' ∈ l := by
  obtain ⟨n, hn⟩ := Option.isSome_iff_exists.mp h
  unfold responseStatus? at hn
  simp only [Option.bind_eq_bind, Option.bind_eq_some_iff] at hn
  obtain ⟨r, hword, hn⟩ := hn
  split at hn
  · rename_i r' hopen
    obtain ⟨⟨m, r''⟩, hstatus, hn⟩ := Option.bind_eq_some_iff.mp hn
    split at hn
    · rename_i tail hclose
      cases hclose
      split at hn
      · rename_i hcolon
        have htail : ':' ∈ tail :=
          (stripStart_suffix tail).subset (colon_mem_of_isColonOnly hcolon)
        have hr' : ':' ∈ r' :=
          (suffix_of_status?_eq_some hstatus).subset (List.mem_cons_of_mem _ htail)
        have hr : ':' ∈ r :=
          (stripStart_suffix r).subset (hopen ▸ List.mem_cons_of_mem _ hr')
        exact (stripStart_suffix l).subset ((Text.suffix_of_dropWord?_eq_some hword).subset hr)
      · cases hn
    · cases hn
  · cases hn

/-- Every heading has a colon. -/
theorem colon_mem_of_heading? (h : (heading? known l).isSome) : ':' ∈ l := by
  unfold heading? at h
  split at h
  · rename_i n hn
    exact colon_mem_of_responseStatus? (by rw [hn]; rfl)
  · rw [Option.isSome_map] at h
    exact colon_mem_of_sectionName? h

theorem heading?_eq_none_of_isBlankLine (h : isBlankLine l = true) : heading? known l = none := by
  rw [← Option.not_isSome_iff_eq_none]
  intro hsome
  have hcolon : Text.isBlank ':' = true := List.all_eq_true.mp h _ (colon_mem_of_heading? hsome)
  exact absurd hcolon (by decide)

/-! ## Blocks -/

theorem splitBlocks_cons_of_none (h : heading? known l = none) :
    splitBlocks known (l :: ls) =
      (l :: (splitBlocks known ls).1, (splitBlocks known ls).2) := by
  simp [splitBlocks, h]

theorem splitBlocks_cons_of_some {hd : Heading} (h : heading? known l = some hd) :
    splitBlocks known (l :: ls) =
      ([], ⟨hd, (splitBlocks known ls).1⟩ :: (splitBlocks known ls).2) := by
  simp [splitBlocks, h]

/-- Lines that are no headings stand before the first heading. -/
theorem splitBlocks_append (h : ∀ l ∈ ls, heading? known l = none) (ms : List Line) :
    splitBlocks known (ls ++ ms) =
      (ls ++ (splitBlocks known ms).1, (splitBlocks known ms).2) := by
  induction ls with
  | nil => rfl
  | cons l ls ih =>
    obtain ⟨hl, hls⟩ := List.forall_mem_cons.mp h
    rw [List.cons_append, splitBlocks_cons_of_none hl, ih hls]
    rfl

/-- The number of lines that the blocks take up, their headings included. -/
def Block.totalLength : List Block → Nat
  | [] => 0
  | b :: bs => b.lines.length + 1 + totalLength bs

/-- No line is lost. -/
theorem length_splitBlocks (known : List (List Char)) (ls : List Line) :
    (splitBlocks known ls).1.length + Block.totalLength (splitBlocks known ls).2 =
      ls.length := by
  induction ls with
  | nil => rfl
  | cons l ls ih =>
    cases h : heading? known l with
    | none =>
      simp only [splitBlocks_cons_of_none h, List.length_cons]
      omega
    | some hd =>
      simp only [splitBlocks_cons_of_some h, Block.totalLength, List.length_cons, List.length_nil]
      omega

/-- The blocks are the same with and without the summary. -/
theorem splitBlocks_splitSummary (known : List (List Char)) (ls : List Line) :
    (splitBlocks known (splitSummary known ls).2).2 = (splitBlocks known ls).2 := by
  fun_induction splitSummary known ls with
  | case1 => rfl
  | case2 l ls hblank => rw [splitBlocks_cons_of_none (heading?_eq_none_of_isBlankLine hblank)]
  | case3 => rfl
  | case4 l ls _ hnone summary rest hsplit ih =>
    rw [splitBlocks_cons_of_none (Option.not_isSome_iff_eq_none.mp hnone)]
    simpa [hsplit] using ih

/-! ## Contents -/

variable {bs : List Line}

theorem allBlank_unlines (h : ∀ l ∈ bs, isBlankLine l = true) :
    Text.AllBlank (Text.unlines bs) := by
  induction bs with
  | nil => exact List.forall_mem_nil _
  | cons b bs ih =>
    obtain ⟨hb, hbs⟩ := List.forall_mem_cons.mp h
    have hb : Text.AllBlank b := List.all_eq_true.mp hb
    cases bs with
    | nil => rwa [Text.unlines_singleton]
    | cons b' bs =>
      rw [Text.unlines_cons_cons]
      exact List.forall_mem_append.mpr ⟨hb, List.forall_mem_cons.mpr ⟨rfl, ih hbs⟩⟩

/-- Blank lines at the end of some lines put white space at the end of their text. -/
theorem unlines_append_blank (h : ∀ l ∈ bs, isBlankLine l = true) (ls : List Line) :
    ∃ x, Text.AllBlank x ∧ Text.unlines (ls ++ bs) = Text.unlines ls ++ x := by
  induction ls with
  | nil => exact ⟨_, allBlank_unlines h, rfl⟩
  | cons l ls ih =>
    cases ls with
    | nil =>
      cases bs with
      | nil => exact ⟨[], List.forall_mem_nil _, (List.append_nil _).symm⟩
      | cons b bs =>
        refine ⟨'\n' :: Text.unlines (b :: bs), ?_, ?_⟩
        · exact List.forall_mem_cons.mpr ⟨rfl, allBlank_unlines h⟩
        · rw [Text.unlines_singleton]
          exact Text.unlines_cons_cons l b bs
    | cons m ls =>
      obtain ⟨x, hx, heq⟩ := ih
      refine ⟨x, hx, ?_⟩
      calc Text.unlines (l :: m :: ls ++ bs)
          = l ++ '\n' :: Text.unlines (m :: ls ++ bs) := Text.unlines_cons_cons l m (ls ++ bs)
        _ = l ++ '\n' :: Text.unlines (m :: ls) ++ x := by rw [heq, List.append_assoc]; rfl
        _ = Text.unlines (l :: m :: ls) ++ x := by rw [Text.unlines_cons_cons]

theorem contentOf_append_blank (h : ∀ l ∈ bs, isBlankLine l = true) (ls : List Line) :
    contentOf (ls ++ bs) = contentOf ls := by
  obtain ⟨x, hx, heq⟩ := unlines_append_blank h ls
  rw [contentOf, heq, Text.strip_append_allBlank hx, contentOf]

theorem contentOf_nil_cons (ls : List Line) : contentOf ([] :: ls) = contentOf ls := by
  cases ls with
  | nil => rfl
  | cons l ls =>
    rw [contentOf, Text.unlines_cons_cons]
    exact Text.strip_allBlank_append (a := ['\n']) (List.forall_mem_singleton.mpr rfl) _

theorem returnOf_append_blank (h : ∀ l ∈ bs, isBlankLine l = true) (ls : List Line) :
    returnOf (ls ++ bs) = returnOf ls := by
  rw [returnOf, returnOf, strippedLines, strippedLines, contentOf_append_blank h]

/-! ## Reading sections -/

theorem addSection_description (d : Docstring) (ls : List Line) :
    addSection d ⟨[], ls⟩ =
      { d with description := addDescription d.description (contentOf ls) } := rfl

/-- Blank lines describe nothing. -/
theorem addSection_blank (h : ∀ l ∈ bs, isBlankLine l = true) (d : Docstring) :
    addSection d ⟨[], bs⟩ = d := by
  have hcontent : contentOf bs = [] := contentOf_append_blank h []
  rw [addSection_description, hcontent]
  rfl

theorem splitBlocks_blank (known : List (List Char)) (h : ∀ l ∈ bs, isBlankLine l = true) :
    splitBlocks known bs = (bs, []) := by
  have hnone : ∀ l ∈ bs, heading? known l = none := fun l hl =>
    heading?_eq_none_of_isBlankLine (h l hl)
  simpa [splitBlocks] using splitBlocks_append hnone []

/-- The sections of some lines are read one block after the other, the description first. -/
theorem foldl_sectionsOf (known : List (List Char)) (d : Docstring) (ls : List Line) :
    (sectionsOf known ls).foldl addSection d =
      ((splitBlocks known ls).2.filterMap Block.section?).foldl addSection
        (addSection d ⟨[], (splitBlocks known ls).1⟩) := by
  unfold sectionsOf
  split
  · rename_i hblank
    have hblank := List.all_eq_true.mp hblank
    rw [splitBlocks_blank known hblank, addSection_blank hblank]
    rfl
  · cases hbefore : (splitBlocks known ls).1 with
    | nil => simp [hbefore, addSection_blank (List.forall_mem_nil _)]
    | cons l before => simp [hbefore]

theorem addSection_args (d : Docstring) (ls : List Line) :
    addSection d ⟨"Args".toList, ls⟩ = { d with args := argsOf ls } := rfl

theorem addSection_returns (d : Docstring) (ls : List Line) :
    addSection d ⟨"Returns".toList, ls⟩ = { d with returns := returnOf ls } := rfl

theorem addSection_raises (d : Docstring) (ls : List Line) :
    addSection d ⟨"Raises".toList, ls⟩ = { d with raises := raisesOf ls } := rfl

/-! ## Written sections -/

/-- A section as it is written: its heading with a colon, and its lines. -/
def Section.written (s : Section) : List Line := (s.name ++ [':']) :: s.lines

/-- The heading of the section is one, and its lines are none. -/
structure Section.IsWritten (known : List (List Char)) (s : Section) : Prop where
  name : s.name ≠ []
  heading : heading? known (s.name ++ [':']) = some (.named s.name)
  lines : ∀ l ∈ s.lines, heading? known l = none

/-- The section `t` is `s` with blank lines at its end. -/
def Padded (s t : Section) : Prop :=
  ∃ bs : List Line, (∀ l ∈ bs, isBlankLine l = true) ∧ t = ⟨s.name, s.lines ++ bs⟩

/-- Sections that are written with an empty line before each are found again, apart from
    blank lines at their ends, and nothing else is. -/
theorem splitBlocks_written {ss : List Section} (h : ∀ s ∈ ss, s.IsWritten known)
    (hbs : ∀ l ∈ bs, isBlankLine l = true) :
    ∃ before blocks,
      splitBlocks known (ss.flatMap (fun s => [] :: s.written) ++ bs) = (before, blocks) ∧
      (∀ l ∈ before, isBlankLine l = true) ∧
      List.Forall₂ Padded ss (blocks.filterMap Block.section?) ∧
      blocks.filterMap Block.response? = [] := by
  induction ss with
  | nil => exact ⟨bs, [], splitBlocks_blank known hbs, hbs, .nil, rfl⟩
  | cons s ss ih =>
    obtain ⟨hs, hss⟩ := List.forall_mem_cons.mp h
    obtain ⟨before, blocks, hsplit, hbefore, hpadded, hresponses⟩ := ih hss
    have hempty : heading? known [] = none := heading?_eq_none_of_isBlankLine rfl
    have hsection : Block.section? ⟨.named s.name, s.lines ++ before⟩ =
        some ⟨s.name, s.lines ++ before⟩ := by simp [Block.section?, hs.name]
    refine ⟨[[]], ⟨.named s.name, s.lines ++ before⟩ :: blocks, ?_, by simp [isBlankLine], ?_, ?_⟩
    · rw [List.flatMap_cons, Section.written, List.append_assoc, List.cons_append,
        List.cons_append, splitBlocks_cons_of_none hempty, splitBlocks_cons_of_some hs.heading,
        splitBlocks_append hs.lines, hsplit]
    · rw [List.filterMap_cons_some hsection]
      exact .cons ⟨before, hbefore, rfl⟩ hpadded
    · rw [List.filterMap_cons_none rfl, hresponses]

/-- The headings of the sections about calling a function. -/
def callHeadings : List Line := ["Args".toList, "Returns".toList, "Raises".toList]

theorem addSection_padded {s t : Section} (h : Padded s t) (hname : s.name ∈ callHeadings)
    (d : Docstring) :
    addSection d t = addSection d s := by
  obtain ⟨bs, hbs, rfl⟩ := h
  obtain ⟨name, ls⟩ := s
  simp only [callHeadings, List.mem_cons, List.not_mem_nil, or_false] at hname
  rcases hname with rfl | rfl | rfl
  · rw [addSection_args, addSection_args, argsOf_append_blank hbs]
  · rw [addSection_returns, addSection_returns, returnOf_append_blank hbs]
  · rw [addSection_raises, addSection_raises, raisesOf_append_blank hbs]

theorem foldl_addSection_padded {ss ts : List Section} (h : List.Forall₂ Padded ss ts)
    (hname : ∀ s ∈ ss, s.name ∈ callHeadings) (d : Docstring) :
    ts.foldl addSection d = ss.foldl addSection d := by
  induction h generalizing d with
  | nil => rfl
  | cons hpadded _ ih =>
    obtain ⟨hs, hss⟩ := List.forall_mem_cons.mp hname
    rw [List.foldl_cons, List.foldl_cons, addSection_padded hpadded hs, ih hss]

end Docsmith.Docstring
