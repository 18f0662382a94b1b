-- SUMMARY: How far a documentation text is indented does not matter to what is read from it.
import Docsmith.Docstring.Parse
import Docsmith.Proofs.Docstring.Item
import Mathlib.Data.List.Forall2

/-!
# Margins of documentation texts

Removing the margin gives the same lines, whatever white space stands in front of
the lines after the first, as long as it is of one length. So a text may be
indented by any number of blanks, and lines without a margin are left alone.
-/

namespace Docsmith.Text

variable {cs : List Char}

/-! ## Indenting a text -/

/-- The blanks in front of a line; where the text ends, no line is opened. -/
def marginOf (k : Nat) (cs : List Char) : List Char :=
  if cs.isEmpty then [] else List.replicate k ' '

/-- The text with blanks in front of every line after the first. -/
def indentBelow (k : Nat) : List Char → List Char
  | [] => []
  | '\r' :: '\n' :: cs => '\r' :: '\n' :: (marginOf k cs ++ indentBelow k cs)
  | c :: cs => c :: ((if isBreak c then marginOf k cs else []) ++ indentBelow k cs)

/-- The lines with blanks in front of every one after the first. -/
def indentRest (k : Nat) : List (List Char) → List (List Char)
  | [] => []
  | l :: ls => l :: ls.map (List.replicate k ' ' ++ ·)

/-- The first character stays, since the first line is not indented. -/
theorem exists_indentBelow_cons (k : Nat) (c : Char) (cs : List Char) :
    ∃ ds, indentBelow k (c :: cs) = c :: ds := by
  unfold indentBelow
  split
  · rename_i heq
    cases heq
  · rename_i heq
    obtain ⟨rfl, rfl⟩ := List.cons.inj heq
    exact ⟨_, rfl⟩
  · rename_i heq
    obtain ⟨rfl, rfl⟩ := List.cons.inj heq
    exact ⟨_, rfl⟩

/-- Blanks do not make a line feed follow a carriage return. -/
theorem marginOf_append_ne (k : Nat) (hcs : ∀ ds, cs ≠ '\n' :: ds) (ds : List Char) :
    marginOf k cs ++ indentBelow k cs ≠ '\n' :: ds := by
  cases cs with
  | nil => simp [marginOf, indentBelow]
  | cons c cs =>
    obtain ⟨es, hes⟩ := exists_indentBelow_cons k c cs
    rw [hes, marginOf, if_neg (by simp)]
    cases k with
    | zero =>
      intro heq
      exact hcs cs (by simp_all)
    | succ k => simp [List.replicate_succ]

theorem linesFrom_crlf (line cs : List Char) :
    linesFrom line [] ('\r' :: '\n' :: cs) = line.reverse :: lines cs := by
  rw [linesFrom]
  exact linesFrom_append [] [] [line.reverse] cs

theorem linesFrom_break (line : List Char) {c : Char} (hc : isBreak c = true)
    (hcrlf : ∀ ds, c = '\r' → cs = '\n' :: ds → False) :
    linesFrom line [] (c :: cs) = line.reverse :: lines cs := by
  rw [linesFrom.eq_3 _ _ _ _ hcrlf, if_pos hc]
  exact linesFrom_append [] [] [line.reverse] cs

/-- What was read of the first line is put in front of it. -/
theorem exists_linesFrom_eq (hne : cs ≠ []) :
    ∃ l ls, ∀ line, linesFrom line [] cs = (line.reverse ++ l) :: ls := by
  induction cs with
  | nil => exact absurd rfl hne
  | cons c cs ih =>
    by_cases hc : isBreak c = true
    · refine ⟨[], ?_⟩
      simp only [List.append_nil]
      by_cases hcrlf : ∃ ds, c = '\r' ∧ cs = '\n' :: ds
      · obtain ⟨ds, rfl, rfl⟩ := hcrlf
        exact ⟨lines ds, fun line => linesFrom_crlf line ds⟩
      · refine ⟨lines cs, fun line => linesFrom_break line hc ?_⟩
        intro ds hcr hds
        exact hcrlf ⟨ds, hcr, hds⟩
    · rw [Bool.not_eq_true] at hc
      simp only [linesFrom_cons_of_not_isBreak _ _ hc]
      rcases eq_or_ne cs [] with rfl | hcs
      · exact ⟨[c], [], fun line => by simp [linesFrom]⟩
      · obtain ⟨l, ls, hlines⟩ := ih hcs
        exact ⟨c :: l, ls, fun line => by simp [hlines]⟩

/-- After a break the blanks are the start of the line that is read next. -/
theorem lines_marginOf_append {k : Nat}
    (h : ∀ line, linesFrom line [] (indentBelow k cs) = indentRest k (linesFrom line [] cs)) :
    lines (marginOf k cs ++ indentBelow k cs) = (lines cs).map (List.replicate k ' ' ++ ·) := by
  rcases eq_or_ne cs [] with rfl | hne
  · rfl
  · obtain ⟨l, ls, hlines⟩ := exists_linesFrom_eq hne
    have hblanks : NoBreak (List.replicate k ' ') := by
      intro c hc
      rw [List.eq_of_mem_replicate hc]
      rfl
    have hcs : lines cs = l :: ls := hlines []
    have hmargin : marginOf k cs = List.replicate k ' ' := if_neg (by simpa using hne)
    rw [hmargin, lines, linesFrom_of_noBreak [] hblanks, h, hlines, hcs]
    simp [indentRest]

/-- The line being read is general, since it holds the blanks once a break is passed. -/
theorem linesFrom_indentBelow (k : Nat) (line cs : List Char) :
    linesFrom line [] (indentBelow k cs) = indentRest k (linesFrom line [] cs) := by
  induction cs using indentBelow.induct generalizing line with
  | case1 =>
    by_cases hline : line = [] <;> simp [indentBelow, linesFrom, indentRest, hline]
  | case2 cs ih =>
    rw [indentBelow, linesFrom_crlf, linesFrom_crlf, lines_marginOf_append ih]
    rfl
  | case3 c cs hcrlf ih =>
    rw [indentBelow.eq_3 _ _ _ hcrlf]
    by_cases hc : isBreak c = true
    · have hcrlf' : ∀ ds, c = '\r' → marginOf k cs ++ indentBelow k cs = '\n' :: ds → False := by
        intro ds hcr
        exact marginOf_append_ne k (fun es => hcrlf es hcr) ds
      rw [if_pos hc, linesFrom_break line hc hcrlf, linesFrom_break line hc hcrlf',
        lines_marginOf_append ih]
      rfl
    · rw [Bool.not_eq_true] at hc
      rw [hc, linesFrom_cons_of_not_isBreak _ _ hc, linesFrom_cons_of_not_isBreak _ _ hc]
      exact ih (c :: line)

theorem lines_indentBelow (k : Nat) (cs : List Char) :
    lines (indentBelow k cs) = indentRest k (lines cs) :=
  linesFrom_indentBelow k [] cs

/-! ## Characters of lines -/

theorem mem_linesFrom_iff {c : Char} (hc : isBreak c = false) (line : List Char)
    (found : List (List Char)) (cs : List Char) :
    (∃ l ∈ linesFrom line found cs, c ∈ l) ↔ c ∈ line ∨ (∃ l ∈ found, c ∈ l) ∨ c ∈ cs := by
  have hne {d : Char} (hd : isBreak d = true) : c ≠ d := by
    rintro rfl
    rw [hc] at hd
    cases hd
  fun_induction linesFrom line found cs with
  | case1 line found => by_cases hline : line = [] <;> simp [hline, or_comm]
  | case2 line found cs ih => simp [ih, hne (d := '\r') rfl, hne (d := '\n') rfl, or_assoc]
  | case3 line found d cs _ hd ih => simp [ih, hne hd, or_assoc]
  | case4 line found d cs _ _ ih =>
    refine ih.trans ?_
    simp only [List.mem_cons, or_assoc, or_left_comm]

/-- The characters of the lines are those of the text that are no line breaks. -/
theorem mem_lines_iff {c : Char} (hc : isBreak c = false) : (∃ l ∈ lines cs, c ∈ l) ↔ c ∈ cs :=
  (mem_linesFrom_iff hc [] [] cs).trans (by simp)

/-- Indenting puts nothing but blanks into the lines. -/
theorem mem_of_mem_indentRest {k : Nat} {ls : List (List Char)} {l : List Char} {c : Char}
    (hl : l ∈ indentRest k ls) (hc : c ∈ l) (hne : c ≠ ' ') : ∃ m ∈ ls, c ∈ m := by
  cases ls with
  | nil => cases hl
  | cons m ls =>
    rcases List.mem_cons.mp hl with rfl | hl
    · exact ⟨l, List.mem_cons_self, hc⟩
    · obtain ⟨n, hn, rfl⟩ := List.mem_map.mp hl
      rcases List.mem_append.mp hc with hc | hc
      · exact absurd (List.eq_of_mem_replicate hc) hne
      · exact ⟨n, List.mem_cons_of_mem m hn, hc⟩

theorem not_mem_of_lines_eq {ds : List Char} {k : Nat} {c : Char} (hbreak : isBreak c = false)
    (hne : c ≠ ' ') (h : lines ds = indentRest k (lines cs)) (hcs : c ∉ cs) : c ∉ ds := by
  intro hds
  obtain ⟨l, hl, hc⟩ := (mem_lines_iff hbreak).mpr hds
  rw [h] at hl
  exact hcs ((mem_lines_iff hbreak).mp (mem_of_mem_indentRest hl hc hne))

theorem lines_eq_nil_iff : lines cs = [] ↔ cs = [] := by
  constructor
  · intro h
    by_contra hne
    obtain ⟨l, ls, hlines⟩ := exists_linesFrom_eq hne
    rw [lines, hlines] at h
    cases h
  · rintro rfl
    rfl

theorem indentRest_eq_nil_iff {k : Nat} {ls : List (List Char)} :
    indentRest k ls = [] ↔ ls = [] := by
  cases ls <;> simp [indentRest]

end Docsmith.Text

namespace Docsmith.Docstring

variable {k : Nat} {l l' first first' : Line} {rest rest' : List Line}

/-! ## Lines that stand further to the right -/

/-- The second line is the first one with so much more white space in front, or both are
    blank. -/
def Shifted (k : Nat) (l l' : Line) : Prop :=
  (isBlankLine l = true ∧ isBlankLine l' = true)
    ∨ (isBlankLine l = false ∧ ∃ p, Text.AllBlank p ∧ p.length = k ∧ l' = p ++ l)

theorem Shifted.indent? (h : Shifted k l l') : indent? l' = (indent? l).map (· + k) := by
  rcases h with ⟨hl, hl'⟩ | ⟨hl, p, hp, hlength, rfl⟩
  · simp [Docstring.indent?, hl, hl']
  · have hstrip : Text.stripStart (p ++ l) = Text.stripStart l := List.dropWhile_append_of_pos hp
    have hle : (Text.stripStart l).length ≤ l.length := List.length_dropWhile_le ..
    have hindent : k + l.length - (Text.stripStart l).length
        = l.length - (Text.stripStart l).length + k := by
      omega
    simp [Docstring.indent?, isBlankLine_append hp, hl, hstrip, hlength, hindent]

/-- The line without its margin. -/
def cutMargin (margin : Nat) (l : Line) : Line := if isBlankLine l then [] else l.drop margin

theorem Shifted.cutMargin {m m' : Nat} (h : Shifted k l l')
    (hm : isBlankLine l = false → m' = m + k) : cutMargin m' l' = cutMargin m l := by
  rcases h with ⟨hl, hl'⟩ | ⟨hl, p, hp, hlength, rfl⟩
  · simp [Docstring.cutMargin, hl, hl']
  · have hdrop : (p ++ l).drop (m + k) = l.drop m := by
      rw [Nat.add_comm, ← hlength, List.drop_length_add_append]
    simp [Docstring.cutMargin, isBlankLine_append hp, hl, hm hl, hdrop]

/-! ## Margins -/

theorem leastIndent_map_add (k : Nat) {ns : List Nat} (hne : ns ≠ []) :
    leastIndent (ns.map (· + k)) = leastIndent ns + k := by
  obtain ⟨n, ns, rfl⟩ := List.exists_cons_of_ne_nil hne
  simp only [leastIndent, List.map_cons]
  induction ns generalizing n with
  | nil => rfl
  | cons m ns ih =>
    simp only [List.map_cons, List.foldl_cons, Nat.add_min_add_right]
    exact ih (min n m) (List.cons_ne_nil _ _)

theorem leastIndent_le {ns : List Nat} {n : Nat} (h : n ∈ ns) : leastIndent ns ≤ n := by
  have hfold (ns : List Nat) (m : Nat) : ns.foldl min m ≤ m ∧ ∀ n ∈ ns, ns.foldl min m ≤ n := by
    induction ns generalizing m with
    | nil => simp
    | cons k ns ih =>
      obtain ⟨hmin, hrest⟩ := ih (min m k)
      simp only [List.foldl_cons, List.forall_mem_cons]
      exact ⟨by omega, by omega, hrest⟩
  cases ns with
  | nil => cases h
  | cons m ns =>
    rcases List.mem_cons.mp h with rfl | h
    · exact (hfold ns n).1
    · exact (hfold ns m).2 n h

theorem filterMap_indent?_shifted (h : List.Forall₂ (Shifted k) rest rest') :
    rest'.filterMap indent? = (rest.filterMap indent?).map (· + k) := by
  induction h with
  | nil => rfl
  | @cons l l' rest rest' hl _ ih =>
    have hindent := hl.indent?
    cases hcase : indent? l with
    | none => simp [hcase, hindent, ih]
    | some n => simp [hcase, hindent, ih]

theorem map_cutMargin_shifted {m m' : Nat} (h : List.Forall₂ (Shifted k) rest rest')
    (hm : rest.filterMap indent? ≠ [] → m' = m + k) :
    rest'.map (cutMargin m') = rest.map (cutMargin m) := by
  induction h with
  | nil => rfl
  | @cons l l' rest rest' hl _ ih =>
    have hhead : cutMargin m' l' = cutMargin m l := by
      apply hl.cutMargin
      intro hfull
      apply hm
      simp [indent?, hfull]
    have htail : rest'.map (cutMargin m') = rest.map (cutMargin m) := by
      apply ih
      intro hne
      apply hm
      cases hcase : indent? l with
      | none => simpa [hcase] using hne
      | some n => simp [hcase]
    rw [List.map_cons, List.map_cons, hhead, htail]

/-- Shifting the lines after the first does not change what is left without the margin. -/
theorem dedent_shifted (hfirst : Text.strip first' = Text.strip first)
    (h : List.Forall₂ (Shifted k) rest rest') :
    dedent (first' :: rest') = dedent (first :: rest) := by
  have hrest := map_cutMargin_shifted (m := leastIndent (rest.filterMap indent?)) h
    (leastIndent_map_add k)
  rw [← filterMap_indent?_shifted h] at hrest
  simp only [dedent, hfirst]
  exact congrArg _ hrest

/-- A line is shifted from what is left of it without a margin that it has. -/
theorem shifted_cutMargin {m : Nat} (h : ∀ n ∈ indent? l, m ≤ n) : Shifted m (cutMargin m l) l := by
  by_cases hblank : isBlankLine l = true
  · exact .inl ⟨by rw [cutMargin, if_pos hblank]; rfl, hblank⟩
  · have hfull : isBlankLine l = false := Bool.not_eq_true _ ▸ hblank
    have hends : l.takeWhile Text.isBlank ++ Text.stripStart l = l :=
      List.takeWhile_append_dropWhile
    have hm : m ≤ (l.takeWhile Text.isBlank).length := by
      have hindent : indent? l = some (l.length - (Text.stripStart l).length) := by
        simp [indent?, hfull]
      have hlength := congrArg List.length hends
      rw [List.length_append] at hlength
      have hle := h _ hindent
      omega
    have htake : l.take m = (l.takeWhile Text.isBlank).take m := by
      rw [← List.take_append_of_le_length hm, hends]
    have hblanks : Text.AllBlank (l.take m) := by
      intro c hc
      rw [htake] at hc
      exact List.mem_takeWhile_imp (List.mem_of_mem_take hc)
    have hcut : l.take m ++ l.drop m = l := List.take_append_drop m l
    rw [cutMargin, hfull]
    refine .inr ⟨?_, l.take m, hblanks, ?_, hcut.symm⟩
    · have hsame := isBlankLine_append hblanks (l.drop m)
      rw [hcut, hfull] at hsame
      exact hsame.symm
    · rw [htake, List.length_take_of_le hm]

theorem dedent_dedent (ls : List Line) : dedent (dedent ls) = dedent ls := by
  cases ls with
  | nil => rfl
  | cons first rest =>
    -- The lines are what is left of them, shifted by the margin.
    have hrest : List.Forall₂ (Shifted (leastIndent (rest.filterMap indent?)))
        (rest.map (cutMargin (leastIndent (rest.filterMap indent?)))) rest := by
      rw [List.forall₂_map_left_iff, List.forall₂_same]
      intro l hl
      apply shifted_cutMargin
      intro n hn
      exact leastIndent_le (List.mem_filterMap.mpr ⟨l, hl, hn⟩)
    exact (dedent_shifted (Text.strip_strip first).symm hrest).symm

theorem dedent_indentRest (k : Nat) (ls : List Line) :
    dedent (Text.indentRest k ls) = dedent ls := by
  cases ls with
  | nil => rfl
  | cons first rest =>
    apply dedent_shifted rfl
    rw [List.forall₂_map_right_iff, List.forall₂_same]
    intro l _
    have hblanks := Text.allBlank_replicate k
    cases hl : isBlankLine l with
    | true => exact .inl ⟨hl, (isBlankLine_append hblanks l).trans hl⟩
    | false => exact .inr ⟨hl, _, hblanks, List.length_replicate, rfl⟩

/-! ## Documentation texts -/

theorem dedentedLines_of_lines_eq {cs ds : List Char} (htabs : '\t' ∉ cs)
    (h : Text.lines ds = Text.indentRest k (Text.lines cs)) :
    dedentedLines ds = dedentedLines cs := by
  have htabs' : '\t' ∉ ds := Text.not_mem_of_lines_eq rfl (by decide) h htabs
  unfold dedentedLines
  rw [Text.expandTabs_of_not_mem 4 htabs', Text.expandTabs_of_not_mem 4 htabs, h, dedent_indentRest]

theorem parse_of_lines_eq (kinds : List CustomKind) (hint : Option Kind) {text text' : String}
    (htabs : '\t' ∉ text.toList)
    (h : Text.lines text'.toList = Text.indentRest k (Text.lines text.toList)) :
    parse kinds hint text' = parse kinds hint text := by
  have hempty : text'.isEmpty = text.isEmpty := by
    rw [Bool.eq_iff_iff, String.isEmpty_iff, String.isEmpty_iff, ← String.toList_eq_nil_iff,
      ← String.toList_eq_nil_iff, ← Text.lines_eq_nil_iff, h, Text.indentRest_eq_nil_iff,
      Text.lines_eq_nil_iff]
  unfold parse
  rw [hempty, dedentedLines_of_lines_eq htabs h]

/-- Nothing but what the lines hold is left of them. -/
theorem exists_mem_of_mem_dedent {ls : List Line} {c : Char} (hl : l ∈ dedent ls) (hc : c ∈ l) :
    ∃ m ∈ ls, c ∈ m := by
  cases ls with
  | nil => cases hl
  | cons first rest =>
    rcases List.mem_cons.mp hl with rfl | hl
    · exact ⟨first, List.mem_cons_self, Text.mem_of_mem_strip hc⟩
    · obtain ⟨m, hm, rfl⟩ := List.mem_map.mp hl
      refine ⟨m, List.mem_cons_of_mem first hm, ?_⟩
      split at hc
      · cases hc
      · exact List.mem_of_mem_drop hc

theorem splitAtChar_unlines_dedent {ls : List Line} (hne : ls ≠ []) (h : ∀ l ∈ ls, '\n' ∉ l) :
    Text.splitAtChar '\n' (Text.unlines (dedent ls)) = dedent ls := by
  apply Text.splitAtChar_unlines
  · cases ls with
    | nil => exact absurd rfl hne
    | cons first rest => simp [dedent]
  · intro l hl hfeed
    obtain ⟨m, hm, hmem⟩ := exists_mem_of_mem_dedent hl hfeed
    exact h m hm hmem

/-- What is read from a text without tabulators does not hang on how far the lines after the first
    are indented, whatever line breaks stand between them. Removing the margin once more, from the
    lines between the line feeds of the text that is left, gives that text again. -/
theorem parse_indented (kinds : List CustomKind) (hint : Option Kind) (text : String)
    (htabs : '\t' ∉ text.toList) (k : Nat) :
    parse kinds hint (String.ofList (Text.indentBelow k text.toList)) = parse kinds hint text
      ∧ (∀ text' : String, Text.lines text'.toList = Text.indentRest k (Text.lines text.toList) →
          parse kinds hint text' = parse kinds hint text)
      ∧ ∀ ls : List Line, (∀ l ∈ ls, '\n' ∉ l) →
          Text.unlines (dedent (Text.splitAtChar '\n' (Text.unlines (dedent ls))))
            = Text.unlines (dedent ls) := by
  refine ⟨?_, fun text' => parse_of_lines_eq kinds hint htabs, ?_⟩
  · apply parse_of_lines_eq kinds hint htabs
    rw [String.toList_ofList]
    exact Text.lines_indentBelow k text.toList
  · intro ls hls
    rcases eq_or_ne ls [] with rfl | hne
    · rfl
    · rw [splitAtChar_unlines_dedent hne hls, dedent_dedent]

/-- A text whose arguments stand further to the right than their heading. -/
def addText : String := "Add.\r\n\n  Args:\n      a: left\n"

/-- Every line after the first of such a text is indented, and nothing is put behind its end. -/
theorem addText_indented :
    '\t' ∉ addText.toList
      ∧ String.ofList (Text.indentBelow 2 addText.toList)
        = "Add.\r\n  \n    Args:\n        a: left\n"
      ∧ parse [] none (String.ofList (Text.indentBelow 2 addText.toList)) = parse [] none addText
      ∧ parse [] none "Add.\n  \n    Args:\n        a: left" = parse [] none addText
      ∧ Text.unlines (dedent (Text.splitAtChar '\n' (Text.unlines (dedent [[], "  a".toList]))))
        = Text.unlines (dedent [[], "  a".toList]) := by
  have htabs : '\t' ∉ addText.toList := by decide
  obtain ⟨hbelow, hlines, hmargin⟩ := parse_indented [] none addText htabs 2
  exact ⟨htabs, by decide, hbelow, hlines _ (by decide), hmargin _ (by decide)⟩

end Docsmith.Docstring
