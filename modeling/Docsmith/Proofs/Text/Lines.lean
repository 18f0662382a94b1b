-- SUMMARY: Joined lines are read back as the lines they were joined from.
import Docsmith.Text.Lines
import Docsmith.Text.Strip
import Mathlib.Data.List.TakeWhile

/-!
# Lines and white space

A text without tabulators is left alone by their expansion, and lines that hold
no line break are read back from the text that joins them. A text is stripped
when it neither starts nor ends with white space; white space around such a text
is what stripping removes.
-/

namespace Docsmith.Text

variable {cs l : List Char} {ls : List (List Char)}

/-! ## Tabulators -/

theorem expandTabsFrom_of_not_mem (width column : Nat) (out : List Char) (h : '\t' ∉ cs) :
    expandTabsFrom width column out cs = out.reverse ++ cs := by
  induction cs generalizing column out with
  | nil => simp [expandTabsFrom]
  | cons c cs ih =>
    rw [List.mem_cons, not_or] at h
    have hne : (c == '\t') = false := beq_eq_false_iff_ne.mpr (Ne.symm h.1)
    simp [expandTabsFrom, hne, ih _ _ h.2]

theorem expandTabs_of_not_mem (width : Nat) (h : '\t' ∉ cs) : expandTabs width cs = cs :=
  expandTabsFrom_of_not_mem width 0 [] h

theorem unifyBreaksFrom_of_not_mem (out : List Char) (h : '\r' ∉ cs) :
    unifyBreaksFrom out cs = out.reverse ++ cs := by
  induction cs generalizing out with
  | nil => simp [unifyBreaksFrom]
  | cons c cs ih =>
    rw [List.mem_cons, not_or] at h
    have hne : c ≠ '\r' := Ne.symm h.1
    simp [unifyBreaksFrom, hne, ih _ h.2]

theorem unifyBreaks_of_not_mem (h : '\r' ∉ cs) : unifyBreaks cs = cs :=
  unifyBreaksFrom_of_not_mem [] h

/-! ## Lines -/

/-- The characters hold no line break. -/
def NoBreak (cs : List Char) : Prop := ∀ c ∈ cs, isBreak c = false

/-- The lines found before stay in front. -/
theorem linesFrom_append (line : List Char) (found before : List (List Char)) (cs : List Char) :
    linesFrom line (found ++ before) cs = before.reverse ++ linesFrom line found cs := by
  fun_induction linesFrom line found cs with
  | case1 line found => by_cases hline : line = [] <;> simp [linesFrom, hline]
  | case2 line found cs ih => rw [linesFrom, ← ih, List.cons_append]
  | case3 line found c cs hcr hbreak ih =>
    rw [linesFrom.eq_3 _ _ _ _ hcr, if_pos hbreak, ← ih, List.cons_append]
  | case4 line found c cs hcr hbreak ih =>
    rw [linesFrom.eq_3 _ _ _ _ hcr, if_neg hbreak, ← ih]

theorem linesFrom_cons_of_not_isBreak (line : List Char) (found : List (List Char)) {c : Char}
    (hc : isBreak c = false) (cs : List Char) :
    linesFrom line found (c :: cs) = linesFrom (c :: line) found cs := by
  have hcr : ∀ ds, c = '\r' → cs = '\n' :: ds → False := by
    rintro ds rfl -
    exact absurd hc (by decide)
  rw [linesFrom.eq_3 _ _ _ _ hcr, if_neg (by simp [hc])]

/-- What holds no line break belongs to the line being read. -/
theorem linesFrom_of_noBreak (line : List Char) (h : NoBreak l) (cs : List Char) :
    linesFrom line [] (l ++ cs) = linesFrom (l.reverse ++ line) [] cs := by
  induction l generalizing line with
  | nil => rfl
  | cons c l ih =>
    obtain ⟨hc, hl⟩ := List.forall_mem_cons.mp h
    rw [List.cons_append, linesFrom_cons_of_not_isBreak _ _ hc, ih _ hl, List.reverse_cons,
      List.append_assoc, List.singleton_append]

/-- A line feed ends a line. -/
theorem lines_append_newline (h : NoBreak l) (cs : List Char) :
    lines (l ++ '\n' :: cs) = l :: lines cs := by
  have hbreak : linesFrom l.reverse [] ('\n' :: cs) = linesFrom [] [l] cs := by
    rw [linesFrom.eq_3 _ _ _ _ (fun _ h _ => absurd h (by decide)), if_pos (by decide),
      List.reverse_reverse]
  rw [lines, linesFrom_of_noBreak [] h, List.append_nil, hbreak]
  exact linesFrom_append [] [] [l] cs

theorem lines_of_noBreak (h : NoBreak l) (hne : l ≠ []) : lines l = [l] := by
  have hread := linesFrom_of_noBreak [] h []
  rw [List.append_nil, List.append_nil] at hread
  rw [lines, hread]
  simp [linesFrom, hne]

theorem lines_replicate_newline (n : Nat) :
    lines (List.replicate n '\n') = List.replicate n [] := by
  induction n with
  | zero => rfl
  | succ n ih =>
    rw [List.replicate_succ, List.replicate_succ, ← ih]
    exact lines_append_newline (l := []) (List.forall_mem_nil _) _

theorem joinWith_cons_cons (sep l m : List Char) (ls : List (List Char)) :
    joinWith sep (l :: m :: ls) = l ++ sep ++ joinWith sep (m :: ls) := by
  simp [joinWith]

theorem mem_joinWith {sep : List Char} {c : Char} (h : c ∈ joinWith sep ls) :
    c ∈ sep ∨ ∃ l ∈ ls, c ∈ l := by
  induction ls with
  | nil => cases h
  | cons m ls ih =>
    cases ls with
    | nil => exact .inr ⟨m, List.mem_cons_self, by simpa [joinWith] using h⟩
    | cons k ls =>
      rw [joinWith_cons_cons, List.mem_append, List.mem_append] at h
      rcases h with (hm | hsep) | hrest
      · exact .inr ⟨m, List.mem_cons_self, hm⟩
      · exact .inl hsep
      · obtain hsep | ⟨l, hl, hc⟩ := ih hrest
        · exact .inl hsep
        · exact .inr ⟨l, List.mem_cons_of_mem m hl, hc⟩

theorem unlines_cons_cons (l m : List Char) (ls : List (List Char)) :
    unlines (l :: m :: ls) = l ++ '\n' :: unlines (m :: ls) := by
  simp [unlines, joinWith]

theorem unlines_singleton (l : List Char) : unlines [l] = l := by
  simp [unlines, joinWith]

theorem unlines_concat (hne : ls ≠ []) (l : List Char) :
    unlines (ls ++ [l]) = unlines ls ++ '\n' :: l := by
  induction ls with
  | nil => exact absurd rfl hne
  | cons m ls ih =>
    cases ls with
    | nil => rw [unlines_singleton, List.singleton_append, unlines_cons_cons, unlines_singleton]
    | cons k ls =>
      rw [List.cons_append, List.cons_append, unlines_cons_cons, ← List.cons_append,
        ih (List.cons_ne_nil k ls), unlines_cons_cons, List.append_assoc, List.cons_append]

theorem mem_unlines {c : Char} (h : c ∈ unlines ls) : c = '\n' ∨ ∃ l ∈ ls, c ∈ l :=
  (mem_joinWith h).imp_left List.mem_singleton.mp

/-- Lines that hold no line break, the last of them not empty, are read back. Line feeds at the
    end, the first of them apart, are empty lines. -/
theorem lines_unlines_append (h : ∀ l ∈ ls, NoBreak l) (hlast : l ≠ []) (hl : NoBreak l)
    (n : Nat) : lines (unlines (ls ++ [l]) ++ List.replicate n '\n') =
      ls ++ l :: List.replicate (n - 1) [] := by
  induction ls with
  | nil =>
    cases n with
    | zero => simpa [unlines, joinWith] using lines_of_noBreak hl hlast
    | succ n =>
      simpa [unlines, joinWith, List.replicate_succ, lines_replicate_newline] using
        lines_append_newline hl (List.replicate n '\n')
  | cons m ls ih =>
    obtain ⟨hm, hls⟩ := List.forall_mem_cons.mp h
    have hjoin : unlines (m :: ls ++ [l]) = m ++ '\n' :: unlines (ls ++ [l]) := by
      cases ls with
      | nil => exact unlines_cons_cons m l []
      | cons k ls => exact unlines_cons_cons m k (ls ++ [l])
    rw [hjoin, List.append_assoc, List.cons_append, lines_append_newline hm, ih hls]
    rfl

/-! ## Tabulators in lines -/

theorem expandTabsFrom_eq_append (width column : Nat) (out cs : List Char) :
    expandTabsFrom width column out cs = out.reverse ++ expandTabsFrom width column [] cs := by
  induction cs generalizing column out with
  | nil => simp [expandTabsFrom]
  | cons c cs ih =>
    unfold expandTabsFrom
    split
    · dsimp only
      rw [ih, ih _ (List.replicate _ ' ' ++ [])]
      simp
    · split
      · rw [ih, ih _ [c]]
        simp
      · rw [ih, ih _ [c]]
        simp

/-- Columns are counted from the line feed on. -/
theorem expandTabsFrom_newline (width column : Nat) (out cs : List Char) (h : NoBreak l) :
    expandTabsFrom width column out (l ++ '\n' :: cs)
      = expandTabsFrom width column out l ++ '\n' :: expandTabs width cs := by
  induction l generalizing column out with
  | nil =>
    have hfeed : expandTabsFrom width column out ('\n' :: cs)
        = expandTabsFrom width 0 ('\n' :: out) cs := rfl
    rw [List.nil_append, hfeed, expandTabsFrom_eq_append]
    simp [expandTabsFrom, expandTabs]
  | cons c l ih =>
    have hl := (List.forall_mem_cons.mp h).2
    rw [List.cons_append, expandTabsFrom, expandTabsFrom]
    split
    · exact ih _ _ hl
    · split
      · exact ih _ _ hl
      · exact ih _ _ hl

theorem expandTabs_newline (width : Nat) (cs : List Char) (h : NoBreak l) :
    expandTabs width (l ++ '\n' :: cs) = expandTabs width l ++ '\n' :: expandTabs width cs :=
  expandTabsFrom_newline width 0 [] cs h

theorem mem_expandTabsFrom {width column : Nat} {out : List Char} {c : Char}
    (h : c ∈ expandTabsFrom width column out cs) : c = ' ' ∨ c ∈ out ∨ c ∈ cs := by
  induction cs generalizing column out with
  | nil => exact .inr (.inl (List.mem_reverse.mp h))
  | cons d cs ih =>
    unfold expandTabsFrom at h
    split at h
    · rcases ih h with hblank | hout | hcs
      · exact .inl hblank
      · rcases List.mem_append.mp hout with hspaces | hout
        · exact .inl (List.eq_of_mem_replicate hspaces)
        · exact .inr (.inl hout)
      · exact .inr (.inr (List.mem_cons_of_mem d hcs))
    · have hrest : c = ' ' ∨ c ∈ d :: out ∨ c ∈ cs := by
        split at h
        · exact ih h
        · exact ih h
      rcases hrest with hblank | hout | hcs
      · exact .inl hblank
      · rcases List.mem_cons.mp hout with rfl | hout
        · exact .inr (.inr List.mem_cons_self)
        · exact .inr (.inl hout)
      · exact .inr (.inr (List.mem_cons_of_mem d hcs))

theorem noBreak_expandTabs (h : NoBreak l) (width : Nat) : NoBreak (expandTabs width l) := by
  intro c hc
  rcases mem_expandTabsFrom hc with rfl | hnone | hmem
  · decide
  · cases hnone
  · exact h c hmem

theorem expandTabs_ne_nil {width : Nat} (hwidth : 0 < width) (hne : l ≠ []) :
    expandTabs width l ≠ [] := by
  obtain ⟨c, l, rfl⟩ := List.exists_cons_of_ne_nil hne
  rw [expandTabs, expandTabsFrom]
  split
  · rw [expandTabsFrom_eq_append]
    simp [hwidth.ne']
  · split
    · rw [expandTabsFrom_eq_append]
      simp
    · rw [expandTabsFrom_eq_append]
      simp

/-- The only line breaks of the text are line feeds. -/
def OnlyLineFeeds (cs : List Char) : Prop := ∀ c ∈ cs, isBreak c = true → c = '\n'

instance decidableOnlyLineFeeds (cs : List Char) : Decidable (OnlyLineFeeds cs) :=
  List.decidableBAll (fun c => isBreak c = true → c = '\n') cs

/-- Tabulators are expanded line by line. -/
theorem lines_expandTabs {width : Nat} (hwidth : 0 < width) (h : OnlyLineFeeds cs) :
    lines (expandTabs width cs) = (lines cs).map (expandTabs width) := by
  induction hn : cs.length using Nat.strongRecOn generalizing cs with
  | ind n ih =>
    -- the first line, and what follows it
    have hcut := List.takeWhile_append_dropWhile (p := fun c => !isBreak c) (l := cs)
    have hline : NoBreak (cs.takeWhile fun c => !isBreak c) := fun c hc => by
      simpa using List.all_eq_true.mp List.all_takeWhile c hc
    generalize cs.takeWhile (fun c => !isBreak c) = l at hcut hline
    cases hrest : cs.dropWhile (fun c => !isBreak c) with
    | nil =>
      rw [hrest, List.append_nil] at hcut
      subst hcut
      by_cases hne : l = []
      · subst hne
        rfl
      · rw [lines_of_noBreak hline hne, lines_of_noBreak (noBreak_expandTabs hline width)
          (expandTabs_ne_nil hwidth hne)]
        rfl
    | cons c rest =>
      have hbreak : isBreak c = true := by
        have hhead := List.head?_dropWhile_not (fun c => !isBreak c) cs
        rw [hrest] at hhead
        simpa using hhead
      rw [hrest] at hcut
      subst hcut
      obtain rfl := h c (by simp) hbreak
      have hrest' : OnlyLineFeeds rest := fun d hd => h d (by simp [hd])
      have hlength : rest.length < n := by
        rw [← hn, List.length_append, List.length_cons]
        omega
      rw [expandTabs_newline width rest hline, lines_append_newline hline,
        lines_append_newline (noBreak_expandTabs hline width), ih rest.length hlength hrest' rfl]
      rfl

theorem splitFrom_of_not_mem {sep : Char} (piece : List Char) (h : sep ∉ cs) :
    splitFrom sep piece [] cs = [piece.reverse ++ cs] := by
  induction cs generalizing piece with
  | nil => simp [splitFrom]
  | cons c cs ih =>
    rw [List.mem_cons, not_or] at h
    have hne : (c == sep) = false := beq_eq_false_iff_ne.mpr (Ne.symm h.1)
    simp [splitFrom, hne, ih _ h.2]

theorem splitAtChar_of_not_mem {sep : Char} (h : sep ∉ cs) : splitAtChar sep cs = [cs] :=
  splitFrom_of_not_mem [] h

/-- The pieces found before stay in front. -/
theorem splitFrom_eq_append (sep : Char) (piece : List Char) (found : List (List Char))
    (cs : List Char) :
    splitFrom sep piece found cs = found.reverse ++ splitFrom sep piece [] cs := by
  induction cs generalizing piece found with
  | nil => simp [splitFrom]
  | cons c cs ih =>
    rw [splitFrom, splitFrom]
    split
    · rw [ih, ih _ [piece.reverse], List.reverse_cons, List.append_assoc, List.reverse_singleton]
    · exact ih _ _

theorem splitFrom_append_cons {sep : Char} (piece : List Char) (h : sep ∉ l) (cs : List Char) :
    splitFrom sep piece [] (l ++ sep :: cs) = (piece.reverse ++ l) :: splitAtChar sep cs := by
  induction l generalizing piece with
  | nil =>
    rw [List.nil_append, splitFrom, if_pos (beq_self_eq_true sep), splitFrom_eq_append,
      List.append_nil]
    rfl
  | cons c l ih =>
    rw [List.mem_cons, not_or] at h
    have hne : (c == sep) = false := beq_eq_false_iff_ne.mpr (Ne.symm h.1)
    rw [List.cons_append, splitFrom, if_neg (by simp [hne]), ih _ h.2, List.reverse_cons,
      List.append_assoc, List.singleton_append]

/-- The separator ends a piece. -/
theorem splitAtChar_append_cons {sep : Char} (h : sep ∉ l) (cs : List Char) :
    splitAtChar sep (l ++ sep :: cs) = l :: splitAtChar sep cs :=
  splitFrom_append_cons [] h cs

/-- A text is one piece if the first character of the word does not occur. -/
theorem pieces_of_not_mem {w : Char} (ws : List Char) (h : w ∉ cs) :
    pieces (w :: ws) cs = [cs] := by
  suffices hfrom : ∀ piece, piecesFrom (w :: ws) piece [] 0 cs = [piece.reverse ++ cs] from hfrom []
  intro piece
  induction cs generalizing piece with
  | nil => simp [piecesFrom]
  | cons c cs ih =>
    obtain ⟨hne, hcs⟩ := not_or.mp (List.mem_cons.not.mp h)
    have hstart : startsWith (w :: ws) (c :: cs) = false := by
      simp [startsWith, dropExact?, hne]
    simp [piecesFrom, hstart, ih hcs]

/-! ## Stripping -/

/-- The text holds white space only. -/
def AllBlank (cs : List Char) : Prop := ∀ c ∈ cs, isBlank c = true

variable {a b : List Char}

theorem allBlank_replicate (n : Nat) : AllBlank (List.replicate n ' ') := by
  intro c hc
  rw [List.eq_of_mem_replicate hc]
  rfl

/-- Stripping the start stops at a character that is no white space. -/
theorem stripStart_append_cons {c : Char} (hc : isBlank c = false) (a cs : List Char) :
    stripStart (a ++ c :: cs) = stripStart a ++ c :: cs := by
  simp only [stripStart, List.dropWhile_append, List.isEmpty_iff]
  split
  · rename_i hnil
    rw [hnil, List.dropWhile_cons_of_neg (by simp [hc]), List.nil_append]
  · rfl

theorem strip_allBlank_append (h : AllBlank a) (cs : List Char) : strip (a ++ cs) = strip cs := by
  rw [strip, stripWhile, List.dropWhile_append_of_pos h]
  rfl

theorem strip_append_allBlank (h : AllBlank b) (cs : List Char) : strip (cs ++ b) = strip cs := by
  have hrev : ∀ c ∈ b.reverse, isBlank c = true := fun c hc => h c (List.mem_reverse.mp hc)
  have hnil : b.dropWhile isBlank = [] := List.dropWhile_eq_nil_iff.mpr h
  simp only [strip, stripWhile, dropEndWhile, List.dropWhile_append]
  split
  · rename_i hempty
    rw [List.isEmpty_iff.mp hempty, hnil]
  · rw [List.reverse_append, List.dropWhile_append_of_pos hrev]

/-- Stripping the end stops at a character that is no white space. -/
theorem stripEnd_append_cons {c : Char} (hc : isBlank c = false) (a cs : List Char) :
    stripEnd (a ++ c :: cs) = a ++ c :: stripEnd cs := by
  have hstop := stripStart_append_cons hc cs.reverse a.reverse
  simp only [stripStart] at hstop
  simp [stripEnd, dropEndWhile, hstop]

theorem strip_append_cons {c : Char} (hc : isBlank c = false) (a cs : List Char) :
    strip (a ++ c :: cs) = stripStart a ++ c :: stripEnd cs :=
  (congrArg stripEnd (stripStart_append_cons hc a cs)).trans (stripEnd_append_cons hc _ cs)

theorem strip_stripStart (cs : List Char) : strip (stripStart cs) = strip cs := by
  have hblank : AllBlank (cs.takeWhile isBlank) := fun c hc => List.mem_takeWhile_imp hc
  have hcut := strip_allBlank_append hblank (stripStart cs)
  rw [stripStart, List.takeWhile_append_dropWhile] at hcut
  exact hcut.symm

/-- What stripping the end removes is white space. -/
theorem exists_stripEnd_append (cs : List Char) : ∃ b, AllBlank b ∧ cs = stripEnd cs ++ b := by
  refine ⟨(cs.reverse.takeWhile isBlank).reverse, fun c hc => ?_, ?_⟩
  · exact List.mem_takeWhile_imp (List.mem_reverse.mp hc)
  · rw [stripEnd, dropEndWhile, ← List.reverse_append, List.takeWhile_append_dropWhile,
      List.reverse_reverse]

theorem strip_stripEnd (cs : List Char) : strip (stripEnd cs) = strip cs := by
  obtain ⟨b, hb, hcut⟩ := exists_stripEnd_append cs
  rw [← strip_append_allBlank hb, ← hcut]

theorem strip_strip (cs : List Char) : strip (strip cs) = strip cs :=
  (strip_stripEnd (stripStart cs)).trans (strip_stripStart cs)

theorem strip_ne_nil {c : Char} (hc : c ∈ cs) (hblank : isBlank c = false) : strip cs ≠ [] := by
  obtain ⟨a, b, rfl⟩ := List.append_of_mem hc
  simp [strip_append_cons hblank]

theorem stripEnd_prefix (cs : List Char) : stripEnd cs <+: cs := by
  obtain ⟨b, -, hcut⟩ := exists_stripEnd_append cs
  exact ⟨b, hcut.symm⟩

theorem mem_of_mem_strip {c : Char} (h : c ∈ strip cs) : c ∈ cs := by
  have hstart : c ∈ stripStart cs := ( stripEnd_prefix (stripStart cs)).subset h
  exact (List.dropWhile_suffix _).subset hstart

theorem length_strip_le (cs : List Char) : (strip cs).length ≤ cs.length := by
  rw [strip, stripWhile, dropEndWhile, List.length_reverse]
  calc ((cs.dropWhile isBlank).reverse.dropWhile isBlank).length
      ≤ (cs.dropWhile isBlank).reverse.length := List.length_dropWhile_le ..
    _ = (cs.dropWhile isBlank).length := List.length_reverse
    _ ≤ cs.length := List.length_dropWhile_le ..

/-- A text that starts and ends with other characters than white space has none to strip. -/
theorem strip_eq_self (hhead : ∀ c ∈ cs.head?, isBlank c = false)
    (hlast : ∀ c ∈ cs.getLast?, isBlank c = false) : strip cs = cs := by
  have hdrop {ds : List Char} (h : ∀ c ∈ ds.head?, isBlank c = false) :
      ds.dropWhile isBlank = ds := by
    cases ds with
    | nil => rfl
    | cons c ds => rw [List.dropWhile_cons_of_neg (by simp [h c rfl])]
  rw [strip, stripWhile, hdrop hhead, dropEndWhile, hdrop (by rwa [List.head?_reverse]),
    List.reverse_reverse]

theorem not_isBlank_head (h : strip cs = cs) : ∀ c ∈ cs.head?, isBlank c = false := by
  intro c hc
  obtain ⟨ds, rfl⟩ := List.head?_eq_some_iff.mp hc
  rw [← Bool.not_eq_true]
  intro hblank
  have hstrip : strip (c :: ds) = strip ds :=
    strip_allBlank_append (a := [c]) (List.forall_mem_singleton.mpr hblank) ds
  have hlen := length_strip_le ds
  rw [← hstrip, h, List.length_cons] at hlen
  omega

theorem not_isBlank_last (h : strip cs = cs) : ∀ c ∈ cs.getLast?, isBlank c = false := by
  intro c hc
  obtain ⟨ds, rfl⟩ := List.getLast?_eq_some_iff.mp hc
  rw [← Bool.not_eq_true]
  intro hblank
  have hstrip : strip (ds ++ [c]) = strip ds :=
    strip_append_allBlank (List.forall_mem_singleton.mpr hblank) ds
  have hlen := length_strip_le ds
  rw [← hstrip, h, List.length_append, List.length_singleton] at hlen
  omega

/-- Between two texts that have no white space to strip any text may stand. -/
theorem strip_append_append (ha : strip a = a) (hb : strip b = b) (hane : a ≠ []) (hbne : b ≠ [])
    (cs : List Char) : strip (a ++ cs ++ b) = a ++ cs ++ b := by
  apply strip_eq_self
  · rw [List.append_assoc, List.head?_append, Option.or_of_isSome (by simpa using hane)]
    exact not_isBlank_head ha
  · rw [List.getLast?_append, Option.or_of_isSome (by simpa using hbne)]
    exact not_isBlank_last hb

theorem joinWith_append_cons (sep a l : List Char) (ls : List (List Char)) :
    joinWith sep ((a ++ l) :: ls) = a ++ joinWith sep (l :: ls) := by
  cases ls with
  | nil => simp [joinWith]
  | cons m ls => simp [joinWith_cons_cons]

theorem joinWith_ne_nil (sep : List Char) (hne : l ≠ []) (ls : List (List Char)) :
    joinWith sep (l :: ls) ≠ [] := by
  cases ls with
  | nil => simpa [joinWith] using hne
  | cons m ls => simp [joinWith_cons_cons, hne]

/-- Joining puts no white space at the ends. -/
theorem strip_joinWith (sep : List Char) (h : ∀ l ∈ ls, l ≠ [] ∧ strip l = l) :
    strip (joinWith sep ls) = joinWith sep ls := by
  induction ls with
  | nil => rfl
  | cons l ls ih =>
    obtain ⟨⟨hne, hl⟩, htail⟩ := List.forall_mem_cons.mp h
    cases ls with
    | nil => simpa [joinWith] using hl
    | cons m ls =>
      rw [joinWith_cons_cons]
      exact strip_append_append hl (ih htail) hne
        (joinWith_ne_nil sep (htail m List.mem_cons_self).1 ls) sep

/-- Joined pieces are read back; what follows the separator stays with the next piece. -/
theorem splitAtChar_joinWith {sep : Char} {pad : List Char} (hpad : sep ∉ pad)
    (h : ∀ m ∈ l :: ls, sep ∉ m) :
    splitAtChar sep (joinWith (sep :: pad) (l :: ls)) = l :: ls.map (pad ++ ·) := by
  induction ls generalizing l with
  | nil => simpa [joinWith] using splitAtChar_of_not_mem (h l List.mem_cons_self)
  | cons m ls ih =>
    obtain ⟨hl, hm, hls⟩ : sep ∉ l ∧ sep ∉ m ∧ ∀ k ∈ ls, sep ∉ k := by simpa using h
    have hnext : ∀ k ∈ (pad ++ m) :: ls, sep ∉ k :=
      List.forall_mem_cons.mpr ⟨by simp [hpad, hm], hls⟩
    rw [joinWith_cons_cons, List.append_assoc, List.cons_append, splitAtChar_append_cons hl,
      ← joinWith_append_cons, ih hnext, List.map_cons]

theorem splitAtChar_unlines (hne : ls ≠ []) (h : ∀ l ∈ ls, '\n' ∉ l) :
    splitAtChar '\n' (unlines ls) = ls := by
  obtain ⟨l, ls, rfl⟩ := List.exists_cons_of_ne_nil hne
  rw [unlines, splitAtChar_joinWith List.not_mem_nil h]
  exact congrArg _ (List.map_id ls)

theorem stripStart_eq_self (h : strip cs = cs) : stripStart cs = cs := by
  cases cs with
  | nil => rfl
  | cons c cs => exact List.dropWhile_cons_of_neg (by simp [not_isBlank_head h c rfl])

/-- The first line starts and the last line ends with a character that is no white space. -/
def HasFullEnds (ls : List (List Char)) : Prop :=
  (∃ c cs ms, ls = (c :: cs) :: ms ∧ isBlank c = false) ∧
    ∃ ms cs c, ls = ms ++ [cs ++ [c]] ∧ isBlank c = false

theorem head?_unlines_cons (c : Char) (cs : List Char) (ms : List (List Char)) :
    (unlines ((c :: cs) :: ms)).head? = some c := by
  cases ms with
  | nil => rw [unlines_singleton, List.head?_cons]
  | cons m ms => rw [unlines_cons_cons, List.cons_append, List.head?_cons]

theorem getLast?_unlines_concat (ms : List (List Char)) (cs : List Char) (c : Char) :
    (unlines (ms ++ [cs ++ [c]])).getLast? = some c := by
  by_cases hne : ms = []
  · rw [hne, List.nil_append, unlines_singleton, List.getLast?_concat]
  · rw [unlines_concat hne, ← List.cons_append, ← List.append_assoc, List.getLast?_concat]

theorem exists_concat_of_ne_nil {α : Type} {xs : List α} (h : xs ≠ []) : ∃ ys y, xs = ys ++ [y] :=
  ⟨_, _, (List.dropLast_concat_getLast h).symm⟩

theorem strip_unlines (h : HasFullEnds ls) : strip (unlines ls) = unlines ls := by
  obtain ⟨⟨c, cs, ms, hhead, hc⟩, ⟨ms', cs', c', hlast, hc'⟩⟩ := h
  apply strip_eq_self
  · rw [hhead, head?_unlines_cons]
    rintro _ ⟨⟩
    exact hc
  · rw [hlast, getLast?_unlines_concat]
    rintro _ ⟨⟩
    exact hc'

/-- A stripped text that is not empty has full ends. -/
theorem hasFullEnds_of_strip (hne : ls ≠ []) (hempty : ls ≠ [[]])
    (h : strip (unlines ls) = unlines ls) : HasFullEnds ls := by
  constructor
  · obtain ⟨l, ms, rfl⟩ := List.exists_cons_of_ne_nil hne
    cases l with
    | nil =>
      have hms : ms ≠ [] := fun hms => hempty (by rw [hms])
      obtain ⟨m, ms, rfl⟩ := List.exists_cons_of_ne_nil hms
      have hblank := not_isBlank_head h '\n' (by rw [unlines_cons_cons]; rfl)
      exact absurd hblank (by decide)
    | cons c cs => exact ⟨c, cs, ms, rfl, not_isBlank_head h c (head?_unlines_cons c cs ms)⟩
  · obtain ⟨ms, l, rfl⟩ := exists_concat_of_ne_nil hne
    rcases eq_or_ne l [] with rfl | hl
    · have hms : ms ≠ [] := fun hms => hempty (by rw [hms]; rfl)
      rw [unlines_concat hms] at h
      exact absurd (not_isBlank_last h '\n' List.getLast?_concat) (by decide)
    · obtain ⟨cs, c, rfl⟩ := exists_concat_of_ne_nil hl
      exact ⟨ms, cs, c, rfl, not_isBlank_last h c (getLast?_unlines_concat ms cs c)⟩

end Docsmith.Text
