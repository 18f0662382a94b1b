-- SUMMARY: Words found in a text without regard to letter case.
import Docsmith.Text.Letter
import Docsmith.Text.Lines
import Mathlib.Data.List.Basic

/-!
# Words up to letter case

A text that begins, up to letter case, with one word does not begin with a word
that differs from it in a letter. A word of plain letters that occurs in the
lower-case form of a text occurs in the text up to letter case; the converse
fails, since the dotless i counts as an i but has no other lower case.
-/

namespace Docsmith.Text

variable {v w cs r : List Char}

/-- A test on the characters of a text that is run through the text. -/
theorem forall_mem_of_all {p : Char → Prop} [DecidablePred p]
    (h : (cs.all fun c => decide (p c)) = true) : ∀ c ∈ cs, p c := fun c hc =>
  of_decide_eq_true (List.all_eq_true.mp h c hc)

/-! ## Words at the start of a text -/

/-- What follows a word is the end of the text. -/
theorem suffix_of_dropWord?_eq_some (h : dropWord? w cs = some r) : r <:+ cs := by
  fun_induction dropWord? w cs with
  | case1 cs => cases h; exact List.suffix_refl _
  | case2 => cases h
  | case3 w ws c cs _ ih => exact (ih h).trans (List.suffix_cons c cs)
  | case4 => cases h

/-- The letter stands for itself and its other case, and for nothing else. -/
def isPlainLetter (a : Char) : Bool :=
  (sharedUpper.find? fun e => e.1 == (lowerChar a).toNat).isNone

/-- The words differ in a letter that both of them have. -/
def differ : List Char → List Char → Bool
  | v :: vs, w :: ws =>
    (isPlainLetter v && isPlainLetter w && lowerChar v != lowerChar w) || differ vs ws
  | _, _ => false

theorem lowerChar_eq_of_sameLetter {a c : Char} (ha : isPlainLetter a = true)
    (h : sameLetter a c = true) : lowerChar a = lowerChar c := by
  simpa [sameLetter, Option.isNone_iff_eq_none.mp ha] using h

/-- A text that begins with one of the words does not begin with the other. -/
theorem dropWord?_eq_none_of_differ (h : differ v w = true) (hv : dropWord? v cs = some r) :
    dropWord? w cs = none := by
  induction v generalizing w cs with
  | nil => simp [differ] at h
  | cons a v ih =>
    cases w with
    | nil => simp [differ] at h
    | cons b w =>
      cases cs with
      | nil => rfl
      | cons c cs =>
        simp only [dropWord?, Option.ite_none_right_eq_some] at hv
        obtain ⟨hac, hv⟩ := hv
        simp only [dropWord?, ite_eq_right_iff]
        intro hbc
        simp only [differ, Bool.or_eq_true, Bool.and_eq_true, bne_iff_ne] at h
        rcases h with ⟨⟨ha, hb⟩, hne⟩ | h
        · have hab := lowerChar_eq_of_sameLetter ha hac
          exact absurd (hab.trans (lowerChar_eq_of_sameLetter hb hbc).symm) hne
        · exact ih h hv

/-- A word does not reach over a character that is none of its letters. -/
theorem dropWord?_append_eq_none {c : Char} (h : dropWord? w v = none)
    (hc : ∀ a ∈ w, sameLetter a c = false) (cs : List Char) :
    dropWord? w (v ++ c :: cs) = none := by
  fun_induction dropWord? w v with
  | case1 => cases h
  | case2 a w => simp [dropWord?, hc a List.mem_cons_self]
  | case3 a w d v had ih =>
    rw [List.cons_append, dropWord?, if_pos had]
    exact ih h fun b hb => hc b (List.mem_cons_of_mem a hb)
  | case4 a w d v had => rw [List.cons_append, dropWord?, if_neg had]

/-! ## Words in the lower-case form of a text -/

/-- The lower-case form of a text that follows `before`. -/
def lowered (before : List Char) : List Char → List Char
  | [] => []
  | c :: cs => lowerAt before c cs ++ lowered (c :: before) cs

theorem lowerFrom_eq (before out cs : List Char) :
    lowerFrom before out cs = out.reverse ++ lowered before cs := by
  induction cs generalizing before out with
  | nil => simp [lowerFrom, lowered]
  | cons c cs ih => simp [lowerFrom, lowered, ih]

theorem lower_eq (cs : List Char) : lower cs = lowered [] cs := lowerFrom_eq [] [] cs

/-- The lower-case form of a text ends with that of its end. -/
theorem lowered_append (before a b : List Char) :
    ∃ x, lowered before (a ++ b) = x ++ lowered (a.reverse ++ before) b := by
  induction a generalizing before with
  | nil => exact ⟨[], rfl⟩
  | cons c a ih =>
    obtain ⟨x, hx⟩ := ih (c :: before)
    refine ⟨lowerAt before c (a ++ b) ++ x, ?_⟩
    rw [List.cons_append, lowered, hx, List.reverse_cons, List.append_assoc, List.append_assoc]
    rfl

/-- Letters that lower case makes from one character only: no sigma and no dot above. -/
def IsSimple (c : Char) : Prop :=
  lowerChar c = c ∧ c ≠ 'ς' ∧ c ≠ 'σ' ∧ c ≠ Char.ofNat 0x307

instance (c : Char) : Decidable (IsSimple c) := inferInstanceAs (Decidable (_ ∧ _))

theorem sameLetter_of_lowerChar_eq {a c : Char} (h : lowerChar a = lowerChar c) :
    sameLetter a c = true := by
  simp [sameLetter, h]

theorem lowerAt_cases (before : List Char) (c : Char) (after : List Char) :
    lowerAt before c after = ['ς'] ∨ lowerAt before c after = ['σ'] ∨
      lowerAt before c after = ['i', Char.ofNat 0x307] ∨
      lowerAt before c after = [lowerChar c] := by
  unfold lowerAt
  split
  · split
    · exact .inl rfl
    · exact .inr (.inl rfl)
  · split
    · exact .inr (.inr (.inl rfl))
    · exact .inr (.inr (.inr rfl))

theorem startsWith_cons_cons (a c : Char) (w cs : List Char) :
    startsWith (a :: w) (c :: cs) = true ↔ a = c ∧ startsWith w cs = true := by
  by_cases h : a = c <;> simp [startsWith, dropExact?, h]

theorem startsWith_iff : startsWith w cs = true ↔ w <+: cs := by
  induction w generalizing cs with
  | nil => simp [startsWith, dropExact?]
  | cons a w ih =>
    cases cs with
    | nil => simp [startsWith, dropExact?]
    | cons c cs => rw [startsWith_cons_cons, ih, List.cons_prefix_cons]

/-- A word that starts the lower-case form of a text starts the text. The word must not end
    with an i, which the dotted capital I leaves with a dot above. -/
theorem dropWord?_isSome_of_startsWith (hw : ∀ a ∈ w, IsSimple a) (hlast : w.getLast? ≠ some 'i')
    {before : List Char} (h : startsWith w (lowered before cs) = true) :
    (dropWord? w cs).isSome = true := by
  induction w generalizing before cs with
  | nil => rfl
  | cons a w ih =>
    obtain ⟨⟨hlow, hfinal, hsigma, -⟩, htail⟩ := List.forall_mem_cons.mp hw
    cases cs with
    | nil => cases h
    | cons c cs =>
      rw [lowered] at h
      rcases lowerAt_cases before c cs with hat | hat | hat | hat <;> rw [hat] at h
      · exact absurd ((startsWith_cons_cons ..).mp h).1 hfinal
      · exact absurd ((startsWith_cons_cons ..).mp h).1 hsigma
      · obtain ⟨rfl, hnext⟩ := (startsWith_cons_cons ..).mp h
        cases w with
        | nil => exact absurd rfl hlast
        | cons b w =>
          have hdot := ((startsWith_cons_cons ..).mp hnext).1
          exact absurd hdot (htail b List.mem_cons_self).2.2.2
      · obtain ⟨rfl, hnext⟩ := (startsWith_cons_cons ..).mp h
        rw [dropWord?, if_pos (sameLetter_of_lowerChar_eq hlow)]
        refine ih htail (fun hi => hlast ?_) hnext
        rw [List.getLast?_cons, hi]
        rfl

theorem contains_of_not_startsWith {c : Char} (h : contains w (c :: cs) = true)
    (hstart : ¬startsWith w (c :: cs) = true) : contains w cs = true := by
  simpa [contains, hstart] using h

/-- A word that occurs in the lower-case form of a text occurs in the text. -/
theorem exists_suffix_of_contains (hne : w ≠ []) (hw : ∀ a ∈ w, IsSimple a)
    (hlast : w.getLast? ≠ some 'i') {before : List Char}
    (h : contains w (lowered before cs) = true) :
    ∃ s, s <:+ cs ∧ (dropWord? w s).isSome = true := by
  induction cs generalizing before with
  | nil => exact absurd (List.isEmpty_iff.mp h) hne
  | cons c cs ih =>
    by_cases hstart : startsWith w (lowered before (c :: cs)) = true
    · exact ⟨c :: cs, List.suffix_refl _, dropWord?_isSome_of_startsWith hw hlast hstart⟩
    · have hrest : contains w (lowered (c :: before) cs) = true := by
        rw [lowered] at h hstart
        rcases lowerAt_cases before c cs with hat | hat | hat | hat <;> rw [hat] at h hstart
        · exact contains_of_not_startsWith h hstart
        · exact contains_of_not_startsWith h hstart
        · -- The word starts at neither of the two characters.
          refine contains_of_not_startsWith (contains_of_not_startsWith h hstart) fun hdot => ?_
          obtain ⟨a, w, rfl⟩ := List.exists_cons_of_ne_nil hne
          exact (hw a List.mem_cons_self).2.2.2 ((startsWith_cons_cons ..).mp hdot).1
        · exact contains_of_not_startsWith h hstart
      obtain ⟨s, hs, hdrop⟩ := ih hrest
      exact ⟨s, hs.trans (List.suffix_cons c cs), hdrop⟩

theorem startsWith_self (w : List Char) : startsWith w w = true := by
  induction w with
  | nil => rfl
  | cons a w ih => exact (startsWith_cons_cons a a w w).mpr ⟨rfl, ih⟩

theorem contains_append_self (w x : List Char) : contains w (x ++ w) = true := by
  induction x with
  | nil =>
    cases w with
    | nil => rfl
    | cons a w => rw [List.nil_append, contains, startsWith_self, Bool.true_or]
  | cons c x ih => rw [List.cons_append, contains, ih, Bool.or_true]

end Docsmith.Text
