-- SUMMARY: Texts with balanced brackets, and how a list of them between parentheses is cut.
import Docsmith.Proofs.Text.Letter
import Docsmith.Proofs.Text.Lines
import Docsmith.Signature.Reader
import Mathlib.Data.List.Infix

/-!
# Brackets

The depth of a text is the number of brackets that are open at its end. A text
is enclosed when its brackets are balanced and each of its commas stands inside
brackets. Enclosed texts that are listed between parentheses, with commas
between them, are found again one by one.
-/

namespace Docsmith.Signature

/-! ## Depth -/

/-- Kinds of brackets: the characters that open, and those that close. -/
structure Brackets where
  opening : List Char
  closing : List Char

namespace Brackets

/-- Parentheses. -/
def round : Brackets := ⟨['('], [')']⟩

/-- Brackets of all kinds. -/
def all : Brackets := ⟨['(', '[', '\x7b'], [')', ']', '\x7d']⟩

/-- How many brackets are open at the end of a text. -/
def depth (b : Brackets) (cs : List Char) : Int :=
  cs.countP b.opening.contains - cs.countP b.closing.contains

/-- A bracket is closed only after it is opened, and at the end none is open. -/
def Balanced (b : Brackets) (cs : List Char) : Prop :=
  (∀ p ∈ cs.inits, 0 ≤ b.depth p) ∧ b.depth cs = 0

instance (b : Brackets) (cs : List Char) : Decidable (b.Balanced cs) :=
  inferInstanceAs (Decidable (_ ∧ _))

variable {b : Brackets} {u v cs : List Char}

@[simp] theorem depth_nil : b.depth [] = 0 := rfl

theorem depth_append (u v : List Char) : b.depth (u ++ v) = b.depth u + b.depth v := by
  simp only [depth, List.countP_append]
  omega

theorem depth_cons (c : Char) (cs : List Char) : b.depth (c :: cs) = b.depth [c] + b.depth cs :=
  depth_append [c] cs

theorem depth_eq_zero (h : ∀ c ∈ cs, c ∉ b.opening ∧ c ∉ b.closing) : b.depth cs = 0 := by
  have hopen : cs.countP b.opening.contains = 0 := by
    simpa [List.countP_eq_zero] using fun c hc => (h c hc).1
  have hclose : cs.countP b.closing.contains = 0 := by
    simpa [List.countP_eq_zero] using fun c hc => (h c hc).2
  rw [depth, hopen, hclose]
  rfl

end Brackets

/-- The beginnings of a text in two parts. -/
theorem mem_inits_append {p u v : List Char} (h : p ∈ (u ++ v).inits) :
    p ∈ u.inits ∨ ∃ q ∈ v.inits, p = u ++ q := by
  simp only [List.mem_inits] at h ⊢
  obtain ⟨r, hr⟩ := h
  obtain ⟨q, hu, -⟩ | ⟨q, hp, hv⟩ := List.append_eq_append_iff.mp hr
  · exact .inl ⟨q, hu.symm⟩
  · exact .inr ⟨q, ⟨r, hv.symm⟩, hp⟩

theorem Brackets.Balanced.append {b : Brackets} {u v : List Char} (hu : b.Balanced u)
    (hv : b.Balanced v) : b.Balanced (u ++ v) := by
  refine ⟨fun p hp => ?_, by rw [depth_append, hu.2, hv.2]; rfl⟩
  obtain hp | ⟨q, hq, rfl⟩ := mem_inits_append hp
  · exact hu.1 p hp
  · rw [depth_append, hu.2, Int.zero_add]
    exact hv.1 q hq

/-! ## Enclosed texts -/

/-- A text that can stand between the commas of a signature: its brackets are balanced, also if
    only parentheses count, and its commas stand inside brackets. -/
structure IsEnclosed (cs : List Char) : Prop where
  balanced : Brackets.all.Balanced cs
  round : Brackets.round.Balanced cs
  comma : ∀ p ∈ cs.inits, p.getLast? = some ',' → Brackets.all.depth p ≠ 0

instance (cs : List Char) : Decidable (IsEnclosed cs) :=
  decidable_of_iff (Brackets.all.Balanced cs ∧ Brackets.round.Balanced cs ∧
      ∀ p ∈ cs.inits, p.getLast? = some ',' → Brackets.all.depth p ≠ 0)
    ⟨fun h => ⟨h.1, h.2.1, h.2.2⟩, fun h => ⟨h.1, h.2, h.3⟩⟩

/-- The characters that the reader looks at to find the end of a parameter. -/
def isDelimiter (c : Char) : Bool :=
  c == ',' || Brackets.all.opening.contains c || Brackets.all.closing.contains c

theorem IsEnclosed.append {u v : List Char} (hu : IsEnclosed u) (hv : IsEnclosed v) :
    IsEnclosed (u ++ v) := by
  refine ⟨hu.balanced.append hv.balanced, hu.round.append hv.round, fun p hp hcomma => ?_⟩
  obtain hp | ⟨q, hq, rfl⟩ := mem_inits_append hp
  · exact hu.comma p hp hcomma
  · rw [Brackets.depth_append, hu.balanced.2, Int.zero_add]
    rw [List.getLast?_append] at hcomma
    cases hlast : q.getLast? with
    | some c => exact hv.comma q hq (by simpa [hlast] using hcomma)
    | none =>
      -- the comma ends `u` itself, where no bracket is open
      rw [hlast, Option.none_or] at hcomma
      exact absurd hu.balanced.2 (hu.comma u ((List.mem_inits _ _).mpr List.prefix_rfl) hcomma)

/-- A text without brackets and commas is enclosed. -/
theorem isEnclosed_of_plain {cs : List Char} (h : ∀ c ∈ cs, isDelimiter c = false) :
    IsEnclosed cs := by
  have hplain (p : List Char) (hp : p ∈ cs.inits) : ∀ c ∈ p, isDelimiter c = false :=
    fun c hc => h c (((List.mem_inits _ _).mp hp).subset hc)
  have hdepth {b : Brackets} (hopen : b.opening ⊆ Brackets.all.opening)
      (hclose : b.closing ⊆ Brackets.all.closing) (p : List Char) (hp : p ∈ cs.inits) :
      b.depth p = 0 := by
    refine Brackets.depth_eq_zero fun c hc => ?_
    have hnot := hplain p hp c hc
    simp only [isDelimiter, Bool.or_eq_false_iff, List.contains_eq_mem, decide_eq_false_iff_not]
      at hnot
    exact ⟨fun hmem => hnot.1.2 (hopen hmem), fun hmem => hnot.2 (hclose hmem)⟩
  have hself : cs ∈ cs.inits := (List.mem_inits _ _).mpr List.prefix_rfl
  have hall := hdepth (b := Brackets.all) (List.Subset.refl _) (List.Subset.refl _)
  have hround := hdepth (b := Brackets.round) (by decide) (by decide)
  refine ⟨⟨fun p hp => Int.le_of_eq (hall p hp).symm, hall cs hself⟩,
    ⟨fun p hp => Int.le_of_eq (hround p hp).symm, hround cs hself⟩, fun p hp hcomma => ?_⟩
  have hnot := hplain p hp ',' (List.mem_of_getLast? hcomma)
  cases hnot

/-! ## Reading through an enclosed text -/

/-- The search for the closing parenthesis goes on behind a text in which it stays open. -/
theorem untilClosed_append {cs : List Char} {d e : Nat} (out rest : List Char)
    (hopen : ∀ p ∈ cs.inits, 0 < d + Brackets.round.depth p)
    (he : (e : Int) = d + Brackets.round.depth cs) :
    untilClosed d out (cs ++ rest) = untilClosed e (cs.reverse ++ out) rest := by
  induction cs generalizing d out with
  | nil =>
    obtain rfl : e = d := by
      rw [Brackets.depth_nil] at he
      omega
    rfl
  | cons c cs ih =>
    have hc := hopen [c] (by simp [List.mem_inits])
    have htail (p : List Char) (hp : p ∈ cs.inits) :
        0 < d + (Brackets.round.depth [c] + Brackets.round.depth p) := by
      rw [← Brackets.depth_cons]
      exact hopen (c :: p) (by simpa [List.mem_inits] using hp)
    rw [Brackets.depth_cons] at he
    rw [List.cons_append, untilClosed, List.reverse_cons, List.append_assoc,
      List.singleton_append]
    by_cases hl : c = '('
    · subst hl
      have hone : Brackets.round.depth ['('] = 1 := by decide
      rw [if_pos (by decide)]
      exact ih _ (fun p hp => by have := htail p hp; omega) (by omega)
    · by_cases hr : c = ')'
      · subst hr
        have hone : Brackets.round.depth [')'] = -1 := by decide
        rw [if_neg (by decide), if_pos (by decide), if_neg (by omega)]
        exact ih _ (fun p hp => by have := htail p hp; omega) (by omega)
      · have hzero : Brackets.round.depth [c] = 0 :=
          Brackets.depth_eq_zero (by simp [Brackets.round, hl, hr])
        rw [if_neg (by simpa using hl), if_neg (by simpa using hr)]
        exact ih _ (fun p hp => by have := htail p hp; omega) (by omega)

/-- The depth that the cutting at commas keeps. -/
theorem depth_step (d : Int) (c : Char) :
    (if ['(', '[', '\x7b'].contains c then d + 1
      else if [')', ']', '\x7d'].contains c then d - 1 else d) = d + Brackets.all.depth [c] := by
  change (if Brackets.all.opening.contains c then d + 1
    else if Brackets.all.closing.contains c then d - 1 else d) = _
  simp only [Brackets.depth, List.countP_singleton]
  by_cases hopen : Brackets.all.opening.contains c = true
  · have hmem : c ∈ Brackets.all.opening := by simpa using hopen
    have hclose : ∀ c ∈ Brackets.all.opening, Brackets.all.closing.contains c = false :=
      Text.forall_mem_of_all (by decide)
    rw [if_pos hopen, if_pos hopen, hclose c hmem]
    simp
  · rw [if_neg hopen, if_neg hopen]
    by_cases hclose : Brackets.all.closing.contains c = true
    · rw [if_pos hclose, if_pos hclose]
      omega
    · rw [if_neg hclose, if_neg hclose]
      omega

/-- A text none of whose commas is outside of brackets belongs to the piece being read. -/
theorem piecesFrom_append {cs : List Char} {d : Int} (piece rest : List Char)
    (hcomma : ∀ p ∈ cs.inits, p.getLast? = some ',' → d + Brackets.all.depth p ≠ 0) :
    piecesFrom d piece (cs ++ rest)
      = piecesFrom (d + Brackets.all.depth cs) (cs.reverse ++ piece) rest := by
  induction cs generalizing d piece with
  | nil => simp
  | cons c cs ih =>
    have htail (p : List Char) (hp : p ∈ cs.inits) (hlast : p.getLast? = some ',') :
        d + Brackets.all.depth [c] + Brackets.all.depth p ≠ 0 := by
      rw [Int.add_assoc, ← Brackets.depth_cons]
      refine hcomma (c :: p) (by simpa [List.mem_inits] using hp) ?_
      rw [List.getLast?_cons, hlast]
      rfl
    have hnot : ¬ (c == ',' && d + Brackets.all.depth [c] == 0) = true := by
      simp only [Bool.and_eq_true, beq_iff_eq, not_and]
      rintro rfl
      exact hcomma [','] (by simp [List.mem_inits]) rfl
    rw [List.cons_append, piecesFrom, depth_step]
    rw [if_neg hnot, ih _ htail, Int.add_assoc, ← Brackets.depth_cons, List.reverse_cons,
      List.append_assoc, List.singleton_append]

/-! ## Reading a list of enclosed texts -/

/-- The pieces are the texts, all but the first after the blank behind the comma. -/
theorem piecesFrom_intercalate (piece part : List Char) {parts : List (List Char)}
    (h : ∀ p ∈ part :: parts, IsEnclosed p ∧ p ≠ []) :
    piecesFrom 0 piece ([',', ' '].intercalate (part :: parts))
      = (piece.reverse ++ part) :: parts.map (' ' :: ·) := by
  induction parts generalizing piece part with
  | nil =>
    obtain ⟨hpart, hne⟩ := h part List.mem_cons_self
    have hread := piecesFrom_append (d := 0) piece [] (by simpa using hpart.comma)
    rw [List.append_nil, hpart.balanced.2] at hread
    rw [List.intercalate_singleton, hread]
    simp [piecesFrom, hne]
  | cons next parts ih =>
    obtain ⟨⟨hpart, -⟩, hrest⟩ := List.forall_mem_cons.mp h
    rw [List.intercalate_cons_cons, List.append_assoc,
      piecesFrom_append piece _ (by simpa using hpart.comma), hpart.balanced.2, Int.add_zero]
    rw [show [',', ' '] ++ [',', ' '].intercalate (next :: parts)
        = ',' :: ' ' :: [',', ' '].intercalate (next :: parts) from rfl]
    have hcut (tail : List Char) : piecesFrom 0 (part.reverse ++ piece) (',' :: ' ' :: tail)
        = (piece.reverse ++ part) :: piecesFrom 0 [' '] tail := by
      simp [piecesFrom]
    rw [hcut, ih [' '] next hrest]
    rfl

end Docsmith.Signature
