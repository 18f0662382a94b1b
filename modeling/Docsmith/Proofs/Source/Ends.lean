-- SUMMARY: The canonical text of an expression neither starts nor ends with white space.
import Docsmith.Proofs.Answer
import Docsmith.Proofs.Docstring.Item
import Docsmith.Proofs.Json.Numeral
import Docsmith.Proofs.Text.Lines
import Docsmith.Signature.Printer
import Docsmith.Source.Lexer

/-!
# The ends of printed expressions

White space stands only inside the text of an expression, never at its ends. For
numbers and text literals this follows from the characters they are written
with, and for everything else from the operands and signs at the two ends.
-/

namespace Docsmith.Source

/-! ## Ends of texts -/

/-- The first character is no white space. -/
def Opens (t : String) : Prop := t.toList.head?.any (!Text.isBlank ·) = true

/-- The last character is no white space. -/
def Closes (t : String) : Prop := t.toList.getLast?.any (!Text.isBlank ·) = true

instance (t : String) : Decidable (Opens t) := inferInstanceAs (Decidable (_ = _))

instance (t : String) : Decidable (Closes t) := inferInstanceAs (Decidable (_ = _))

/-- The text starts and ends with characters that are no white space. -/
structure HasEnds (t : String) : Prop where
  opens : Opens t
  closes : Closes t

instance (t : String) : Decidable (HasEnds t) :=
  decidable_of_iff (Opens t ∧ Closes t) ⟨fun h => ⟨h.1, h.2⟩, fun h => ⟨h.1, h.2⟩⟩

variable {s t : String} {ts : List String}

theorem opens_iff : Opens t ↔ ∃ c cs, t.toList = c :: cs ∧ Text.isBlank c = false := by
  rw [Opens, Option.any_eq_true]
  constructor
  · rintro ⟨c, hc, hblank⟩
    obtain ⟨cs, hcs⟩ := List.head?_eq_some_iff.mp hc
    exact ⟨c, cs, hcs, by simpa using hblank⟩
  · rintro ⟨c, cs, hcs, hblank⟩
    exact ⟨c, by rw [hcs]; rfl, by simpa using hblank⟩

theorem closes_iff : Closes t ↔ ∃ cs c, t.toList = cs ++ [c] ∧ Text.isBlank c = false := by
  rw [Closes, Option.any_eq_true]
  constructor
  · rintro ⟨c, hc, hblank⟩
    obtain ⟨cs, hcs⟩ := List.getLast?_eq_some_iff.mp hc
    exact ⟨cs, c, hcs, by simpa using hblank⟩
  · rintro ⟨cs, c, hcs, hblank⟩
    exact ⟨c, by rw [hcs, List.getLast?_concat], by simpa using hblank⟩

theorem Opens.append (h : Opens s) {t : String} : Opens (s ++ t) := by
  obtain ⟨c, cs, hs, hc⟩ := opens_iff.mp h
  exact opens_iff.mpr ⟨c, cs ++ t.toList, by rw [String.toList_append, hs]; rfl, hc⟩

theorem Closes.append (h : Closes t) {s : String} : Closes (s ++ t) := by
  obtain ⟨cs, c, ht, hc⟩ := closes_iff.mp h
  exact closes_iff.mpr ⟨s.toList ++ cs, c, by rw [String.toList_append, ht, List.append_assoc], hc⟩

/-- White space around the text is all that stripping removes. -/
theorem HasEnds.strip (h : HasEnds t) : Text.strip t.toList = t.toList := by
  obtain ⟨c, cs, hfirst, hc⟩ := opens_iff.mp h.opens
  obtain ⟨ds, d, hlast, hd⟩ := closes_iff.mp h.closes
  apply Text.strip_eq_self
  · rw [hfirst]
    rintro _ ⟨⟩
    exact hc
  · rw [hlast, List.getLast?_concat]
    rintro _ ⟨⟩
    exact hd

/-- A text that is not empty and holds no white space has its ends. -/
theorem hasEnds_ofList {cs : List Char} (hne : cs ≠ []) (h : ∀ c ∈ cs, Text.isBlank c = false) :
    HasEnds (String.ofList cs) := by
  refine ⟨?_, ?_⟩
  · obtain ⟨c, ds, rfl⟩ := List.exists_cons_of_ne_nil hne
    exact opens_iff.mpr ⟨c, ds, String.toList_ofList, h c List.mem_cons_self⟩
  · obtain ⟨ds, c, rfl⟩ := Text.exists_concat_of_ne_nil hne
    exact closes_iff.mpr ⟨ds, c, String.toList_ofList, h c (by simp)⟩

theorem HasEnds.wrap (h : HasEnds t) (outer own : Strength) : HasEnds (wrap outer own t) := by
  unfold Source.wrap
  split
  · exact ⟨(by decide : Opens "(").append.append, (by decide : Closes ")").append⟩
  · exact h

theorem hasEnds_intercalate (sep : String) (hne : ts ≠ []) (h : ∀ t ∈ ts, HasEnds t) :
    HasEnds (sep.intercalate ts) := by
  induction ts with
  | nil => exact absurd rfl hne
  | cons t ts ih =>
    obtain ⟨ht, hts⟩ := List.forall_mem_cons.mp h
    cases ts with
    | nil => simpa using ht
    | cons u ts =>
      rw [String.intercalate_cons_cons]
      exact ⟨ht.opens.append.append, (ih (List.cons_ne_nil u ts) hts).closes.append⟩

theorem hasEnds_commas (hne : ts ≠ []) (h : ∀ t ∈ ts, HasEnds t) : HasEnds (commas ts) := by
  unfold commas
  split
  · exact ⟨(h _ List.mem_cons_self).opens.append, (by decide : Closes ",").append⟩
  · exact hasEnds_intercalate ", " hne h

/-! ## Names -/

namespace Lexer

variable {cs : List Char}

theorem isName_ne_nil (h : isName cs = true) : cs ≠ [] := by
  rintro rfl
  cases h

/-- The characters that a signature is read by. -/
def marks : List Char := ['(', ')', '[', ']', '\x7b', '\x7d', ',', ':', '=', '*', '/']

theorem isName_parts (h : isName cs = true) :
    ∀ c ∈ cs, (Text.isNameStart c || Text.isNameRest c) = true := by
  cases cs with
  | nil => exact List.forall_mem_nil _
  | cons c cs =>
    simp only [isName, Bool.and_eq_true, List.all_eq_true] at h
    refine List.forall_mem_cons.mpr ⟨by rw [h.1, Bool.true_or], fun d hd => ?_⟩
    rw [h.2 d hd, Bool.or_true]

/-- A name holds neither white space nor the marks of a signature. -/
theorem isName_chars (h : isName cs = true) : ∀ c ∈ cs, Text.isBlank c = false ∧ c ∉ marks := by
  have hpart := isName_parts h
  intro c hc
  constructor
  · exact Docstring.not_isBlank_of_class (p := fun c => Text.isNameStart c || Text.isNameRest c)
      (by decide +kernel) (hpart c hc)
  · intro hmark
    have hmarks : ∀ c ∈ marks, (Text.isNameStart c || Text.isNameRest c) = false :=
      Text.forall_mem_of_all (by decide)
    have hnot := hmarks c hmark
    rw [hpart c hc] at hnot
    cases hnot

end Lexer

/-! ## Numbers -/

/-- The characters that numbers are written with. -/
def isNumberChar (c : Char) : Bool := c.isDigit || ['.', 'e', '+', '-'].contains c

theorem not_isBlank_of_isNumberChar {c : Char} (h : isNumberChar c = true) :
    Text.isBlank c = false :=
  Docstring.not_isBlank_of_class (by decide) h

theorem isNumberChar_of_areDigits {ds : List Char} (h : Json.AreDigits ds) :
    ∀ c ∈ ds, isNumberChar c = true := fun c hc => by simp [isNumberChar, h c hc]

/-- Digits in any style are written with the characters of numbers. -/
theorem layout_chars (style : Decimal.Style) {ds : List Char} (hds : Json.AreDigits ds)
    (hne : ds ≠ []) (point : Int) :
    style.layout ds point ≠ [] ∧ ∀ c ∈ style.layout ds point, isNumberChar c = true := by
  have hzeros (n : Nat) := isNumberChar_of_areDigits (Json.areDigits_zeros n)
  have hall := isNumberChar_of_areDigits hds
  unfold Decimal.Style.layout
  split
  · split
    · refine ⟨List.cons_ne_nil _ _, ?_⟩
      simp only [List.forall_mem_cons, List.forall_mem_append]
      exact ⟨by decide, by decide, hzeros _, hall⟩
    · rename_i hpoint
      have hwhole : ∀ c ∈ ds.take point.toNat ++ List.replicate (point.toNat - ds.length) '0',
          isNumberChar c = true :=
        List.forall_mem_append.mpr ⟨fun c hc => hall c (List.mem_of_mem_take hc), hzeros _⟩
      have htake : ds.take point.toNat ≠ [] := by
        rw [ne_eq, List.take_eq_nil_iff]
        have : point.toNat ≠ 0 := by omega
        tauto
      dsimp only
      split
      · split
        · exact ⟨by simp, List.forall_mem_append.mpr
            ⟨hwhole, Text.forall_mem_of_all (by decide)⟩⟩
        · exact ⟨by simp [htake], hwhole⟩
      · refine ⟨by simp, List.forall_mem_append.mpr
          ⟨hwhole, List.forall_mem_cons.mpr ⟨by decide, ?_⟩⟩⟩
        exact fun c hc => hall c (List.mem_of_mem_drop hc)
  · have hexp : ∀ c ∈ 'e' :: (if point - 1 < 0 then '-' else '+')
        :: Json.exponentDigits (point - 1).natAbs, isNumberChar c = true := by
      refine List.forall_mem_cons.mpr ⟨by decide, List.forall_mem_cons.mpr ⟨?_, ?_⟩⟩
      · split <;> decide
      · exact isNumberChar_of_areDigits (Json.exponentDigits_areDigits _)
    dsimp only
    split
    · exact absurd rfl hne
    · exact ⟨List.cons_ne_nil _ _, List.forall_mem_cons.mpr ⟨hall _ List.mem_cons_self, hexp⟩⟩
    · obtain ⟨hd, hrest⟩ := List.forall_mem_cons.mp hall
      refine ⟨List.cons_ne_nil _ _, List.forall_mem_append.mpr ⟨?_, hexp⟩⟩
      simp only [List.forall_mem_cons]
      exact ⟨hd, by decide, hrest⟩

/-- What a number is written as: one of three words, or the characters of numbers. -/
theorem write_cases (style : Decimal.Style) (x : Float) :
    style.write x ∈ ["nan", "inf", "-inf"]
      ∨ ∃ cs, style.write x = String.ofList cs ∧ cs ≠ [] ∧ ∀ c ∈ cs, isNumberChar c = true := by
  simp only [Decimal.Style.write, beq_iff_eq]
  split
  · simp
  · split
    · split <;> simp
    · right
      obtain ⟨ds, point, heq, hne, hds⟩ : ∃ ds point,
          (if (Decimal.ofBits x.toBits).2.m = 0 then (['0'], 1)
            else (Decimal.ofBits x.toBits).2.shortest.parts) = (ds, point)
          ∧ ds ≠ [] ∧ Json.AreDigits ds := by
        split
        · exact ⟨['0'], 1, rfl, List.cons_ne_nil _ _, Json.areDigits_zeros 1⟩
        · rename_i hm
          have hpoint := Json.shortestFrom_digits_ne_zero hm
            (Decimal.ofBits x.toBits).2.magnitude 18 1
          obtain ⟨hall, d, rest, hcons, -⟩ := Json.parts_eq_cons hpoint
          refine ⟨_, _, rfl, fun hnil => ?_, hall⟩
          exact List.cons_ne_nil d rest (hcons.symm.trans hnil)
      obtain ⟨hlayout, hchars⟩ := layout_chars style hds hne point
      rw [heq]
      refine ⟨_, rfl, List.append_ne_nil_of_right_ne_nil _ hlayout,
        List.forall_mem_append.mpr ⟨?_, hchars⟩⟩
      split <;> exact Text.forall_mem_of_all (by decide)

/-- A word whose first character does not occur is not replaced. -/
theorem replace_of_not_mem {w : Char} {cs : List Char} (ws new : List Char) (h : w ∉ cs) :
    Text.replace (w :: ws) new cs = cs := by
  simp [Text.replace, Text.pieces_of_not_mem ws h, Text.joinWith]

theorem overflowing_of_not_mem {cs : List Char} (hi : 'i' ∉ cs) (hn : 'n' ∉ cs) :
    overflowing (String.ofList cs) = String.ofList cs := by
  have hinf : "inf".toList = 'i' :: ['n', 'f'] := by decide
  have hnan : "nan".toList = 'n' :: ['a', 'n'] := by decide
  simp only [overflowing, hinf, hnan, String.toList_ofList]
  rw [replace_of_not_mem _ _ hi, replace_of_not_mem _ _ hn]

/-- The characters of numbers that literals may overflow to, or that are imaginary. -/
def isNumeralChar (c : Char) : Bool := isNumberChar c || ['(', ')', 'j'].contains c

/-- The text of a number, with or without the mark of an imaginary one, is written with the
    characters of numerals. -/
theorem overflowing_chars (style : Decimal.Style) (x : Float) {mark : List Char}
    (hmark : mark ∈ [[], ['j']]) :
    ∃ cs, overflowing (style.write x ++ String.ofList mark) = String.ofList cs
      ∧ cs ≠ [] ∧ ∀ c ∈ cs, isNumeralChar c = true := by
  rcases write_cases style x with hword | ⟨cs, hcs, hne, hchars⟩
  · have hwords : ∀ w ∈ ["nan", "inf", "-inf"], ∀ mark ∈ [[], ['j']],
        (overflowing (w ++ String.ofList mark)).toList ≠ []
          ∧ (overflowing (w ++ String.ofList mark)).toList.all isNumeralChar = true := by
      decide
    obtain ⟨hne, hall⟩ := hwords _ hword _ hmark
    exact ⟨_, String.ofList_toList.symm, hne, List.all_eq_true.mp hall⟩
  · have hplain : ∀ c ∈ mark, isNumeralChar c = true := by
      simp only [List.mem_cons, List.not_mem_nil, or_false] at hmark
      obtain rfl | rfl := hmark <;> exact Text.forall_mem_of_all (by decide)
    have hall : ∀ c ∈ cs ++ mark, isNumeralChar c = true :=
      List.forall_mem_append.mpr ⟨fun c hc => by simp [isNumeralChar, hchars c hc], hplain⟩
    have hnot (d : Char) (hd : isNumeralChar d = false) : d ∉ cs ++ mark := by
      intro hmem
      rw [hall d hmem] at hd
      cases hd
    refine ⟨cs ++ mark, ?_, List.append_ne_nil_of_left_ne_nil hne _, hall⟩
    rw [hcs, ← String.ofList_append, overflowing_of_not_mem (hnot 'i' (by decide)) (hnot 'n' (by decide))]

theorem hasEnds_overflowing (style : Decimal.Style) (x : Float) (mark : List Char)
    (hmark : mark ∈ [[], ['j']]) :
    HasEnds (overflowing (style.write x ++ String.ofList mark)) := by
  obtain ⟨cs, hcs, hne, hall⟩ := overflowing_chars style x hmark
  rw [hcs]
  refine hasEnds_ofList hne fun c hc => ?_
  have hchar := hall c hc
  rw [isNumeralChar, Bool.or_eq_true, List.contains_iff_mem] at hchar
  rcases hchar with hnumber | hmark
  · exact not_isBlank_of_isNumberChar hnumber
  · have hmarks : ∀ c ∈ ['(', ')', 'j'], Text.isBlank c = false := Text.forall_mem_of_all (by decide)
    exact hmarks c hmark

/-! ## Text literals -/

namespace Quote

/-- A kind of quotes: characters that are no white space. -/
def IsKind (quote : List Char) : Prop := quote ≠ [] ∧ ∀ c ∈ quote, Text.isBlank c = false

theorem isKind_of_mem_all : ∀ q ∈ all, IsKind q := by
  have hall : ∀ q ∈ all, q ≠ [] ∧ (q.all fun c => decide (Text.isBlank c = false)) = true := by
    decide
  intro q hq
  exact ⟨(hall q hq).1, Text.forall_mem_of_all (hall q hq).2⟩

theorem isKind_quoteFor (cs : List Char) : IsKind [Text.quoteFor cs] := by
  refine ⟨List.cons_ne_nil _ _, List.forall_mem_singleton.mpr ?_⟩
  unfold Text.quoteFor
  split <;> decide

/-- There is always a kind of quotes to choose. -/
theorem choose_kinds {kinds : List (List Char)} (h : ∀ q ∈ kinds, IsKind q) (spaces : Bool)
    (cs : List Char) :
    (choose kinds spaces cs).2 ≠ [] ∧ ∀ q ∈ (choose kinds spaces cs).2, IsKind q := by
  have hfits : ∀ body : List Char,
      ∀ q ∈ (if body.contains '\n' then kinds.filter multi.contains else kinds).filter
        (fun q => !Text.contains q body), IsKind q := by
    intro body q hq
    have hq := List.mem_of_mem_filter hq
    split at hq
    · exact h q (List.mem_of_mem_filter hq)
    · exact h q hq
  unfold choose
  specialize hfits (cs.flatMap (escapeChar spaces))
  dsimp only at hfits ⊢
  generalize (if (cs.flatMap (escapeChar spaces)).contains '\n' then kinds.filter multi.contains
    else kinds).filter (fun q => !Text.contains q (cs.flatMap (escapeChar spaces))) = fitting
    at hfits ⊢
  split
  · refine ⟨List.cons_ne_nil _ _, List.forall_mem_singleton.mpr ?_⟩
    split
    · rename_i q hq
      exact h q (List.mem_of_find?_eq_some hq)
    · exact isKind_quoteFor cs
  · rename_i hne
    have hranked (last : Char) :
        fitting.filter (fun q => lead q != last) ++ fitting.filter (fun q => lead q == last) ≠ []
          ∧ ∀ q ∈ fitting.filter (fun q => lead q != last)
            ++ fitting.filter (fun q => lead q == last), IsKind q := by
      refine ⟨fun hnil => hne ?_, List.forall_mem_append.mpr
        ⟨fun q hq => hfits q (List.mem_of_mem_filter hq),
          fun q hq => hfits q (List.mem_of_mem_filter hq)⟩⟩
      rw [List.append_eq_nil_iff, List.filter_eq_nil_iff, List.filter_eq_nil_iff] at hnil
      rw [List.isEmpty_iff, List.eq_nil_iff_forall_not_mem]
      intro q hq
      have hdiffers := hnil.1 q hq
      have hsame := hnil.2 q hq
      simp_all
    split
    · exact ⟨by simpa using hne, hfits⟩
    · rename_i last _
      split
      · split <;> exact hranked last
      · exact hranked last

theorem hasEnds_between {q : List Char} (h : IsKind q) (body : List Char) :
    HasEnds (String.ofList (q ++ body ++ q)) := by
  have hq := hasEnds_ofList h.1 h.2
  rw [String.ofList_append, String.ofList_append]
  exact ⟨hq.opens.append.append, hq.closes.append⟩

theorem hasEnds_write (cs : List Char) : HasEnds (String.ofList (write all cs)) := by
  obtain ⟨hne, hkinds⟩ := choose_kinds isKind_of_mem_all false cs
  unfold write
  split
  · rename_i body q rest heq
    rw [heq] at hkinds
    exact hasEnds_between (hkinds q List.mem_cons_self) body
  · rename_i body heq
    rw [heq] at hne
    exact absurd rfl hne

/-- Fitting the parts of a formatted text leaves a kind of quotes. -/
theorem fit_kinds {kinds last : List (List Char)} {parts : List (List Char × Bool)}
    {bodies : List (List Char)} (hne : kinds ≠ []) (h : ∀ q ∈ kinds, IsKind q)
    (hfit : fit kinds parts = some (bodies, last)) : last ≠ [] ∧ ∀ q ∈ last, IsKind q := by
  induction parts generalizing kinds bodies with
  | nil =>
    obtain ⟨-, rfl⟩ : [] = bodies ∧ kinds = last := by simpa [fit] using hfit
    exact ⟨hne, h⟩
  | cons part parts ih =>
    simp only [fit] at hfit
    split at hfit
    · obtain ⟨⟨rest, kinds'⟩, hrest, heq⟩ := Option.map_eq_some_iff.mp hfit
      obtain ⟨-, rfl⟩ := Prod.mk.inj heq
      obtain ⟨hne', h'⟩ := choose_kinds h part.2 part.1
      exact ih hne' h' hrest
    · cases hfit

theorem hasEnds_join (parts : List (List Char × Bool)) :
    HasEnds (String.ofList (join parts)) := by
  unfold join
  split
  · rename_i bodies q rest hfit
    obtain ⟨-, hkinds⟩ := fit_kinds (by decide) isKind_of_mem_all hfit
    exact hasEnds_between (hkinds q List.mem_cons_self) _
  · rename_i bodies hfit
    exact absurd rfl (fit_kinds (by decide) isKind_of_mem_all hfit).1
  · exact hasEnds_between (isKind_of_mem_all _ (by decide)) _

end Quote

theorem hasEnds_quoted (cs : List Char) : HasEnds (String.ofList (Text.quoted cs)) :=
  Quote.hasEnds_between (Quote.isKind_quoteFor cs) _

theorem hasEnds_quotedBytes (bs : List UInt8) : HasEnds (String.ofList (Text.quotedBytes bs)) :=
  ⟨opens_iff.mpr ⟨'b', _, String.toList_ofList, by decide⟩, closes_iff.mpr
    ⟨_, _, String.toList_ofList, (Quote.isKind_quoteFor _).2 _ List.mem_cons_self⟩⟩

/-! ## Constants -/

theorem hasEnds_repr (n : Nat) : HasEnds (Nat.repr n) :=
  hasEnds_ofList Nat.toDigits_ne_nil fun c hc => not_isBlank_of_isNumberChar
    (isNumberChar_of_areDigits (Json.toDigits_areDigits n) c hc)

theorem hasEnds_number (style : Decimal.Style) (x : Float) : HasEnds (style.write x) := by
  rcases write_cases style x with hword | ⟨cs, hcs, hne, hchars⟩
  · have hwords : ∀ w ∈ ["nan", "inf", "-inf"], HasEnds w := by decide
    exact hwords _ hword
  · rw [hcs]
    exact hasEnds_ofList hne fun c hc => not_isBlank_of_isNumberChar (hchars c hc)

/-- The text of a constant has its ends. -/
theorem hasEnds_constant (quiet : Bool) (c : Constant) : HasEnds (c.print quiet) := by
  cases c with
  | none => exact (by decide : HasEnds "None")
  | bool b =>
    cases b with
    | false => exact (by decide : HasEnds "False")
    | true => exact (by decide : HasEnds "True")
  | int n => exact hasEnds_repr n
  | float x =>
    have htext := hasEnds_overflowing Decimal.number x [] (by simp)
    rwa [String.ofList_nil, String.append_empty] at htext
  | imaginary x => exact hasEnds_overflowing Decimal.component x ['j'] (by simp)
  | str s marked =>
    have hbody : HasEnds (String.ofList
        (if quiet then Quote.write Quote.all s.toList else Text.quoted s.toList)) := by
      split
      · exact Quote.hasEnds_write _
      · exact hasEnds_quoted _
    cases marked with
    | false => simpa [Constant.print] using hbody
    | true => exact ⟨(by decide : Opens "u").append, hbody.closes.append⟩
  | bytes bs => exact hasEnds_quotedBytes bs
  | ellipsis => exact (by decide : HasEnds "...")

/-- So has the value of a constant as it is shown. -/
theorem hasEnds_display (c : Constant) : HasEnds c.value.display := by
  cases c with
  | none => exact (by decide : HasEnds "None")
  | bool b =>
    cases b with
    | false => exact (by decide : HasEnds "False")
    | true => exact (by decide : HasEnds "True")
  | int n => exact hasEnds_repr n
  | float x => exact hasEnds_number Decimal.number x
  | imaginary x =>
    exact ⟨(hasEnds_number Decimal.component x).opens.append, (by decide : Closes "j").append⟩
  | str s marked => exact hasEnds_quoted _
  | bytes bs => exact hasEnds_quotedBytes bs
  | ellipsis => exact (by decide : HasEnds "Ellipsis")

/-! ## Expressions -/

mutual

/-- Where a name stands at an end of the text it is a name, and where operands do there are
    some. Parts between brackets or in the middle do not matter. -/
def Expr.isSound : Expr → Bool
  | .boolOp _ values => !values.isEmpty && allSound values
  | .named target value => target.isSound && value.isSound
  | .binary left _ right => left.isSound && right.isSound
  | .unary _ operand => operand.isSound
  | .lambda _ body => body.isSound
  | .ifElse _ body orelse => body.isSound && orelse.isSound
  | .await value => value.isSound
  | .yield value => optionSound value
  | .yieldFrom value => value.isSound
  | .compare left rest => left.isSound && comparandsSound rest
  | .call func _ _ => func.isSound
  | .attribute value attr => value.isSound && Lexer.isName attr.toList
  | .subscript value _ => value.isSound
  | .starred value => value.isSound
  | .name id => Lexer.isName id.toList
  | .tuple elts => allSound elts
  | .slice lower upper step => optionSound lower && optionSound upper && optionSound step
  | _ => true

/-- All of several expressions are sound. -/
def allSound : List Expr → Bool
  | [] => true
  | e :: es => e.isSound && allSound es

/-- An expression that may be left out is sound. -/
def optionSound : Option Expr → Bool
  | none => true
  | some e => e.isSound

/-- The operands of comparisons are sound. -/
def comparandsSound : List Comparand → Bool
  | [] => true
  | .mk _ right :: rest => right.isSound && comparandsSound rest

end

theorem hasEnds_of_isName {id : String} (h : Lexer.isName id.toList = true) : HasEnds id := by
  have hname := hasEnds_ofList (Lexer.isName_ne_nil h) fun c hc => (Lexer.isName_chars h c hc).1
  rwa [String.ofList_toList] at hname

theorem hasEnds_field (t : String) (conversion : Option Char) (spec : Option String) :
    Ensures HasEnds (field t conversion spec) := by
  unfold field
  split
  · exact nofun
  · refine .pure ⟨(by decide : Opens "\x7b").append.append.append.append.append, ?_⟩
    exact (by decide : Closes "\x7d").append

/-- The text of an expression that may be left out. -/
def optionText (print : Expr → Printed) : Option Expr → Printed
  | none => .ok ""
  | some e => print e

/-- The text of the step of a slice with the colon before it. -/
def stepText (quiet : Bool) : Option Expr → Printed
  | none => .ok ""
  | some e => do return ":" ++ (← e.print quiet Strength.test)

theorem print_slice (quiet : Bool) (outer : Strength) (lower upper step : Option Expr) :
    (Expr.slice lower upper step).print quiet outer = do
      let l ← optionText (·.print quiet Strength.test) lower
      let u ← optionText (·.print quiet Strength.test) upper
      let s ← stepText quiet step
      return l ++ ":" ++ u ++ s := by
  cases lower <;> cases upper <;> cases step <;>
    simp [Expr.print, optionText, stepText]

/-- Texts behind the first operand of a chain keep its ends. -/
theorem HasEnds.append_of (h : HasEnds s) (ht : t = "" ∨ Closes t) : HasEnds (s ++ t) := by
  obtain rfl | ht := ht
  · rwa [String.append_empty]
  · exact ⟨h.opens.append, ht.append⟩

mutual

/-- The text of a sound expression has its ends. -/
theorem Expr.hasEnds_print : ∀ (e : Expr) (quiet : Bool) (outer : Strength), e.isSound = true →
    Ensures HasEnds (e.print quiet outer)
  | .boolOp op values, quiet, outer, h => by
    simp only [Expr.isSound, Bool.and_eq_true, Bool.not_eq_true'] at h
    rw [Expr.print]
    refine (hasEnds_printRising values quiet op.strength h.2).bind fun ts hts => .pure ?_
    have hne : ts ≠ [] := by
      rintro rfl
      obtain rfl := List.length_eq_zero_iff.mp hts.1.symm
      cases h.1
    exact (hasEnds_intercalate _ hne hts.2).wrap _ _
  | .named target value, quiet, outer, h => by
    simp only [Expr.isSound, Bool.and_eq_true] at h
    rw [Expr.print]
    refine (target.hasEnds_print quiet _ h.1).bind fun l hl => ?_
    refine (value.hasEnds_print quiet _ h.2).bind fun r hr => .pure ?_
    exact HasEnds.wrap ⟨hl.opens.append.append, hr.closes.append⟩ _ _
  | .binary left op right, quiet, outer, h => by
    simp only [Expr.isSound, Bool.and_eq_true] at h
    rw [Expr.print]
    refine (left.hasEnds_print quiet _ h.1).bind fun l hl => ?_
    refine (right.hasEnds_print quiet _ h.2).bind fun r hr => .pure ?_
    exact HasEnds.wrap ⟨hl.opens.append.append.append.append, hr.closes.append⟩ _ _
  | .unary op operand, quiet, outer, h => by
    rw [Expr.print]
    refine (operand.hasEnds_print quiet _ h).bind fun r hr => .pure ?_
    have hsign : Opens op.sign := by cases op <;> decide
    exact HasEnds.wrap ⟨hsign.append, hr.closes.append⟩ _ _
  | .lambda params body, quiet, outer, h => by
    rw [Expr.print]
    refine ensures_bind fun ps => (body.hasEnds_print quiet _ h).bind fun r hr => .pure ?_
    exact HasEnds.wrap ⟨(by decide : Opens "lambda").append.append.append, hr.closes.append⟩ _ _
  | .ifElse test body orelse, quiet, outer, h => by
    simp only [Expr.isSound, Bool.and_eq_true] at h
    rw [Expr.print]
    refine (body.hasEnds_print quiet _ h.1).bind fun l hl => ensures_bind fun m => ?_
    refine (orelse.hasEnds_print quiet _ h.2).bind fun r hr => .pure ?_
    exact HasEnds.wrap ⟨hl.opens.append.append.append.append, hr.closes.append⟩ _ _
  | .dict items, quiet, outer, _ => by
    rw [Expr.print]
    refine ensures_bind fun ts => .pure ?_
    exact ⟨(by decide : Opens "\x7b").append.append, (by decide : Closes "\x7d").append⟩
  | .set elts, quiet, outer, _ => by
    rw [Expr.print]
    refine ensures_bind fun ts => .pure ?_
    split
    · decide
    · exact ⟨(by decide : Opens "\x7b").append.append, (by decide : Closes "\x7d").append⟩
  | .listComp elt clauses, quiet, outer, _ => by
    rw [Expr.print]
    refine ensures_bind fun l => ensures_bind fun r => .pure ?_
    exact ⟨(by decide : Opens "[").append.append.append, (by decide : Closes "]").append⟩
  | .setComp elt clauses, quiet, outer, _ => by
    rw [Expr.print]
    refine ensures_bind fun l => ensures_bind fun r => .pure ?_
    exact ⟨(by decide : Opens "\x7b").append.append.append, (by decide : Closes "\x7d").append⟩
  | .dictComp key value clauses, quiet, outer, _ => by
    rw [Expr.print]
    refine ensures_bind fun k => ensures_bind fun l => ensures_bind fun r => .pure ?_
    exact ⟨(by decide : Opens "\x7b").append.append.append.append.append,
      (by decide : Closes "\x7d").append⟩
  | .generator elt clauses, quiet, outer, _ => by
    rw [Expr.print]
    refine ensures_bind fun l => ensures_bind fun r => .pure ?_
    exact ⟨(by decide : Opens "(").append.append.append, (by decide : Closes ")").append⟩
  | .await value, quiet, outer, h => by
    rw [Expr.print]
    refine (value.hasEnds_print quiet _ h).bind fun r hr => .pure ?_
    exact HasEnds.wrap ⟨(by decide : Opens "await ").append, hr.closes.append⟩ _ _
  | .yield none, quiet, outer, _ => by
    rw [Expr.print]
    exact .pure (HasEnds.wrap (by decide) _ _)
  | .yield (some value), quiet, outer, h => by
    rw [Expr.print]
    refine (value.hasEnds_print quiet _ h).bind fun r hr => .pure ?_
    exact HasEnds.wrap ⟨(by decide : Opens "yield ").append, hr.closes.append⟩ _ _
  | .yieldFrom value, quiet, outer, h => by
    rw [Expr.print]
    refine (value.hasEnds_print quiet _ h).bind fun r hr => .pure ?_
    exact HasEnds.wrap ⟨(by decide : Opens "yield from ").append, hr.closes.append⟩ _ _
  | .compare left rest, quiet, outer, h => by
    simp only [Expr.isSound, Bool.and_eq_true] at h
    rw [Expr.print]
    refine (left.hasEnds_print quiet _ h.1).bind fun l hl => ?_
    refine (closes_printComparands rest quiet h.2).bind fun r hr => .pure ?_
    exact (hl.append_of hr).wrap _ _
  | .call func args keywords, quiet, outer, h => by
    rw [Expr.print]
    refine (func.hasEnds_print quiet _ h).bind fun l hl => ?_
    refine ensures_bind fun as => ensures_bind fun ks => .pure ?_
    exact ⟨hl.opens.append.append.append, (by decide : Closes ")").append⟩
  | .formatted value conversion none, quiet, outer, _ => by
    rw [Expr.print]
    exact ensures_bind fun l => hasEnds_field l conversion none
  | .formatted value conversion (some spec), quiet, outer, _ => by
    rw [Expr.print]
    exact ensures_bind fun l => ensures_bind fun r => hasEnds_field l conversion (some r)
  | .joined values, quiet, outer, _ => by
    rw [Expr.print]
    split
    · refine ensures_bind fun parts => .pure ?_
      exact ⟨(by decide : Opens "f").append, (Quote.hasEnds_write _).closes.append⟩
    · refine ensures_bind fun parts => .pure ?_
      exact ⟨(by decide : Opens "f").append, (Quote.hasEnds_join _).closes.append⟩
  | .constant c, quiet, outer, _ => by
    rw [Expr.print]
    exact .pure (hasEnds_constant quiet c)
  | .attribute value attr, quiet, outer, h => by
    simp only [Expr.isSound, Bool.and_eq_true] at h
    rw [Expr.print]
    refine (value.hasEnds_print quiet _ h.1).bind fun l hl => .pure ?_
    exact ⟨hl.opens.append.append, (hasEnds_of_isName h.2).closes.append⟩
  | .subscript value index, quiet, outer, h => by
    rw [Expr.print]
    refine (value.hasEnds_print quiet _ h).bind fun l hl => ensures_bind fun i => .pure ?_
    exact ⟨hl.opens.append.append.append, (by decide : Closes "]").append⟩
  | .starred value, quiet, outer, h => by
    rw [Expr.print]
    refine (value.hasEnds_print quiet _ h).bind fun r hr => .pure ?_
    exact ⟨(by decide : Opens "*").append, hr.closes.append⟩
  | .name id, quiet, outer, h => by
    rw [Expr.print]
    exact .pure (hasEnds_of_isName h)
  | .list elts, quiet, outer, _ => by
    rw [Expr.print]
    refine ensures_bind fun ts => .pure ?_
    exact ⟨(by decide : Opens "[").append.append, (by decide : Closes "]").append⟩
  | .tuple elts, quiet, outer, h => by
    rw [Expr.print]
    refine (hasEnds_printAll elts quiet _ h).bind fun ts hts => .pure ?_
    split
    · decide
    · rename_i hne
      exact (hasEnds_commas (by simpa using hne) hts).wrap _ _
  | .slice lower upper step, quiet, outer, h => by
    simp only [Expr.isSound, Bool.and_eq_true] at h
    rw [print_slice]
    refine (hasEnds_optionText lower quiet h.1.1).bind fun l hl => ?_
    refine (hasEnds_optionText upper quiet h.1.2).bind fun u hu => ?_
    refine (closes_stepText step quiet h.2).bind fun r hr => .pure ?_
    have hcolon : HasEnds (l ++ ":") := by
      obtain rfl | hl := hl
      · decide
      · exact ⟨hl.opens.append, (by decide : Closes ":").append⟩
    exact (hcolon.append_of (hu.imp_right HasEnds.closes)).append_of hr

theorem hasEnds_optionText : ∀ (e : Option Expr) (quiet : Bool), optionSound e = true →
    Ensures (fun t => t = "" ∨ HasEnds t) (optionText (·.print quiet Strength.test) e)
  | none, _, _ => .pure (.inl rfl)
  | some e, quiet, h => fun t ht => .inr (e.hasEnds_print quiet Strength.test h t ht)

theorem closes_stepText : ∀ (e : Option Expr) (quiet : Bool), optionSound e = true →
    Ensures (fun t => t = "" ∨ Closes t) (stepText quiet e)
  | none, _, _ => .pure (.inl rfl)
  | some e, quiet, h =>
    (e.hasEnds_print quiet Strength.test h).bind fun _ ht => .pure (.inr ht.closes.append)

/-- So have the texts of several sound expressions. -/
theorem hasEnds_printAll : ∀ (es : List Expr) (quiet : Bool) (outer : Strength),
    allSound es = true → Ensures (fun ts => ∀ t ∈ ts, HasEnds t) (printAll quiet outer es)
  | [], _, _, _ => .pure (List.forall_mem_nil _)
  | e :: es, quiet, outer, h => by
    simp only [allSound, Bool.and_eq_true] at h
    rw [printAll]
    refine (e.hasEnds_print quiet outer h.1).bind fun t ht => ?_
    refine (hasEnds_printAll es quiet outer h.2).bind fun ts hts => .pure ?_
    exact List.forall_mem_cons.mpr ⟨ht, hts⟩

/-- So have the texts of the operands of a connective. -/
theorem hasEnds_printRising : ∀ (es : List Expr) (quiet : Bool) (s : Strength),
    allSound es = true →
    Ensures (fun ts => ts.length = es.length ∧ ∀ t ∈ ts, HasEnds t) (printRising quiet s es)
  | [], _, _, _ => .pure ⟨rfl, List.forall_mem_nil _⟩
  | e :: es, quiet, s, h => by
    simp only [allSound, Bool.and_eq_true] at h
    rw [printRising]
    refine (e.hasEnds_print quiet _ h.1).bind fun t ht => ?_
    refine (hasEnds_printRising es quiet _ h.2).bind fun ts hts => .pure ?_
    exact ⟨congrArg (· + 1) hts.1, List.forall_mem_cons.mpr ⟨ht, hts.2⟩⟩

/-- The comparisons after the first operand end with an operand, if there are any. -/
theorem closes_printComparands : ∀ (cs : List Comparand) (quiet : Bool),
    comparandsSound cs = true → Ensures (fun t => t = "" ∨ Closes t) (printComparands quiet cs)
  | [], _, _ => .pure (.inl rfl)
  | .mk op right :: rest, quiet, h => by
    simp only [comparandsSound, Bool.and_eq_true] at h
    rw [printComparands]
    refine (right.hasEnds_print quiet _ h.1).bind fun r hr => ?_
    refine (closes_printComparands rest quiet h.2).bind fun u hu => .pure (.inr ?_)
    obtain rfl | hclose := hu
    · rw [String.append_empty]
      exact hr.closes.append
    · exact hclose.append

end

/-- The text of a default has its ends. -/
theorem Expr.hasEnds_defaultText {e : Expr} (hs : e.isSound = true) (h : e.defaultText = .ok t) :
    HasEnds t := by
  unfold Expr.defaultText at h
  split at h
  · rename_i c
    obtain rfl := Except.ok.inj h
    exact hasEnds_display c
  · obtain rfl := Except.ok.inj h
    exact hasEnds_of_isName (by simpa [Expr.isSound] using hs)
  · exact e.hasEnds_print _ _ hs t h

end Docsmith.Source
