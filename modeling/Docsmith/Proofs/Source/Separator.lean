-- SUMMARY: A bar inside a printed expression is told from one that separates parts.
import Docsmith.Proofs.Answer
import Docsmith.Proofs.Source.Ends

/-!
# Bars as separators

Parts that are joined by bars may hold bars themselves, inside text literals and as
operators. An operator stands between blanks and no printed part ends with a blank. So
a reader who knows literals and blanks passes every bar inside a part and stops at
the bar behind it, and the parts can be told from the joined text.
-/

namespace Docsmith.Source

/-! ## Reading joined parts -/

/-- Where a reader of joined parts stands: outside of literals, behind a blank or not, or
    inside a literal, behind a backslash or not. -/
inductive Place where
  | outside (blank : Bool)
  | inside (quote : Char) (escaped : Bool)
deriving DecidableEq

namespace Place

/-- The place behind the next character. A bar outside of literals and not behind a blank is a
    separator, which is not passed. -/
def next? : Place → Char → Option Place
  | .outside blank, c =>
    if c == '\'' || c == '"' then some (.inside c false)
    else if c == '|' && !blank then none
    else some (.outside (c == ' '))
  | .inside q true, _ => some (.inside q false)
  | .inside q false, c =>
    if c == '\\' then some (.inside q true)
    else if c == q then some (.outside false)
    else some (.inside q false)

/-- The place behind a text without separators. -/
def after? (p : Place) (cs : List Char) : Option Place := cs.foldlM next? p

theorem after?_cons (p : Place) (c : Char) (cs : List Char) :
    p.after? (c :: cs) = (p.next? c).bind (·.after? cs) := rfl

theorem after?_append (p : Place) (cs ds : List Char) :
    p.after? (cs ++ ds) = (p.after? cs).bind (·.after? ds) := by
  rw [after?, List.foldlM_append]
  rfl

end Place

/-- A reader outside of literals passes the text and is outside of literals again. -/
def Passes (t : String) : Prop :=
  ∀ blank, ∃ blank', (Place.outside blank).after? t.toList = some (.outside blank')

/-- A reader passes the text, and it ends with no blank. -/
def Completes (t : String) : Prop :=
  ∀ blank, (Place.outside blank).after? t.toList = some (.outside false)

/-- A reader who is not behind a blank passes the text and is behind none again. -/
def Continues (t : String) : Prop :=
  (Place.outside false).after? t.toList = some (.outside false)

instance decidablePasses (t : String) : Decidable (Passes t) :=
  inferInstanceAs (Decidable (∀ _, ∃ _, _ = _))

instance decidableCompletes (t : String) : Decidable (Completes t) :=
  inferInstanceAs (Decidable (∀ _, _ = _))

variable {s t : String} {ts us : List String}

theorem Completes.passes (h : Completes t) : Passes t := fun blank => ⟨false, h blank⟩

theorem Completes.continues (h : Completes t) : Continues t := h false

theorem continues_empty : Continues "" := rfl

theorem Passes.append (hs : Passes s) (ht : Passes t) : Passes (s ++ t) := by
  intro blank
  obtain ⟨blank', hs⟩ := hs blank
  rw [String.toList_append, Place.after?_append, hs]
  exact ht blank'

theorem Passes.completes (hs : Passes s) (ht : Completes t) : Completes (s ++ t) := by
  intro blank
  obtain ⟨blank', hs⟩ := hs blank
  rw [String.toList_append, Place.after?_append, hs]
  exact ht blank'

theorem Completes.append (hs : Completes s) (ht : Continues t) : Completes (s ++ t) := by
  intro blank
  rw [String.toList_append, Place.after?_append, hs blank]
  exact ht

theorem Passes.intercalate {sep : String} (hsep : Passes sep) (h : ∀ t ∈ ts, Completes t) :
    Passes (sep.intercalate ts) := by
  induction ts with
  | nil => exact fun blank => ⟨blank, rfl⟩
  | cons t ts ih =>
    obtain ⟨ht, hts⟩ := List.forall_mem_cons.mp h
    cases ts with
    | nil => simpa using ht.passes
    | cons u ts =>
      rw [String.intercalate_cons_cons]
      exact (ht.passes.append hsep).append (ih hts)

theorem Completes.intercalate {sep : String} (hsep : Passes sep) (hne : ts ≠ [])
    (h : ∀ t ∈ ts, Completes t) : Completes (sep.intercalate ts) := by
  induction ts with
  | nil => exact absurd rfl hne
  | cons t ts ih =>
    obtain ⟨ht, hts⟩ := List.forall_mem_cons.mp h
    cases ts with
    | nil => simpa using ht
    | cons u ts =>
      rw [String.intercalate_cons_cons]
      exact (ht.passes.append hsep).completes (ih (List.cons_ne_nil u ts) hts)

theorem Completes.wrap (h : Completes t) (outer own : Strength) :
    Completes (wrap outer own t) := by
  unfold Source.wrap
  split
  · exact ((by decide : Passes "(").append h.passes).completes (by decide)
  · exact h

/-! ## Telling parts apart -/

/-- A part does not go on behind a bar that another part stops at. -/
theorem Continues.ne_append_bar (hs : Continues s) (ht : Continues t) (cs : List Char) :
    t.toList ≠ s.toList ++ '|' :: cs := by
  intro heq
  rw [Continues, heq, Place.after?_append, hs] at ht
  cases ht

theorem Continues.append_bar_inj (hs : Continues s) (ht : Continues t) {cs ds : List Char}
    (h : s.toList ++ '|' :: cs = t.toList ++ '|' :: ds) : s = t ∧ cs = ds := by
  obtain ⟨rest, hrest, hcs⟩ | ⟨rest, hrest, hds⟩ := List.append_eq_append_iff.mp h
  · cases rest with
    | nil =>
      rw [List.append_nil] at hrest
      exact ⟨String.toList_inj.mp hrest.symm, (List.cons.inj hcs).2⟩
    | cons c rest =>
      obtain ⟨rfl, -⟩ := List.cons.inj hcs
      exact absurd hrest (hs.ne_append_bar ht rest)
  · cases rest with
    | nil =>
      rw [List.append_nil] at hrest
      exact ⟨String.toList_inj.mp hrest, (List.cons.inj hds).2.symm⟩
    | cons c rest =>
      obtain ⟨rfl, -⟩ := List.cons.inj hds
      exact absurd hrest (ht.ne_append_bar hs rest)

/-- The parts with a bar behind each of them. -/
def barred (ts : List String) : List Char := ts.flatMap fun t => t.toList ++ ['|']

theorem barred_cons (t : String) (ts : List String) :
    barred (t :: ts) = t.toList ++ '|' :: barred ts := by
  simp [barred]

theorem toList_intercalate_bar (hne : ts ≠ []) :
    ("|".intercalate ts).toList ++ ['|'] = barred ts := by
  induction ts with
  | nil => exact absurd rfl hne
  | cons t ts ih =>
    cases ts with
    | nil => simp [barred]
    | cons u ts =>
      have hbar : "|".toList = ['|'] := by decide
      rw [String.intercalate_cons_cons, barred_cons, ← ih (List.cons_ne_nil u ts)]
      simp [hbar]

theorem barred_inj (hts : ∀ t ∈ ts, Continues t) (hus : ∀ t ∈ us, Continues t)
    (h : barred ts = barred us) : ts = us := by
  induction ts generalizing us with
  | nil =>
    cases us with
    | nil => rfl
    | cons u us => simp [barred] at h
  | cons t ts ih =>
    cases us with
    | nil => simp [barred] at h
    | cons u us =>
      obtain ⟨ht, hts'⟩ := List.forall_mem_cons.mp hts
      obtain ⟨hu, hus'⟩ := List.forall_mem_cons.mp hus
      rw [barred_cons, barred_cons] at h
      obtain ⟨rfl, hrest⟩ := ht.append_bar_inj hu h
      exact congrArg (t :: ·) (ih hts' hus' hrest)

/-- The parts are told from the joined text. -/
theorem intercalate_bar_inj (hts : ∀ t ∈ ts, Continues t) (hus : ∀ t ∈ us, Continues t)
    (hne : ts ≠ []) (hne' : us ≠ []) : "|".intercalate ts = "|".intercalate us ↔ ts = us := by
  constructor
  · intro h
    apply barred_inj hts hus
    rw [← toList_intercalate_bar hne, ← toList_intercalate_bar hne', h]
  · rintro rfl
    rfl

/-! ## Constants and names -/

/-- The characters that matter to a reader of joined parts. -/
def barMarks : List Char := [' ', '|', '\'', '"']

theorem completes_ofList {cs : List Char} (hne : cs ≠ []) (h : ∀ c ∈ cs, c ∉ barMarks) :
    Completes (String.ofList cs) := by
  have hnext (blank : Bool) {c : Char} (hc : c ∉ barMarks) :
      (Place.outside blank).next? c = some (.outside false) := by
    simp only [barMarks, List.mem_cons, List.not_mem_nil, or_false, not_or] at hc
    simp [Place.next?, hc]
  have hall : (Place.outside false).after? cs = some (.outside false) := by
    clear hne
    induction cs with
    | nil => rfl
    | cons c cs ih =>
      obtain ⟨hc, hcs⟩ := List.forall_mem_cons.mp h
      rw [Place.after?_cons, hnext false hc]
      exact ih hcs
  obtain ⟨c, cs, rfl⟩ := List.exists_cons_of_ne_nil hne
  intro blank
  have hc := h c List.mem_cons_self
  rw [Place.after?_cons, hnext false hc] at hall
  rw [String.toList_ofList, Place.after?_cons, hnext blank hc]
  exact hall

theorem completes_of_isName {id : String} (h : Lexer.isName id.toList = true) : Completes id := by
  rw [← String.ofList_toList (s := id)]
  refine completes_ofList (Lexer.isName_ne_nil h) fun c hc hmark => ?_
  have hmarks : ∀ c ∈ barMarks, (Text.isNameStart c || Text.isNameRest c) = false :=
    Text.forall_mem_of_all (by decide)
  have hnot := hmarks c hmark
  rw [Lexer.isName_parts h c hc] at hnot
  cases hnot

theorem not_mem_barMarks_of_isNumeralChar {c : Char} (h : isNumeralChar c = true) :
    c ∉ barMarks := by
  intro hmark
  have hmarks : ∀ c ∈ barMarks, isNumeralChar c = false := Text.forall_mem_of_all (by decide)
  rw [hmarks c hmark] at h
  cases h

theorem completes_overflowing (style : Decimal.Style) (x : Float) (mark : List Char)
    (hmark : mark ∈ [[], ['j']]) : Completes (overflowing (style.write x ++ String.ofList mark)) := by
  obtain ⟨cs, hcs, hne, hall⟩ := overflowing_chars style x hmark
  rw [hcs]
  exact completes_ofList hne fun c hc => not_mem_barMarks_of_isNumeralChar (hall c hc)

section Literals

variable {q : Char} {cs ds : List Char}

/-- Inside a literal the text is read up to the same place. -/
def StaysInside (q : Char) (cs : List Char) : Prop :=
  (Place.inside q false).after? cs = some (.inside q false)

theorem StaysInside.append (hc : StaysInside q cs) (hd : StaysInside q ds) :
    StaysInside q (cs ++ ds) := by
  rw [StaysInside, Place.after?_append, hc]
  exact hd

theorem staysInside_escape (c : Char) (h : StaysInside q ds) : StaysInside q ('\\' :: c :: ds) := h

theorem staysInside_plain (h : ∀ c ∈ cs, c ≠ '\\' ∧ c ≠ q) : StaysInside q cs := by
  induction cs with
  | nil => rfl
  | cons c cs ih =>
    obtain ⟨hc, hcs⟩ := List.forall_mem_cons.mp h
    rw [StaysInside, Place.after?_cons]
    simp only [Place.next?, beq_iff_eq, hc.1, hc.2, if_false]
    exact ih hcs

theorem staysInside_flatMap {α : Type} {f : α → List Char} (h : ∀ a, StaysInside q (f a))
    (as : List α) : StaysInside q (as.flatMap f) := by
  induction as with
  | nil => rfl
  | cons a as ih => exact (h a).append ih

/-- The digits of a code are neither quotes nor backslashes. -/
theorem mem_toDigits (n : Nat) : ∀ c ∈ Nat.toDigits 16 n, c ∉ ['\'', '"', '\\'] := by
  have hdigit : ∀ d < 16, Nat.digitChar d ∉ ['\'', '"', '\\'] := by decide
  induction n using Nat.strongRecOn with
  | ind n ih =>
    rw [Nat.toDigits_eq_if (by decide)]
    split
    · rename_i hn
      exact List.forall_mem_singleton.mpr (hdigit n hn)
    · exact List.forall_mem_append.mpr ⟨ih (n / 16) (by omega),
        List.forall_mem_singleton.mpr (hdigit (n % 16) (Nat.mod_lt _ (by decide)))⟩

theorem staysInside_hexPadded (hq : q ∈ ['\'', '"']) (width n : Nat) :
    StaysInside q (Text.hexPadded width n) := by
  have hdigits : ∀ c ∈ Text.hexPadded width n, c ∉ ['\'', '"', '\\'] := by
    refine List.forall_mem_append.mpr ⟨fun c hc => ?_, mem_toDigits n⟩
    rw [List.eq_of_mem_replicate hc]
    decide
  refine staysInside_plain fun c hc => ?_
  have hnot := hdigits c hc
  simp only [List.mem_cons, List.not_mem_nil, or_false, not_or] at hnot hq
  obtain rfl | rfl := hq
  · exact ⟨hnot.2.2, hnot.1⟩
  · exact ⟨hnot.2.2, hnot.2.1⟩

/-- One character of a literal: escaped by a backslash, as it is, or by its code. -/
theorem staysInside_shown (c : Char) (isShown : Bool) {code : List Char} (h : StaysInside q code) :
    StaysInside q (if c == q || c == '\\' then ['\\', c]
      else if c == '\t' then ['\\', 't']
      else if c == '\n' then ['\\', 'n']
      else if c == '\r' then ['\\', 'r']
      else if isShown then [c]
      else code) := by
  split
  · exact staysInside_escape c rfl
  · rename_i hplain
    simp only [Bool.or_eq_true, beq_iff_eq, not_or] at hplain
    split
    · exact staysInside_escape 't' rfl
    · split
      · exact staysInside_escape 'n' rfl
      · split
        · exact staysInside_escape 'r' rfl
        · split
          · exact staysInside_plain (List.forall_mem_singleton.mpr ⟨hplain.2, hplain.1⟩)
          · exact h

theorem staysInside_quotedChar (hq : q ∈ ['\'', '"']) (c : Char) :
    StaysInside q (Text.quotedChar q c) := by
  apply staysInside_shown c (Text.isPrintable c)
  unfold Text.codeEscape
  dsimp only
  split
  · exact staysInside_escape 'x' (staysInside_hexPadded hq _ _)
  · split
    · exact staysInside_escape 'u' (staysInside_hexPadded hq _ _)
    · exact staysInside_escape 'U' (staysInside_hexPadded hq _ _)

theorem staysInside_quotedByte (hq : q ∈ ['\'', '"']) (b : UInt8) :
    StaysInside q (Text.quotedByte q b) :=
  staysInside_shown (Char.ofNat b.toNat) (32 ≤ b.toNat && b.toNat < 127)
    (staysInside_escape 'x' (staysInside_hexPadded hq _ _))

theorem quoteFor_mem (cs : List Char) : Text.quoteFor cs ∈ ['\'', '"'] := by
  unfold Text.quoteFor
  split <;> decide

/-- A literal is read as a whole. -/
theorem completes_literal (hq : q ∈ ['\'', '"']) (h : StaysInside q cs) :
    Completes (String.ofList (q :: cs ++ [q])) := by
  intro blank
  have hopen : (Place.outside blank).next? q = some (.inside q false) := by
    simp only [List.mem_cons, List.not_mem_nil, or_false] at hq
    obtain rfl | rfl := hq <;> rfl
  have hclose : (Place.inside q false).next? q = some (.outside false) := by
    simp only [List.mem_cons, List.not_mem_nil, or_false] at hq
    obtain rfl | rfl := hq <;> rfl
  rw [String.toList_ofList, List.cons_append, Place.after?_cons, hopen]
  show (Place.inside q false).after? (cs ++ [q]) = _
  rw [Place.after?_append, h]
  show (Place.inside q false).after? [q] = _
  rw [Place.after?_cons, hclose]
  rfl

theorem completes_quoted (cs : List Char) : Completes (String.ofList (Text.quoted cs)) :=
  completes_literal (quoteFor_mem cs)
    (staysInside_flatMap (staysInside_quotedChar (quoteFor_mem cs)) cs)

theorem completes_quotedBytes (bs : List UInt8) : Completes (String.ofList (Text.quotedBytes bs)) := by
  have hq := quoteFor_mem (bs.map fun b => Char.ofNat b.toNat)
  have hbody := completes_literal hq (staysInside_flatMap (staysInside_quotedByte hq) bs)
  unfold Text.quotedBytes
  rw [List.cons_append, ← List.singleton_append, String.ofList_append]
  exact (by decide : Passes (String.ofList ['b'])).completes hbody

end Literals

theorem completes_constant (c : Constant) : Completes (c.print false) := by
  cases c with
  | none => exact (by decide : Completes "None")
  | bool b =>
    cases b with
    | false => exact (by decide : Completes "False")
    | true => exact (by decide : Completes "True")
  | int n =>
    refine completes_ofList Nat.toDigits_ne_nil fun c hc => not_mem_barMarks_of_isNumeralChar ?_
    rw [isNumeralChar, isNumberChar_of_areDigits (Json.toDigits_areDigits n) c hc, Bool.true_or]
  | float x =>
    have htext := completes_overflowing Decimal.number x [] (by simp)
    rwa [String.ofList_nil, String.append_empty] at htext
  | imaginary x => exact completes_overflowing Decimal.component x ['j'] (by simp)
  | str s marked =>
    have hbody := completes_quoted s.toList
    cases marked with
    | false => simpa [Constant.print] using hbody
    | true => exact (by decide : Passes "u").completes hbody
  | bytes bs => exact completes_quotedBytes bs
  | ellipsis => exact (by decide : Completes "...")

end Docsmith.Source
