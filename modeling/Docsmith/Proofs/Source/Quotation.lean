-- SUMMARY: The quoted form of a text is an expression that stands for the text.
import Docsmith.Proofs.Source.Reading
import Docsmith.Proofs.Source.Separator
import Docsmith.Value.Text
import Mathlib.Data.Nat.Digits.Defs

/-!
# Quotation

The quoted form of a text is one token, whatever the text holds, and reading that
token gives the text back (`parseExpr_quote`). `Escapes` relates what stands between
the quotation marks to the text, one escape or character at a time.

An expression that starts with a literal which cannot be read is no expression,
whatever follows it (`parseExpr_ne_ok`).
-/

namespace Docsmith.Source

open Lexer

/-! ## Hexadecimal digits -/

theorem digitChar_hex : ∀ n < 16,
    Numeral.isHex (Nat.digitChar n) = true ∧ Numeral.digitValue (Nat.digitChar n) = n := by decide

theorem ofDigits_concat (ds : List Char) (d : Char) :
    Numeral.ofDigits 16 (ds ++ [d]) = 16 * Numeral.ofDigits 16 ds + Numeral.digitValue d := by
  rw [Numeral.ofDigits, List.foldl_append]
  rfl

/-- Hexadecimal digits are read back as the number. -/
theorem toDigits_hex (n : Nat) : (Nat.toDigits 16 n).all Numeral.isHex = true
    ∧ Numeral.ofDigits 16 (Nat.toDigits 16 n) = n := by
  induction n using Nat.strongRecOn with
  | ind n ih =>
    rw [Nat.toDigits_eq_if (by decide)]
    split
    · rename_i hn
      obtain ⟨hhex, hvalue⟩ := digitChar_hex n hn
      simp [hhex, Numeral.ofDigits, hvalue]
    · rename_i hn
      obtain ⟨hhex, hvalue⟩ := digitChar_hex (n % 16) (Nat.mod_lt _ (by decide))
      obtain ⟨hinit, hrest⟩ := ih (n / 16) (by omega)
      refine ⟨by simp [hinit, hhex], ?_⟩
      rw [ofDigits_concat, hrest, hvalue, Nat.div_add_mod]

theorem ofDigits_zeros (k : Nat) (ds : List Char) :
    Numeral.ofDigits 16 (List.replicate k '0' ++ ds) = Numeral.ofDigits 16 ds := by
  induction k with
  | zero => rfl
  | succ k ih =>
    rw [List.replicate_succ]
    exact ih

theorem all_isHex_hexPadded (width n : Nat) : (Text.hexPadded width n).all Numeral.isHex = true := by
  simp only [Text.hexPadded, List.all_append, (toDigits_hex n).1, Bool.and_true, List.all_replicate]
  split <;> rfl

/-- The digits of a number that fits a width are read back as the number. -/
theorem hexDigits?_hexPadded {width n : Nat} (hwidth : 0 < width) (hn : n < 16 ^ width)
    (rest : List Char) :
    Literal.hexDigits? width (Text.hexPadded width n ++ rest) = some (n, rest) := by
  have hle := (Nat.length_toDigits_le_iff (by decide) hwidth).mpr hn
  have hlength : (Text.hexPadded width n).length = width := by
    simp only [Text.hexPadded, List.length_append, List.length_replicate]
    omega
  rw [Literal.hexDigits?, List.take_left' hlength, List.drop_left' hlength, hlength,
    all_isHex_hexPadded]
  simp [Text.hexPadded, ofDigits_zeros, (toDigits_hex n).2]

/-! ## Escapes -/

/-- Between quotation marks `q`, the first text stands for the second. -/
inductive Escapes (q : Char) : List Char → List Char → Prop
  | nil : Escapes q [] []
  | plain {c body cs} : c ≠ q → c ≠ '\\' → c ≠ '\n' → Escapes q body cs → Escapes q (c :: body) (c :: cs)
  | escape {e c ds body cs} :
      (∀ rest, Literal.escape? Text.namedChar? (e :: (ds ++ rest)) = some ([c], rest)) →
      ds.all Numeral.isHex = true → Escapes q body cs →
      Escapes q ('\\' :: e :: (ds ++ body)) (c :: cs)

variable {q c : Char} {body cs rest : List Char}

theorem isValid_toNat (c : Char) : c.toNat < 0xD800 ∨ 0xDFFF < c.toNat ∧ c.toNat < 0x110000 := by
  have h := c.valid
  simp only [UInt32.isValidChar, Nat.isValidChar] at h
  exact h

theorem charOf_toNat (c : Char) : Literal.charOf c.toNat = c := by
  have hn := isValid_toNat c
  rw [Literal.charOf, if_neg (by simp; omega), Char.ofNat_toNat]

/-- A character that is written by its code. -/
theorem escapes_codeEscape (h : Escapes q body cs) : Escapes q (Text.codeEscape c ++ body) (c :: cs) := by
  have hcode : c.toNat < 0x110000 := by
    have hn := isValid_toNat c
    omega
  have hpadded {e : Char} {width : Nat} (hwidth : 0 < width) (hn : c.toNat < 16 ^ width)
      (he : ∀ ds rest, Literal.hexDigits? width ds = some (c.toNat, rest) →
        Literal.escape? Text.namedChar? (e :: ds) = some ([Literal.charOf c.toNat], rest)) :
      Escapes q ('\\' :: e :: (Text.hexPadded width c.toNat ++ body)) (c :: cs) := by
    refine .escape (fun rest => ?_) (all_isHex_hexPadded _ _) h
    rw [he _ rest (hexDigits?_hexPadded hwidth hn rest), charOf_toNat]
  unfold Text.codeEscape
  dsimp only
  split
  · rename_i hn
    refine hpadded (by decide) hn fun ds rest hds => ?_
    simp [Literal.escape?, Literal.simpleEscape?, Numeral.isOctal, hds]
  · split
    · rename_i hn
      refine hpadded (by decide) hn fun ds rest hds => ?_
      simp [Literal.escape?, Literal.simpleEscape?, Numeral.isOctal, hds]
    · refine hpadded (by decide) (Nat.lt_trans hcode (by decide)) fun ds rest hds => ?_
      simp [Literal.escape?, Literal.simpleEscape?, Numeral.isOctal, hds, hcode]

/-- One quoted character. -/
theorem escapes_quotedChar (hq : q ∈ ['\'', '"']) (h : Escapes q body cs) :
    Escapes q (Text.quotedChar q c ++ body) (c :: cs) := by
  have hsimple (e : Char) (he : Literal.simpleEscape? e = some c) (hne : e ≠ '\n') :
      Escapes q ('\\' :: e :: body) (c :: cs) := by
    have hescape (rest : List Char) :
        Literal.escape? Text.namedChar? (e :: ([] ++ rest)) = some ([c], rest) := by
      simp [Literal.escape?, he, hne]
    exact .escape hescape rfl h
  unfold Text.quotedChar
  split
  · rename_i hc
    simp only [List.mem_cons, List.not_mem_nil, or_false] at hq
    rcases hq with rfl | rfl <;> rcases (Bool.or_eq_true _ _).mp hc with hc | hc <;>
      obtain rfl := beq_iff_eq.mp hc
    all_goals exact hsimple _ rfl (by decide)
  · split
    · rename_i hc
      obtain rfl := beq_iff_eq.mp hc
      exact hsimple 't' rfl (by decide)
    · split
      · rename_i hc
        obtain rfl := beq_iff_eq.mp hc
        exact hsimple 'n' rfl (by decide)
      · split
        · rename_i hc
          obtain rfl := beq_iff_eq.mp hc
          exact hsimple 'r' rfl (by decide)
        · split
          · simp_all [Escapes.plain]
          · exact escapes_codeEscape h

/-- A quoted character is the character or an escape. -/
theorem quotedChar_cases (q c : Char) :
    (Text.quotedChar q c = [c] ∧ c ≠ q ∧ c ≠ '\\' ∧ Text.isPrintable c = true)
      ∨ ∃ w, Text.quotedChar q c = '\\' :: w := by
  unfold Text.quotedChar Text.codeEscape
  dsimp only
  repeat' split
  all_goals first
    | exact .inr ⟨_, rfl⟩
    | simp_all

/-- What is put between quotation marks stands for the text. -/
theorem escapes_flatMap (hq : q ∈ ['\'', '"']) (cs : List Char) :
    Escapes q (cs.flatMap (Text.quotedChar q)) cs := by
  induction cs with
  | nil => exact .nil
  | cons c cs ih =>
    rw [List.flatMap_cons]
    exact escapes_quotedChar hq ih

/-! ## Ends of literals -/

/-- Characters that do not end a literal are passed over. -/
theorem literalEnd?_of_plain (h : ∀ c ∈ body, c ≠ q ∧ c ≠ '\\' ∧ c ≠ '\n') (n : Nat)
    (rest : List Char) :
    literalEnd? q 1 0 n (body ++ rest) = literalEnd? q 1 0 (n + body.length) rest := by
  induction body generalizing n with
  | nil => rfl
  | cons c body ih =>
    obtain ⟨hc, hbody⟩ := List.forall_mem_cons.mp h
    rw [List.cons_append, literalEnd?.eq_def]
    simp [hc, ih hbody, Nat.add_assoc, Nat.add_comm 1]

/-- A text literal ends with a quotation mark. -/
theorem literalEnd?_split {size run n k : Nat} (h : literalEnd? q size run n cs = some k) :
    ∃ body rest, cs = body ++ q :: rest ∧ k = n + body.length + 1 := by
  fun_induction literalEnd? q size run n cs with
  | case1 => cases h
  | case2 => cases h
  | case3 run n c cs hnewline hquote hrun =>
    cases h
    exact ⟨[], cs, by rw [beq_iff_eq.mp hquote]; rfl, rfl⟩
  | case4 run n c cs hnewline hquote hrun ih =>
    obtain ⟨body, rest, rfl, rfl⟩ := ih h
    exact ⟨c :: body, rest, rfl, by rw [List.length_cons]; omega⟩
  | case5 => cases h
  | case6 run n c hnewline hquote hslash c' cs ih =>
    obtain ⟨body, rest, rfl, rfl⟩ := ih h
    exact ⟨c :: c' :: body, rest, rfl, by rw [List.length_cons, List.length_cons]; omega⟩
  | case7 run n c cs hnewline hquote hslash ih =>
    obtain ⟨body, rest, rfl, rfl⟩ := ih h
    exact ⟨c :: body, rest, rfl, by rw [List.length_cons]; omega⟩

/-- A literal with one quotation mark at each end. -/
theorem cut_of_single (mark : List Char) (hmark : mark.all Char.isAlpha = true)
    (hq : q.isAlpha = false) (hrest : rest.head? ≠ some q ∨ rest = [q]) :
    Format.cut (mark ++ q :: rest) = (mark.map Char.toLower, rest.take (rest.length - 1)) := by
  have htake : (mark ++ q :: rest).takeWhile Char.isAlpha = mark := by
    rw [List.takeWhile_append_of_pos (List.all_eq_true.mp hmark),
      List.takeWhile_cons_of_neg (by simp [hq]), List.append_nil]
  rw [Format.cut, htake, List.drop_left]
  rcases rest with _ | ⟨a, _ | ⟨b, _ | ⟨c, rest⟩⟩⟩
  · rfl
  · rfl
  · rfl
  · have ha : (q == a) = false := by
      rcases hrest with hrest | hrest
      · simpa using fun heq => hrest (by rw [heq]; rfl)
      · cases hrest
    simp [ha]

namespace Escapes

/-- Resolving the escapes gives the text. -/
theorem decodeFrom?_eq (h : Escapes q body cs) (out : List Char) {fuel : Nat}
    (hfuel : body.length < fuel) :
    Literal.decodeFrom? Text.namedChar? out fuel body = some (out.reverse ++ cs) := by
  induction h generalizing out fuel with
  | nil =>
    obtain ⟨fuel, rfl⟩ := Nat.exists_eq_add_one.mpr (Nat.zero_lt_of_lt hfuel)
    simp [Literal.decodeFrom?]
  | plain hc hslash hbreak _ ih =>
    obtain ⟨fuel, rfl⟩ := Nat.exists_eq_add_one.mpr (Nat.zero_lt_of_lt hfuel)
    rw [Literal.decodeFrom?, if_neg (by simp [hslash]), ih _ (Nat.lt_of_succ_lt_succ hfuel)]
    simp
  | @escape e c ds body cs hescape hds _ ih =>
    obtain ⟨fuel, rfl⟩ := Nat.exists_eq_add_one.mpr (Nat.zero_lt_of_lt hfuel)
    have hfuel' : body.length < fuel := by
      simp only [List.length_cons, List.length_append] at hfuel
      omega
    rw [Literal.decodeFrom?, if_pos (by decide), hescape]
    simp only [ih _ hfuel']
    simp

/-- Without a backslash, the text stands for itself. -/
theorem eq_of_not_mem (h : Escapes q body cs) (hslash : '\\' ∉ body) : body = cs := by
  induction h with
  | nil => rfl
  | plain _ _ _ _ ih => rw [ih (List.not_mem_of_not_mem_cons hslash)]
  | escape _ _ _ _ => exact absurd List.mem_cons_self hslash

/-- Resolving the escapes, if there are any, gives the text. -/
theorem resolve?_eq (h : Escapes q body cs) :
    Format.resolve? (!body.contains '\\') body = some cs := by
  cases hslash : body.contains '\\' with
  | true => exact h.decodeFrom?_eq [] (Nat.lt_succ_self _)
  | false =>
    have hmem : '\\' ∉ body := by simpa using hslash
    exact congrArg some (h.eq_of_not_mem hmem)

/-- Digits do not end a literal. -/
theorem plain_of_isHex {ds : List Char} (hq : q ∈ ['\'', '"']) (hds : ds.all Numeral.isHex = true) :
    ∀ c ∈ ds, c ≠ q ∧ c ≠ '\\' ∧ c ≠ '\n' := by
  intro c hc
  have hhex := List.all_eq_true.mp hds c hc
  refine ⟨?_, ?_, ?_⟩
  · rintro rfl
    simp only [List.mem_cons, List.not_mem_nil, or_false] at hq
    rcases hq with rfl | rfl <;> cases hhex
  · rintro rfl
    cases hhex
  · rintro rfl
    cases hhex

/-- The literal ends at the closing quotation mark. -/
theorem literalEnd?_eq (h : Escapes q body cs) (hq : q ∈ ['\'', '"']) (n : Nat) (rest : List Char) :
    literalEnd? q 1 0 n (body ++ q :: rest) = some (n + body.length + 1) := by
  have hbreak : q ≠ '\n' ∧ q ≠ '\\' := by
    constructor
    all_goals
      rintro rfl
      revert hq
      decide
  induction h generalizing n with
  | nil =>
    rw [List.nil_append, literalEnd?.eq_def]
    simp [hbreak]
  | plain hc hslash hline _ ih =>
    rw [List.cons_append, literalEnd?.eq_def]
    simp [hc, hslash, hline, ih, Nat.add_assoc, Nat.add_comm 1]
  | @escape e c ds body cs _ hds _ ih =>
    rw [List.cons_append, List.cons_append, List.append_assoc, literalEnd?.eq_def]
    simp [hbreak.2.symm, literalEnd?_of_plain (plain_of_isHex hq hds), ih]
    omega

/-- What is put between quotation marks does not start with one. -/
theorem head?_ne (h : Escapes q body cs) (hq : q ∈ ['\'', '"']) : body.head? ≠ some q := by
  cases h with
  | nil => nofun
  | plain hc _ _ _ => simpa using hc
  | escape _ _ _ =>
    rintro (heq : some '\\' = some q)
    cases heq
    revert hq
    decide

theorem cut_eq (h : Escapes q body cs) (hq : q ∈ ['\'', '"']) :
    Format.cut (q :: body ++ [q]) = ([], body) := by
  have halpha : q.isAlpha = false := by
    simp only [List.mem_cons, List.not_mem_nil, or_false] at hq
    rcases hq with rfl | rfl <;> rfl
  have hhead : (body ++ [q]).head? ≠ some q ∨ body ++ [q] = [q] := by
    cases body with
    | nil => exact .inr rfl
    | cons a body => exact .inl (h.head?_ne hq)
  refine (cut_of_single [] rfl halpha hhead).trans ?_
  simp

theorem literalLength?_eq (h : Escapes q body cs) (hq : q ∈ ['\'', '"'])
    (hrest : rest.head? ≠ some q) :
    literalLength? (q :: body ++ q :: rest) = some (body.length + 2) := by
  have hend := h.literalEnd?_eq hq 0 rest
  have hhead := h.head?_ne hq
  match body, rest with
  | [], [] => simp [literalLength?]
  | [], b :: rest =>
    have hb : b ≠ q := by simpa using hrest
    simp [literalLength?, hb]
  | [a], rest =>
    have ha : a ≠ q := by simpa using hhead
    rw [List.cons_append, List.nil_append] at hend
    simp [literalLength?, ha, hend]
  | a :: b :: body, rest =>
    have ha : a ≠ q := by simpa using hhead
    rw [List.cons_append, List.cons_append] at hend
    simp [literalLength?, ha, hend]

/-- Characters before the first escape do not end the literal, and the rest stands for a text. -/
theorem of_append {front : List Char} (h : Escapes q (front ++ body) cs) (hslash : '\\' ∉ front) :
    (∀ c ∈ front, c ≠ q ∧ c ≠ '\\' ∧ c ≠ '\n') ∧ ∃ cs', Escapes q body cs' := by
  induction front generalizing cs with
  | nil => exact ⟨nofun, cs, h⟩
  | cons c front ih =>
    rw [List.mem_cons, not_or] at hslash
    generalize htext : c :: front ++ body = text at h
    cases h with
    | nil => cases htext
    | plain hc hslash' hline h =>
      obtain ⟨rfl, rfl⟩ := List.cons.inj htext
      obtain ⟨hfront, hbody⟩ := ih h hslash.2
      exact ⟨List.forall_mem_cons.mpr ⟨⟨hc, hslash', hline⟩, hfront⟩, hbody⟩
    | escape _ _ _ => exact absurd (List.cons.inj htext).1.symm hslash.1

/-- What stands between the quotation marks is read as the text. -/
theorem literals?_eq (h : Escapes q body cs) (hq : q ∈ ['\'', '"']) (rule : Rule Expr) :
    Format.literals? rule [q :: body ++ [q]] = some (.constant (.str (String.ofList cs) false)) := by
  have hmarked : (([q :: body ++ [q]].head?.bind (·.head?)) == some 'u') = false := by
    simp only [List.mem_cons, List.not_mem_nil, or_false] at hq
    rcases hq with rfl | rfl <;> rfl
  have hpart : Format.part? rule false (q :: body ++ [q]) = some (.text cs) := by
    simp only [Format.part?, h.cut_eq hq, List.contains_nil, Bool.false_or, Bool.false_eq_true,
      if_false, h.resolve?_eq]
    rfl
  rw [List.cons_append] at hpart hmarked ⊢
  rw [Format.literals?, hmarked]
  simp [hpart, Format.combine?]

end Escapes

/-! ## Clean text -/

/-- The character is neither a carriage return nor a null character. -/
def isClean (c : Char) : Bool := c != '\r' && c != '\x00'

theorem not_mem_of_isClean (h : cs.all isClean = true) : '\r' ∉ cs ∧ '\x00' ∉ cs := by
  constructor
  all_goals
    intro hmem
    cases List.all_eq_true.mp h _ hmem

theorem all_isClean_of_isHex (h : cs.all Numeral.isHex = true) : cs.all isClean = true := by
  refine List.all_eq_true.mpr fun c hc => ?_
  have hhex := List.all_eq_true.mp h c hc
  rw [isClean, Bool.and_eq_true, bne_iff_ne, bne_iff_ne]
  constructor
  all_goals
    rintro rfl
    cases hhex

theorem isClean_of_isPrintable (h : Text.isPrintable c = true) : isClean c = true := by
  rw [isClean, Bool.and_eq_true, bne_iff_ne, bne_iff_ne]
  constructor
  all_goals
    rintro rfl
    exact absurd h (by decide)

theorem all_isClean_codeEscape (c : Char) : (Text.codeEscape c).all isClean = true := by
  have hdigits (width : Nat) := all_isClean_of_isHex (all_isHex_hexPadded width c.toNat)
  unfold Text.codeEscape
  dsimp only
  repeat' split
  all_goals
    simp only [List.all_cons, hdigits]
    rfl

theorem all_isClean_quotedChar (hq : isClean q = true) (c : Char) :
    (Text.quotedChar q c).all isClean = true := by
  unfold Text.quotedChar
  split
  · rename_i hc
    have hclean : isClean c = true := by
      rcases (Bool.or_eq_true _ _).mp hc with hc | hc
      · rwa [beq_iff_eq.mp hc]
      · rw [beq_iff_eq.mp hc]
        rfl
    rw [List.all_cons, List.all_cons, hclean]
    rfl
  · repeat' split
    · rfl
    · rfl
    · rfl
    · rename_i hprintable
      simp [isClean_of_isPrintable hprintable]
    · exact all_isClean_codeEscape c

/-- The quoted form of a text is clean. -/
theorem all_isClean_quoted (cs : List Char) : (Text.quoted cs).all isClean = true := by
  have hquote : isClean (Text.quoteFor cs) = true := by
    unfold Text.quoteFor
    split <;> rfl
  have hinside : (cs.flatMap (Text.quotedChar (Text.quoteFor cs))).all isClean = true := by
    rw [List.all_flatMap, List.all_eq_true]
    intro c _
    exact all_isClean_quotedChar hquote c
  simp [Text.quoted, hquote, hinside]

/-! ## Literals as tokens -/

/-- The next token is a literal with a mark of `n` letters. -/
theorem Lexer.State.At.takes_marked {s : State} {w bs : List Char} {before : List Lexeme} {n m : Nat}
    (h : s.At (c :: w ++ cs) bs before) (hc : isPassedOver c = false)
    (hmark : markLength? (c :: w ++ cs) = some n)
    (hlength : literalLength? ((c :: w ++ cs).drop n) = some m) (hw : (c :: w).length = n + m) :
    s.Takes cs bs before ⟨.string, String.ofList (c :: w)⟩ := by
  have htoken : s.token c = s.emit .string (c :: w).length := by
    rw [State.token, h.ahead, hmark]
    simp only [hlength, hw]
  have hlt : cs.length < s.ahead.length := by
    simp only [h.ahead, List.length_append, List.length_cons]
    omega
  have hkind : ∀ why, TokenKind.string ≠ .fault why := by simp
  exact ⟨hlt, _, htoken ▸ h.step hc, h.emit .string hkind⟩

theorem isPassedOver_quote (hq : q ∈ ['\'', '"']) : isPassedOver q = false := by
  simp only [List.mem_cons, List.not_mem_nil, or_false] at hq
  rcases hq with rfl | rfl <;> rfl

/-- A literal is one token. -/
theorem RunsTo.escapes {bs : List Char} {ls : List Lexeme} (h : Escapes q body cs)
    (hq : q ∈ ['\'', '"']) (hrest : rest.head? ≠ some q) (hls : RunsTo rest bs ls) :
    RunsTo (q :: body ++ [q] ++ rest) bs (⟨.string, String.ofList (q :: body ++ [q])⟩ :: ls) := by
  have hmark : markLength? (q :: (body ++ [q]) ++ rest) = some 0 := by
    simp only [List.mem_cons, List.not_mem_nil, or_false] at hq
    rcases hq with rfl | rfl <;> rfl
  have hlength : literalLength? ((q :: (body ++ [q]) ++ rest).drop 0) = some (body.length + 2) := by
    have := h.literalLength?_eq hq hrest
    simpa using this
  intro s before fuel hs hfuel
  exact hls.takes hs (hs.takes_marked (isPassedOver_quote hq) hmark hlength (by simp)) hfuel

/-- The tokens of a text that does not start with blank space. -/
theorem RunsTo.lexemes {ls : List Lexeme} (h : RunsTo (c :: cs) [] ls) (hc : isPassedOver c = false) :
    (tokens (c :: cs)).map Token.lexeme = ls := by
  rw [tokens, State.run_of_step (step_start hc cs) (by omega)]
  exact h ⟨rfl, rfl, rfl, rfl, rfl, rfl⟩ (by rw [List.length_cons]; omega)

theorem reads_literal {b : Grammar.Below} {w : String} {e : Expr} {u : Lexeme} {ls : List Lexeme}
    (hu : u.isEnd = true)
    (hw : Format.literals? (Grammar.starExpressions b) [w.toList] = some e) :
    Reads (Grammar.expression b) (⟨.string, w⟩ :: u :: ls) e (u :: ls) :=
  Grammar.reads_expression rfl hu (Grammar.reads_primary_atom hu (Grammar.reads_atom_string hu hw))

/-- A text that is one literal is the expression that the literal stands for. -/
theorem parseExpr_of_literal {w : List Char} {e : Expr} (hclean : w.all isClean = true)
    (hls : (tokens w).map Token.lexeme = [⟨.string, String.ofList w⟩, ⟨.finish, ""⟩])
    (he : Format.literals? (Grammar.starExpressions (Grammar.rules (w.length + 1))) [w] = some e) :
    parseExpr (String.ofList w) = .ok e := by
  obtain ⟨hbreaks, hnul⟩ := not_mem_of_isClean hclean
  rw [← String.toList_ofList (l := w)] at hbreaks hnul
  have hls' : (tokens (String.ofList w).toList).map Token.lexeme
      = [⟨.string, String.ofList w⟩, ⟨.finish, ""⟩] := by rw [String.toList_ofList, hls]
  refine parseExpr_of_reads hbreaks hnul hls' (reads_literal rfl ?_)
  rw [String.toList_ofList]
  exact he

/-- The quoted form of a text is an expression that stands for the text. -/
theorem parseExpr_quote (s : String) : parseExpr (Value.quote s) = .ok (.constant (.str s false)) := by
  have hq := quoteFor_mem s.toList
  have hescapes := escapes_flatMap hq s.toList
  have hruns : RunsTo (Text.quoted s.toList ++ []) []
      [⟨.string, String.ofList (Text.quoted s.toList)⟩, ⟨.finish, ""⟩] :=
    RunsTo.escapes hescapes hq (by nofun) Cuts.finish.runsTo
  rw [List.append_nil] at hruns
  refine parseExpr_of_literal (all_isClean_quoted s.toList) (hruns.lexemes (isPassedOver_quote hq))
    ?_
  rw [Text.quoted, hescapes.literals?_eq hq, String.ofList_toList]

/-- A literal in parentheses. -/
theorem reads_parenthesised {n : Nat} {w : String} {e : Expr} {u : Lexeme} {ls : List Lexeme}
    (hu : u.isEnd = true) (he : Grammar.isStarred e = false)
    (hw : Format.literals? (Grammar.starExpressions (Grammar.rules n)) [w.toList] = some e) :
    Reads (Grammar.expression (Grammar.rules (n + 1)))
      (⟨.symbol, "("⟩ :: ⟨.string, w⟩ :: ⟨.symbol, ")"⟩ :: u :: ls) e (u :: ls) := by
  have hnamed : Reads (Grammar.seesNamed ":=") (⟨.string, w⟩ :: ⟨.symbol, ")"⟩ :: u :: ls) false
      (⟨.string, w⟩ :: ⟨.symbol, ")"⟩ :: u :: ls) := by
    refine .peek rfl fun t ht => ?_
    have hname : t.name? = none := by
      have hkind : t.kind = .string := congrArg Lexeme.kind ht
      simp [Token.name?, hkind]
    rw [hname]
    exact .pure
  have hitem : Reads (Grammar.starNamed (Grammar.rules (n + 1)))
      (⟨.string, w⟩ :: ⟨.symbol, ")"⟩ :: u :: ls) e (⟨.symbol, ")"⟩ :: u :: ls) :=
    .otherwise rfl rfl (.bind hnamed (.bind (reads_literal rfl hw) (.bind (.sees rfl) .pure)))
  have hclauses : Reads (Grammar.clauses (Grammar.rules (n + 1))) (⟨.symbol, ")"⟩ :: u :: ls) []
      (⟨.symbol, ")"⟩ :: u :: ls) :=
    .many_nil (.bind (.accept_no rfl rfl) (.otherwise rfl rfl .pure))
  refine Grammar.reads_expression rfl hu (Grammar.reads_primary_atom hu (.peek rfl fun t ht => ?_))
  have hkind : t.kind = .symbol := congrArg Lexeme.kind ht
  have htext : t.text = "(" := congrArg Lexeme.text ht
  simp only [hkind, htext]
  refine .bind .advance (.otherwise rfl rfl (.bind (.sees rfl) (.bind hitem (.otherwise rfl rfl ?_))))
  rw [he]
  exact .bind hclauses (.bind (.expect rfl rfl) .pure)

/-- The quoted form of a text may stand in a field of a formatted literal. -/
theorem inner?_quoted (cs : List Char) (n : Nat) :
    Format.inner? (Grammar.starExpressions (Grammar.rules (n + 2))) (Text.quoted cs)
      = some (.constant (.str (String.ofList cs) false)) := by
  have hq := quoteFor_mem cs
  have hescapes := escapes_flatMap hq cs
  have hspace : (Text.quoted cs).all Format.isSpace = false := by
    rw [Text.quoted, List.cons_append, List.all_cons, Text.quoteFor]
    split <;> rfl
  have hclosing : RunsTo [')'] ['('] [⟨.symbol, ")"⟩, ⟨.finish, ""⟩] :=
    (Cuts.closing ")" rfl rfl .finish).runsTo
  have hliteral : RunsTo (Text.quoted cs ++ [')']) ['('] [
      ⟨.string, String.ofList (Text.quoted cs)⟩, ⟨.symbol, ")"⟩, ⟨.finish, ""⟩] := by
    refine RunsTo.escapes hescapes hq ?_ hclosing
    intro heq
    rw [← Option.some.inj heq] at hq
    revert hq
    decide
  have hruns : RunsTo ('(' :: (Text.quoted cs ++ [')'])) [] [⟨.symbol, "("⟩,
      ⟨.string, String.ofList (Text.quoted cs)⟩, ⟨.symbol, ")"⟩, ⟨.finish, ""⟩] := by
    intro s before fuel hs hfuel
    exact hliteral.takes hs (hs.takes_opening rfl (by decide)) hfuel
  have hreads : Reads (Grammar.starExpressions (Grammar.rules (n + 2))) [⟨.symbol, "("⟩,
      ⟨.string, String.ofList (Text.quoted cs)⟩, ⟨.symbol, ")"⟩, ⟨.finish, ""⟩]
      (.constant (.str (String.ofList cs) false)) [⟨.finish, ""⟩] := by
    refine Grammar.reads_tupleOf (.otherwise rfl rfl (reads_parenthesised rfl rfl ?_))
    rw [String.toList_ofList, Text.quoted]
    exact hescapes.literals?_eq hq _
  obtain ⟨c', hc', -⟩ := hreads ⟨tokens ('(' :: (Text.quoted cs ++ [')'])), 0, 0⟩ (hruns.lexemes rfl)
  rw [Format.inner?, if_neg (by simp [hspace]), List.cons_append, hc']

/-! ## Literals that cannot be read -/

/-- The lexer only adds tokens. -/
def Lexer.State.Grows (s s' : State) : Prop := ∃ new, s'.found = new ++ s.found

namespace Lexer.State.Grows

variable {s s' : State}

theorem refl : s.Grows s := ⟨[], rfl⟩

theorem trans {s'' : State} (h : s.Grows s') (h' : s'.Grows s'') : s.Grows s'' := by
  obtain ⟨new, hnew⟩ := h
  obtain ⟨new', hnew'⟩ := h'
  exact ⟨new' ++ new, by rw [hnew', hnew, List.append_assoc]⟩

theorem emit (kind : TokenKind) (n : Nat) : s.Grows (s.emit kind n) := ⟨[_], rfl⟩

theorem dedents (n : Nat) (s : State) : s.Grows (s.dedents n) := by
  induction n generalizing s with
  | zero => exact refl
  | succ n ih => exact (emit .dedent 0).trans (ih _)

theorem align (wide narrow : Nat) : s.Grows (s.align wide narrow) := by
  unfold State.align
  repeat' split
  all_goals first
    | exact refl
    | exact dedents _ s
    | exact emit _ 0

theorem startLine : s.Grows s.startLine := by
  unfold State.startLine
  split
  · exact emit _ 0
  · dsimp only
    repeat' split
    all_goals first
      | exact ⟨[], rfl⟩
      | exact align _ _

theorem symbol (c : Char) : s.Grows (s.symbol c) := by
  unfold State.symbol
  repeat' split
  all_goals exact ⟨[_], rfl⟩

theorem token (c : Char) : s.Grows (s.token c) := by
  unfold State.token
  dsimp only
  repeat' split
  all_goals first
    | exact ⟨[_], rfl⟩
    | exact symbol c

theorem of_step (h : s.step = some s') : s.Grows s' := by
  unfold State.step at h
  repeat' split at h
  all_goals cases h
  all_goals first
    | exact startLine
    | exact token _
    | exact ⟨[], rfl⟩
    | exact ⟨[_], rfl⟩

theorem run (fuel : Nat) (s : State) : s.Grows (s.run fuel) := by
  induction fuel generalizing s with
  | zero => exact refl
  | succ fuel ih =>
    rw [State.run]
    split
    · rename_i s' hstep
      exact (of_step hstep).trans (ih s')
    · exact refl

theorem finish (s : State) : ∃ new, s.finish = s.found.reverse ++ new := by
  have hlast : ∀ last : State, s.Grows last → ∃ new, last.found.reverse = s.found.reverse ++ new := by
    rintro last ⟨new, hnew⟩
    exact ⟨new.reverse, by rw [hnew, List.reverse_append]⟩
  unfold State.finish
  dsimp only
  split
  · exact hlast _ refl
  · split
    · exact hlast _ (emit _ 0)
    · exact hlast _ ((dedents _ s).trans (emit _ 0))

end Lexer.State.Grows

/-- The tokens of a text that starts with a literal with a mark of `n` letters. -/
theorem exists_tokens_of_marked {w : List Char} {n m : Nat} (hc : isPassedOver c = false)
    (hmark : markLength? (c :: w ++ cs) = some n)
    (hlength : literalLength? ((c :: w ++ cs).drop n) = some m) (hw : (c :: w).length = n + m) :
    ∃ t ts, tokens (c :: w ++ cs) = t :: ts ∧ t.lexeme = ⟨.string, String.ofList (c :: w)⟩ := by
  have hstart : (⟨c :: w ++ cs, 0, 1, false, [(0, 0)], [], [], 0⟩ : State).At (c :: w ++ cs) [] [] :=
    ⟨rfl, rfl, rfl, rfl, rfl, rfl⟩
  obtain ⟨-, s, hstep, hs⟩ := hstart.takes_marked hc hmark hlength hw
  obtain ⟨t, hfound, ht⟩ := List.map_eq_singleton_iff.mp hs.found
  obtain ⟨new, hnew⟩ := State.Grows.run (2 * (c :: w ++ cs).length) s
  obtain ⟨more, hmore⟩ := State.Grows.finish (s.run (2 * (c :: w ++ cs).length))
  have hfirst : (⟨c :: w ++ cs, 0, 1, true, [(0, 0)], [], [], 0⟩ : State).step
      = some ⟨c :: w ++ cs, 0, 1, false, [(0, 0)], [], [], 0⟩ := step_start hc (w ++ cs)
  refine ⟨t, new.reverse ++ more, ?_, ht⟩
  rw [tokens, State.run_of_step hfirst (by omega), State.run_of_step hstep (by omega)]
  show (s.run (2 * (c :: w ++ cs).length)).finish = _
  rw [hmore, hnew, List.reverse_append, hfound, List.append_assoc]
  rfl

/-- The rule gives no result where the next token is of this form. -/
def Rejects {α : Type} (r : Rule α) (l : Lexeme) : Prop :=
  ∀ (c : Cursor) (t : Token) (ts : List Token), c.ahead = t :: ts → t.lexeme = l →
    ∀ a c', r c ≠ .read a c'

namespace Rejects

open Rule Grammar

variable {α β : Type} {l : Lexeme}

theorem bind {r : Rule α} (h : Rejects r l) (f : α → Rule β) : Rejects (r >>= f) l := by
  intro c t ts hc ht b c' hread
  change Rule.bind r f c = _ at hread
  unfold Rule.bind at hread
  split at hread
  · exact h c t ts hc ht _ _ ‹_›
  · cases hread
  · cases hread

/-- A rule that is rejected after one that reads nothing. -/
theorem after {r : Rule α} {f : α → Rule β} {a : α} (hr : ∀ ls, Reads r (l :: ls) a (l :: ls))
    (h : Rejects (f a) l) : Rejects (r >>= f) l := by
  intro c t ts hc ht b c' hread
  obtain ⟨c₁, hc₁, hahead⟩ := hr (ts.map Token.lexeme) c (by rw [hc, List.map_cons, ht])
  obtain ⟨t₁, ts₁, hc₁', ht₁, -⟩ := List.map_eq_cons_iff.mp hahead
  change Rule.bind r f c = _ at hread
  rw [Rule.bind, hc₁] at hread
  exact h c₁ t₁ ts₁ hc₁' ht₁ _ _ hread

theorem otherwise {text : String} {p r : Rule α} (hl : l.isStart = true)
    (htext : text ∈ ["lambda", "not", "+", "-", "~", "await"]) (h : Rejects r l) :
    Rejects (do if ← accept text then p else r) l :=
  after (fun _ => Reads.accept_no (Bool.and_eq_true_iff.mp hl).1 (is_of_isStart hl htext)) h

theorem manyFrom_eq {p : Rule (Option α)} {found as : List α} {fuel : Nat} {c c' : Cursor}
    (h : manyFrom p found fuel c = .read as c') : ∃ more, as = found.reverse ++ more := by
  induction fuel generalizing found c with
  | zero =>
    cases h
    exact ⟨[], (List.append_nil _).symm⟩
  | succ fuel ih =>
    change Rule.bind p _ c = _ at h
    unfold Rule.bind at h
    split at h
    · rename_i next _ _
      cases next with
      | some a =>
        obtain ⟨more, rfl⟩ := ih h
        exact ⟨a :: more, by simp⟩
      | none =>
        cases h
        exact ⟨[], (List.append_nil _).symm⟩
    · cases h
    · cases h

theorem many_eq {p : Rule (Option α)} {ls mid : List Lexeme} {a : α} {as : List α} {c c' : Cursor}
    (hp : Reads p ls (some a) mid) (hc : c.ahead.map Token.lexeme = ls)
    (h : many p c = .read as c') : ∃ more, as = a :: more := by
  obtain ⟨c₁, hc₁, -⟩ := hp c hc
  change Rule.bind p _ c = _ at h
  rw [Rule.bind, hc₁] at h
  exact manyFrom_eq h

section

variable {b : Below} {w : String}
  (h : ∀ marked, Format.part? (starExpressions b) marked w.toList = none)
include h

theorem literals?_eq_none (more : List (List Char)) :
    Format.literals? (starExpressions b) (w.toList :: more) = none := by
  rw [Format.literals?, List.mapM_cons, h]
  rfl

/-- No rule makes up for a literal that cannot be read. -/
theorem strings : Rejects (Grammar.strings b) ⟨.string, w⟩ := by
  intro c t ts hc ht e c' hread
  change Rule.bind (Rule.many _) _ c = _ at hread
  unfold Rule.bind at hread
  split at hread
  · rename_i texts c₁ hmany
    obtain ⟨more, rfl⟩ := many_eq reads_string (by rw [hc, List.map_cons, ht]) hmany
    simp only [literals?_eq_none h] at hread
    cases hread
  · cases hread
  · cases hread

theorem atom : Rejects (Grammar.atom b) ⟨.string, w⟩ := by
  intro c t ts hc ht e c' hread
  have hkind : t.kind = .string := congrArg Lexeme.kind ht
  have hpeek : Rule.peek c = .read t { c with far := max c.far t.index } := by
    rw [Rule.peek, hc]
    simp only [hkind]
  change Rule.bind Rule.peek _ c = _ at hread
  rw [Rule.bind, hpeek] at hread
  simp only [hkind] at hread
  exact strings h { c with far := max c.far t.index } t ts hc ht _ _ hread

theorem factor : Rejects (Grammar.factor b) ⟨.string, w⟩ := by
  iterate 3 refine otherwise rfl (by decide) ?_
  exact ((otherwise rfl (by decide) ((atom h).bind _))).bind _

/-- An expression that starts with a literal that cannot be read. -/
theorem expression : Rejects (Grammar.expression b) ⟨.string, w⟩ := by
  have hcomparison : Rejects (comparison b) ⟨.string, w⟩ :=
    ((((((factor h).bind _).bind _).bind _).bind _).bind _ |>.bind _).bind _
  refine after (fun _ => Reads.sees rfl) ?_
  exact (((otherwise rfl (by decide) hcomparison).bind _).bind _).bind _

end

end Rejects

/-- A text that starts with a literal that cannot be read is no expression. -/
theorem parseExpr_ne_ok {source : String} {w : String} {t : Token} {ts : List Token}
    (hbreaks : '\r' ∉ source.toList) (htokens : tokens source.toList = t :: ts)
    (ht : t.lexeme = ⟨.string, w⟩)
    (h : ∀ n marked, Format.part? (Grammar.starExpressions (Grammar.rules n)) marked w.toList = none)
    (e : Expr) : parseExpr source ≠ .ok e := by
  have hsingle (n : Nat) : Rejects (single (n + 1)) ⟨.string, w⟩ :=
    ((Rejects.expression (h n)).bind _ |>.bind _).bind _
  intro hread
  rw [parseExpr, Text.unifyBreaks_of_not_mem hbreaks] at hread
  split at hread
  · cases hread
  · unfold apply at hread
    rw [htokens] at hread
    dsimp only at hread
    split at hread
    · exact hsingle _ _ t ts rfl ht _ _ ‹_›
    · cases hread
    · cases hread

end Docsmith.Source
