-- SUMMARY: How the text of an expression is cut into tokens.
import Docsmith.Source.Lexer

/-!
# Cutting

For the grammar a token is its kind and its text. `Cuts` says how a text that is
read on one line, possibly inside brackets, is cut: into names, symbols, brackets
and quoted texts, with blanks between them. The lexer cuts every such text in this
way, whatever stands in the quoted texts, as long as it does not end them.
-/

namespace Docsmith.Source

/-- What the grammar sees of a token. -/
structure Lexeme where
  kind : TokenKind
  text : String
deriving DecidableEq

/-- What the grammar sees of a token. -/
def Token.lexeme (t : Token) : Lexeme := ⟨t.kind, t.text⟩

namespace Lexer

/-! ## Characters -/

/-- The word is a name of plain characters that starts with no digit. -/
def isWord (w : List Char) : Bool :=
  isName w && w.all isNameLike && !w.head?.any Char.isDigit

/-- The character ends a word, and what stands before it marks no text literal. -/
def endsWord (c : Char) : Bool := !isNameLike c && c != '"' && c != '\''

/-- Characters that are passed over, that start a remark or that continue a line. -/
def isPassedOver (c : Char) : Bool := [' ', '\t', '\x0c', '#', '\n', '\\'].contains c

/-- The character is a symbol of its own before the next one, and no bracket. -/
def isLoneSymbol (c next : Char) : Bool :=
  endsWord c && !isPassedOver c && (closer c).isNone && !([')', ']', '\x7d'].contains c)
    && !(c == '.' && next.isDigit) && longSymbols.all fun s => s.take 2 != [c, next]

/-- Characters that may stand between quotation marks as they are. -/
def isQuotable (c : Char) : Bool := c != '"' && c != '\\' && c != '\n'

theorem isNameLike_of_isAlpha {c : Char} (h : c.isAlpha = true) : isNameLike c = true := by
  simp [isNameLike, Char.isAlphanum, h]

theorem isNameLike_of_isDigit {c : Char} (h : c.isDigit = true) : isNameLike c = true := by
  simp [isNameLike, Char.isAlphanum, h]

theorem isPassedOver_eq_false {c : Char} : isPassedOver c = false ↔
    c ≠ ' ' ∧ c ≠ '\t' ∧ c ≠ '\x0c' ∧ c ≠ '#' ∧ c ≠ '\n' ∧ c ≠ '\\' := by
  simp [isPassedOver]

theorem not_isPassedOver {c : Char} (h : isNameLike c = true) : isPassedOver c = false := by
  rw [isPassedOver_eq_false]
  refine ⟨?_, ?_, ?_, ?_, ?_, ?_⟩
  all_goals
    rintro rfl
    cases h

/-- What follows the letters at the start of a word before `next` is no quotation mark. -/
theorem dropWhile_isAlpha {w : List Char} {next : Char} (hw : w.all isNameLike = true)
    (hnext : endsWord next = true) (rest : List Char) :
    ∃ c cs, (w ++ next :: rest).dropWhile Char.isAlpha = c :: cs ∧ c ≠ '"' ∧ c ≠ '\'' := by
  simp only [endsWord, Bool.and_eq_true, Bool.not_eq_true', bne_iff_ne] at hnext
  induction w with
  | nil =>
    have halpha : ¬ next.isAlpha = true := fun h => by
      cases (isNameLike_of_isAlpha h).symm.trans hnext.1.1
    exact ⟨next, rest, List.dropWhile_cons_of_neg halpha, hnext.1.2, hnext.2⟩
  | cons c w ih =>
    obtain ⟨hc, hw⟩ := Bool.and_eq_true_iff.mp hw
    by_cases halpha : c.isAlpha = true
    · rw [List.cons_append, List.dropWhile_cons_of_pos halpha]
      exact ih hw
    · refine ⟨c, w ++ next :: rest, List.dropWhile_cons_of_neg halpha, ?_, ?_⟩
      · rintro rfl
        cases hc
      · rintro rfl
        cases hc

theorem drop_length_takeWhile (p : Char → Bool) (cs : List Char) :
    cs.drop (cs.takeWhile p).length = cs.dropWhile p := by
  have h := congrArg (List.drop (cs.takeWhile p).length)
    (List.takeWhile_append_dropWhile (p := p) (l := cs))
  rw [List.drop_left] at h
  exact h.symm

theorem markLength?_eq_none {w rest : List Char} {next : Char} (hw : w.all isNameLike = true)
    (hnext : endsWord next = true) : markLength? (w ++ next :: rest) = none := by
  obtain ⟨c, cs, hdrop, hdouble, hsingle⟩ := dropWhile_isAlpha hw hnext rest
  rw [markLength?, drop_length_takeWhile, hdrop]
  simp [hdouble, hsingle]

theorem symbolLength_eq_one {c next : Char} (h : longSymbols.all (fun s => s.take 2 != [c, next]))
    (rest : List Char) : symbolLength (c :: next :: rest) = 1 := by
  have hnone : longSymbols.find? (·.isPrefixOf (c :: next :: rest)) = none := by
    refine List.find?_eq_none.mpr fun s hs hprefix => ?_
    have htwo : ∀ s ∈ longSymbols, 2 ≤ s.length := by decide
    obtain ⟨tail, htail⟩ := List.isPrefixOf_iff_prefix.mp hprefix
    have htake : s.take 2 = [c, next] := by
      have := congrArg (List.take 2) htail
      rwa [List.take_append_of_le_length (htwo s hs)] at this
    exact absurd htake (by simpa using List.all_eq_true.mp h s hs)
  rw [symbolLength, hnone]

theorem literalEnd?_eq {body : List Char} (h : body.all isQuotable = true) (rest : List Char)
    (n : Nat) : literalEnd? '"' 1 0 n (body ++ '"' :: rest) = some (n + body.length + 1) := by
  induction body generalizing n with
  | nil =>
    rw [List.nil_append, literalEnd?.eq_def]
    simp
  | cons c body ih =>
    obtain ⟨hc, hbody⟩ := Bool.and_eq_true_iff.mp h
    simp only [isQuotable, Bool.and_eq_true, bne_iff_ne] at hc
    rw [List.cons_append, literalEnd?.eq_def]
    simp [hc, ih hbody]
    omega

theorem literalLength?_eq {body : List Char} (h : body.all isQuotable = true) (hbody : body ≠ [])
    (rest : List Char) :
    literalLength? ('"' :: (body ++ '"' :: rest)) = some (body.length + 2) := by
  obtain ⟨c, body, rfl⟩ := List.exists_cons_of_ne_nil hbody
  have hc : c ≠ '"' := by
    have hquotable := (Bool.and_eq_true_iff.mp h).1
    simp only [isQuotable, Bool.and_eq_true, bne_iff_ne] at hquotable
    exact hquotable.1.1
  obtain ⟨d, ds, hds⟩ : ∃ d ds, body ++ '"' :: rest = d :: ds :=
    List.exists_cons_of_ne_nil (by simp)
  have hend := literalEnd?_eq h rest 0
  rw [List.cons_append, hds] at hend
  rw [List.cons_append, hds, literalLength?]
  simp [hc, hend]

/-! ## States -/

/-- The lexer stands on an unindented line between two tokens. -/
structure State.At (s : State) (ahead brackets : List Char) (before : List Lexeme) : Prop where
  ahead : s.ahead = ahead
  brackets : s.brackets = brackets
  columns : s.columns = [(0, 0)]
  fresh : s.fresh = false
  failed : s.failed = false
  found : s.found.reverse.map Token.lexeme = before

variable {s : State} {w cs bs : List Char} {before : List Lexeme}

theorem State.At.emit (h : s.At (w ++ cs) bs before) (kind : TokenKind)
    (hkind : ∀ why, kind ≠ .fault why) :
    (s.emit kind w.length).At cs bs (before ++ [⟨kind, String.ofList w⟩]) := by
  refine ⟨?_, h.brackets, h.columns, h.fresh, ?_, ?_⟩
  · simp [State.emit, h.ahead]
  · unfold State.failed State.emit
    cases kind <;> simp_all
  · simp [State.emit, h.ahead, h.found, Token.lexeme]

theorem State.At.skip (h : s.At (' ' :: cs) bs before) : (s.skip 1).At cs bs before := by
  refine ⟨?_, h.brackets, h.columns, h.fresh, h.failed, h.found⟩
  simp [State.skip, h.ahead]

theorem State.At.withBrackets (h : s.At cs bs before) (more : List Char) :
    ({ s with brackets := more } : State).At cs more before :=
  ⟨h.ahead, rfl, h.columns, h.fresh, h.failed, h.found⟩

theorem State.At.step {c : Char} (h : s.At (c :: cs) bs before) (hc : isPassedOver c = false) :
    s.step = some (s.token c) := by
  rw [isPassedOver_eq_false] at hc
  simp [State.step, h.failed, h.fresh, h.ahead, hc]

/-! ## Tokens -/

/-- The next step reads one token and leaves the rest ahead. -/
def State.Takes (s : State) (ahead brackets : List Char) (before : List Lexeme) (l : Lexeme) :
    Prop := ahead.length < s.ahead.length
  ∧ ∃ s', s.step = some s' ∧ s'.At ahead brackets (before ++ [l])

theorem State.At.takes_word {text : String} {next : Char}
    (h : s.At (text.toList ++ next :: cs) bs before) (hw : isWord text.toList = true)
    (hnext : endsWord next = true) : s.Takes (next :: cs) bs before ⟨.name, text⟩ := by
  obtain ⟨c, w, hcw⟩ : ∃ c w, text.toList = c :: w := List.exists_cons_of_ne_nil fun hnil => by
    rw [hnil] at hw
    cases hw
  have htext : text = String.ofList (c :: w) := by rw [← hcw, String.ofList_toList]
  rw [hcw] at h hw
  simp only [isWord, Bool.and_eq_true, List.head?_cons, Option.any_some, Bool.not_eq_true'] at hw
  obtain ⟨⟨hname, hlike⟩, hdigit⟩ := hw
  obtain ⟨hc, htail⟩ := Bool.and_eq_true_iff.mp hlike
  have hpoint : c ≠ '.' := by
    rintro rfl
    cases hc
  have hstop : isNameLike next = false := by
    simp only [endsWord, Bool.and_eq_true, Bool.not_eq_true'] at hnext
    exact hnext.1.1
  have htake : (w ++ next :: cs).takeWhile isNameLike = w := by
    rw [List.takeWhile_append_of_pos fun d hd => List.all_eq_true.mp htail d hd,
      List.takeWhile_cons_of_neg (by simp [hstop]), List.append_nil]
  have htoken : s.token c = s.emit .name (c :: w).length := by
    rw [State.token, h.ahead, markLength?_eq_none hlike hnext]
    simp [htake, hname, hdigit, hpoint, hc]
  have hlength : (next :: cs).length < s.ahead.length := by
    simp only [h.ahead, List.length_append, List.length_cons]
    omega
  exact ⟨hlength, _, htoken ▸ h.step (not_isPassedOver hc), htext ▸ h.emit .name nofun⟩

/-- A character that is in no name is read as a symbol. -/
theorem State.At.token_mark {c : Char} (h : s.At (c :: cs) bs before) (hc : endsWord c = true)
    (hpoint : (c == '.' && cs.head?.any Char.isDigit) = false) : s.token c = s.symbol c := by
  have hlike : isNameLike c = false := by
    simp only [endsWord, Bool.and_eq_true, Bool.not_eq_true'] at hc
    exact hc.1.1
  have hdigit : c.isDigit = false := by
    rw [Bool.eq_false_iff]
    intro hdigit
    cases (isNameLike_of_isDigit hdigit).symm.trans hlike
  have hmark : markLength? (c :: cs) = none := markLength?_eq_none (w := []) rfl hc
  rw [State.token, h.ahead, hmark]
  simp [hdigit, hpoint, hlike]

theorem State.At.takes_lone {c next : Char} (h : s.At (c :: next :: cs) bs before)
    (hc : isLoneSymbol c next = true) :
    s.Takes (next :: cs) bs before ⟨.symbol, String.ofList [c]⟩ := by
  simp only [isLoneSymbol, Bool.and_eq_true, Bool.not_eq_true', Option.isNone_iff_eq_none] at hc
  obtain ⟨⟨⟨⟨⟨hends, hover⟩, hcloser⟩, hclosing⟩, hpoint⟩, hlong⟩ := hc
  have htoken : s.token c = s.emit .symbol 1 := by
    rw [h.token_mark hends (by simpa using hpoint), State.symbol, h.ahead,
      symbolLength_eq_one hlong]
    simp only [List.contains_eq_mem, List.mem_cons, List.not_mem_nil, or_false,
      decide_eq_false_iff_not, not_or] at hclosing
    simp [hcloser, hclosing]
  exact ⟨by simp [h.ahead], _, htoken ▸ h.step hover, State.At.emit (w := [c]) h .symbol nofun⟩

theorem closer_eq_some {b c : Char} (h : closer b = some c) :
    (b, c) ∈ [('(', ')'), ('[', ']'), ('\x7b', '\x7d')] := by
  unfold closer at h
  repeat' split at h
  all_goals cases h
  all_goals simp_all

/-- A bracket is none of the other characters that the lexer asks for. -/
theorem isBracket {b c : Char} (h : closer b = some c) :
    (endsWord b = true ∧ b ≠ '.' ∧ isPassedOver b = false)
    ∧ endsWord c = true ∧ c ≠ '.' ∧ isPassedOver c = false ∧ closer c = none
      ∧ (c == ')' || c == ']' || c == '\x7d') = true := by
  have hbc := closer_eq_some h
  simp only [List.mem_cons, Prod.mk.injEq, List.not_mem_nil, or_false] at hbc
  obtain ⟨rfl, rfl⟩ | ⟨rfl, rfl⟩ | ⟨rfl, rfl⟩ := hbc
  all_goals decide

theorem State.At.takes_opening {b c : Char} (h : s.At (b :: cs) bs before)
    (hbc : closer b = some c) (hdepth : bs.length < maxBrackets) :
    s.Takes cs (b :: bs) before ⟨.symbol, String.ofList [b]⟩ := by
  obtain ⟨⟨hends, hpoint, hover⟩, -⟩ := isBracket hbc
  have htoken : s.token b = { s.emit .symbol 1 with brackets := b :: bs } := by
    rw [h.token_mark hends (by simp [hpoint]), State.symbol, h.brackets, hbc,
      if_pos Option.isSome_some, if_neg (by omega)]
  refine ⟨by simp [h.ahead], _, htoken ▸ h.step hover, ?_⟩
  exact (State.At.emit (w := [b]) h .symbol nofun).withBrackets (b :: bs)

theorem State.At.takes_closing {b c : Char} (h : s.At (c :: cs) (b :: bs) before)
    (hbc : closer b = some c) : s.Takes cs bs before ⟨.symbol, String.ofList [c]⟩ := by
  obtain ⟨-, hends, hpoint, hover, hnone, hclosing⟩ := isBracket hbc
  have htoken : s.token c = { s.emit .symbol 1 with brackets := bs } := by
    rw [h.token_mark hends (by simp [hpoint]), State.symbol, hnone, if_neg (by simp),
      if_pos hclosing, h.brackets]
    simp [hbc]
  refine ⟨by simp [h.ahead], _, htoken ▸ h.step hover, ?_⟩
  exact (State.At.emit (w := [c]) h .symbol nofun).withBrackets bs

theorem State.At.takes_literal (h : s.At ('"' :: (w ++ '"' :: cs)) bs before)
    (hw : w.all isQuotable = true) (hne : w ≠ []) :
    s.Takes cs bs before ⟨.string, String.ofList ('"' :: (w ++ ['"']))⟩ := by
  have hmark : markLength? ('"' :: (w ++ '"' :: cs)) = some 0 := rfl
  have htoken : s.token '"' = s.emit .string ('"' :: (w ++ ['"'])).length := by
    rw [State.token, h.ahead]
    simp [hmark, literalLength?_eq hw hne]
  have hsplit : s.At ('"' :: (w ++ ['"']) ++ cs) bs before := by simpa using h
  have hlength : cs.length < s.ahead.length := by
    simp only [h.ahead, List.length_append, List.length_cons]
    omega
  exact ⟨hlength, _, htoken ▸ h.step rfl, hsplit.emit .string nofun⟩

end Lexer

/-! ## Cutting -/

open Lexer

/-- With some brackets open, the text up to its end is cut into these lexemes. -/
inductive Cuts : List Char → List Char → List Lexeme → Prop
  | finish : Cuts [] [] [⟨.finish, ""⟩]
  | blank {cs bs ls} : Cuts cs bs ls → Cuts (' ' :: cs) bs ls
  | word {next cs bs ls} (w : String) : isWord w.toList = true → endsWord next = true →
      Cuts (next :: cs) bs ls → Cuts (w.toList ++ next :: cs) bs (⟨.name, w⟩ :: ls)
  | symbol {c next cs bs ls} (t : String) : t = String.ofList [c] → isLoneSymbol c next = true →
      Cuts (next :: cs) bs ls → Cuts (c :: next :: cs) bs (⟨.symbol, t⟩ :: ls)
  | opening {b c cs bs ls} (t : String) : t = String.ofList [b] → closer b = some c →
      bs.length < maxBrackets → Cuts cs (b :: bs) ls → Cuts (b :: cs) bs (⟨.symbol, t⟩ :: ls)
  | closing {b c cs bs ls} (t : String) : t = String.ofList [c] → closer b = some c →
      Cuts cs bs ls → Cuts (c :: cs) (b :: bs) (⟨.symbol, t⟩ :: ls)
  | literal {w cs bs ls} : w.all isQuotable = true → w ≠ [] → Cuts cs bs ls →
      Cuts ('"' :: (w ++ '"' :: cs)) bs (⟨.string, String.ofList ('"' :: (w ++ ['"']))⟩ :: ls)

theorem Lexer.State.run_of_step {s s' : State} (hstep : s.step = some s') {fuel : Nat}
    (hfuel : 0 < fuel) : s.run fuel = s'.run (fuel - 1) := by
  obtain ⟨fuel, rfl⟩ := Nat.exists_eq_add_one.mpr hfuel
  rw [State.run, hstep, Nat.add_sub_cancel]

/-- With enough fuel the lexer gives these lexemes from every state that has the text ahead. -/
def RunsTo (cs bs : List Char) (ls : List Lexeme) : Prop :=
  ∀ {s : State} {before : List Lexeme} {fuel : Nat}, s.At cs bs before → cs.length < fuel →
    (s.run fuel).finish.map Token.lexeme = before ++ ls

theorem RunsTo.takes {s : State} {cs ds bs es : List Char} {before ls : List Lexeme} {l : Lexeme}
    {fuel : Nat} (h : RunsTo ds es ls) (hs : s.At cs bs before) (htakes : s.Takes ds es before l)
    (hfuel : cs.length < fuel) : (s.run fuel).finish.map Token.lexeme = before ++ l :: ls := by
  obtain ⟨hlength, s', hstep, hs'⟩ := htakes
  rw [hs.ahead] at hlength
  rw [State.run_of_step hstep (by omega), h hs' (by omega), List.append_assoc, List.singleton_append]

/-- The lexer cuts what is ahead in this way. -/
theorem Cuts.runsTo {cs bs : List Char} {ls : List Lexeme} (h : Cuts cs bs ls) :
    RunsTo cs bs ls := by
  induction h with
  | finish =>
    intro s before fuel hs hfuel
    obtain ⟨fuel, rfl⟩ := Nat.exists_eq_add_one.mpr hfuel
    have hstep : s.step = none := by simp [State.step, hs.failed, hs.fresh, hs.ahead]
    simp [State.run, hstep, State.finish, hs.failed, hs.brackets, hs.columns, State.dedents,
      State.mark, State.emit, Token.lexeme, ← hs.found]
  | blank h ih =>
    intro s before fuel hs hfuel
    have hstep : s.step = some (s.skip 1) := by simp [State.step, hs.failed, hs.fresh, hs.ahead]
    rw [List.length_cons] at hfuel
    rw [State.run_of_step hstep (by omega)]
    exact ih hs.skip (by omega)
  | word w hw hnext h ih => exact fun hs => ih.takes hs (hs.takes_word hw hnext)
  | symbol t ht hc h ih => exact fun hs => ih.takes hs (ht ▸ hs.takes_lone hc)
  | opening t ht hbc hdepth h ih => exact fun hs => ih.takes hs (ht ▸ hs.takes_opening hbc hdepth)
  | closing t ht hbc h ih => exact fun hs => ih.takes hs (ht ▸ hs.takes_closing hbc)
  | literal hw hne h ih => exact fun hs => ih.takes hs (hs.takes_literal hw hne)

theorem measure?_eq {c : Char} (hc : isPassedOver c = false) (i : Indent) (cs : List Char) :
    measure? i (c :: cs) = some { i with ahead := c :: cs } := by
  rw [isPassedOver_eq_false] at hc
  unfold measure?
  split <;> simp_all

/-- A text that does not start with blank space starts a line that is not indented. -/
theorem step_start {c : Char} (hc : isPassedOver c = false) (cs : List Char) :
    (⟨c :: cs, 0, 1, true, [(0, 0)], [], [], 0⟩ : State).step
      = some ⟨c :: cs, 0, 1, false, [(0, 0)], [], [], 0⟩ := by
  simp only [State.step, State.failed, State.startLine, measure?_eq hc, State.skip]
  rw [isPassedOver_eq_false] at hc
  simp_all [State.align]

/-- The tokens of a text that does not start with blank space. -/
theorem Cuts.lexemes {c : Char} {cs : List Char} {ls : List Lexeme} (h : Cuts (c :: cs) [] ls)
    (hc : isPassedOver c = false) : (tokens (c :: cs)).map Token.lexeme = ls := by
  rw [tokens, State.run_of_step (step_start hc cs) (by omega)]
  exact h.runsTo ⟨rfl, rfl, rfl, rfl, rfl, rfl⟩ (by rw [List.length_cons]; omega)

end Docsmith.Source
