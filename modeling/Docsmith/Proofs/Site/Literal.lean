-- SUMMARY: Which texts of the settings fit into the program of a site.
import Docsmith.Proofs.Site.Dialog
import Docsmith.Proofs.Source.Quotation

/-!
# Texts in the program of a site

Title, description and version are put into the program of a site in their quoted
form, which is an expression whatever the text is. The version is put a second time
into a field of a formatted literal, and the title of a site with a chat between
quotation marks as it is.

A field may hold no backslash, and the literal around it ends at the first quotation
mark of its own kind. So the label of the version can be read exactly if the quoted
form of the version is the version between apostrophes (`label_readable_iff`). A
null character in the title of a site with a chat comes into the program as it is.
-/

namespace Docsmith.Site

open Source Lexer

/-- The version is quoted by apostrophes and needs no escape. -/
def IsPlainVersion (version : String) : Prop :=
  ∀ c ∈ version.toList, Text.isPrintable c = true ∧ c ∉ ['"', '\'', '\\']

instance decidableIsPlainVersion (version : String) : Decidable (IsPlainVersion version) :=
  List.decidableBAll _ _

/-- The start of the label of a version, up to its field. -/
def labelStart (cs : List Char) : List Char := 'f' :: '"' :: 'v' :: '\x7b' :: cs

theorem versionLabel_eq {p : Plan} {version : String} (h : p.version = .str version) :
    p.versionLabel
      = String.ofList (labelStart (Text.quoted version.toList ++ ['\x7d', '"'])) := by
  have hfront : "f\"v\x7b" = String.ofList ['f', '"', 'v', '\x7b'] := by decide
  have hback : "\x7d\"" = String.ofList ['\x7d', '"'] := by decide
  rw [Plan.versionLabel, h, Value.display, Value.quote, hfront, hback, ← String.ofList_append,
    ← String.ofList_append]
  rfl

theorem all_isClean_label (cs : List Char) :
    (labelStart (Text.quoted cs ++ ['\x7d', '"'])).all isClean = true := by
  simp only [labelStart, List.all_cons, List.all_append, all_isClean_quoted]
  rfl

variable {cs v tail : List Char}

/-! ## Fields -/

/-- Characters between apostrophes that do not end them. -/
def isEnclosed (c : Char) : Bool := c != '\'' && c != '\\'

theorem fieldText?_step {bs out : List Char} {c : Char} (hc : isEnclosed c = true) (fuel : Nat) :
    Format.fieldText? ⟨some ('\'', 1), bs⟩ out (fuel + 1) (c :: cs)
      = Format.fieldText? ⟨some ('\'', 1), bs⟩ (c :: out) fuel cs := by
  simp only [isEnclosed, Bool.and_eq_true, bne_iff_ne] at hc
  simp [Format.fieldText?, hc]

/-- Text between apostrophes belongs to the field. -/
theorem fieldText?_enclosed {bs out : List Char} (h : cs.all isEnclosed = true) (fuel : Nat) :
    Format.fieldText? ⟨some ('\'', 1), bs⟩ out (fuel + cs.length) (cs ++ tail)
      = Format.fieldText? ⟨some ('\'', 1), bs⟩ (cs.reverse ++ out) fuel tail := by
  induction cs generalizing out with
  | nil => rfl
  | cons c cs ih =>
    obtain ⟨hc, hcs⟩ := Bool.and_eq_true_iff.mp h
    rw [List.cons_append, List.length_cons, ← Nat.add_assoc, fieldText?_step hc, ih hcs]
    simp

/-- An apostrophe that opens a text. -/
theorem fieldText?_open (h : ∀ rest, cs ≠ '\'' :: '\'' :: rest) (fuel : Nat) :
    Format.fieldText? ⟨none, []⟩ [] (fuel + 1) ('\'' :: cs)
      = Format.fieldText? ⟨some ('\'', 1), []⟩ ['\''] fuel cs := by
  match cs, h with
  | [], _ => rfl
  | [_], _ => rfl
  | x :: y :: rest, h =>
    have hxy : ¬ (x = '\'' ∧ y = '\'') := fun hxy => h rest (by rw [hxy.1, hxy.2])
    simp [Format.fieldText?, hxy]

/-- A field that starts with an apostrophe is read up to what is no enclosed text. -/
theorem fieldText?_apostrophe (h : v.all isEnclosed = true)
    (htail : ∀ rest, tail ≠ '\'' :: '\'' :: rest) :
    Format.fieldText? ⟨none, []⟩ [] (('\'' :: v ++ tail).length + 1) ('\'' :: v ++ tail)
      = Format.fieldText? ⟨some ('\'', 1), []⟩ (v.reverse ++ ['\'']) (tail.length + 1) tail := by
  have hopen : ∀ rest, v ++ tail ≠ '\'' :: '\'' :: rest := by
    intro rest heq
    cases v with
    | nil => exact htail rest heq
    | cons c v =>
      obtain rfl := (List.cons.inj heq).1
      cases (Bool.and_eq_true_iff.mp h).1
  have hlength : ('\'' :: v ++ tail).length = tail.length + 1 + v.length := by
    simp only [List.length_append, List.length_cons]
    omega
  rw [hlength, List.cons_append, fieldText?_open hopen, fieldText?_enclosed h]

/-- A field that holds one quoted text. -/
theorem fieldText?_quoted (h : cs.all isEnclosed = true) :
    Format.fieldText? ⟨none, []⟩ [] (('\'' :: cs ++ ['\'', '\x7d']).length + 1)
      ('\'' :: cs ++ ['\'', '\x7d']) = some ('\'' :: cs ++ ['\''], ['\x7d']) := by
  rw [fieldText?_apostrophe h (by nofun)]
  simp [Format.fieldText?, closer]

/-- A field that ends between apostrophes, or that holds a backslash there. -/
theorem fieldText?_eq_none (h : v.all isEnclosed = true) (tail : List Char)
    (htail : tail.head?.all (· == '\\') = true) :
    Format.fieldText? ⟨none, []⟩ [] (('\'' :: v ++ tail).length + 1) ('\'' :: v ++ tail) = none := by
  have hopen : ∀ rest, tail ≠ '\'' :: '\'' :: rest := by
    rintro rest rfl
    cases htail
  rw [fieldText?_apostrophe h hopen]
  cases tail with
  | nil => rfl
  | cons c tail =>
    obtain rfl : c = '\\' := by simpa using htail
    rfl

/-- Plain text before the field of a label. -/
theorem plain?_label {raw : Bool} {field : List Char} (hfield : field.head? ≠ some '\x7b') (fuel : Nat) :
    Format.plain? raw true (fuel + 2) [] ('v' :: '\x7b' :: field)
      = some ⟨['v'], false, '\x7b' :: field⟩ := by
  simp [Format.plain?, Format.plain?.brace, hfield]

/-- A field that holds an expression and nothing else. -/
theorem field?_eq {rule : Rule Expr} {raw : Bool} {field : List Char} {e : Expr}
    (hfield : Format.fieldText? ⟨none, []⟩ [] (field.length + 1) field = some (v, ['\x7d']))
    (he : Format.inner? rule v = some e) (fuel : Nat) :
    Format.field? rule false raw 0 (fuel + 1) field = some ([.field (.formatted e none none)], []) := by
  rw [Format.field?]
  simp [hfield, he, Format.conversion?]

/-- The pieces of a label whose field holds an expression. -/
theorem pieces?_label {rule : Rule Expr} {field : List Char} {e : Expr}
    (hhead : field.head? ≠ some '\x7b')
    (hfield : Format.fieldText? ⟨none, []⟩ [] (field.length + 1) field = some (v, ['\x7d']))
    (he : Format.inner? rule v = some e) (fuel : Nat) :
    Format.pieces? rule false true 0 (fuel + 2) ('v' :: '\x7b' :: field)
      = some ([.text ['v'], .field (.formatted e none none), .text []], []) := by
  have hplain : Format.plain? true (0 == 0) (('v' :: '\x7b' :: field).length + 1) []
      ('v' :: '\x7b' :: field) = some ⟨['v'], false, '\x7b' :: field⟩ :=
    plain?_label hhead (field.length + 1)
  have hend : Format.pieces? rule false true 0 (fuel + 1) [] = some ([.text []], []) := rfl
  rw [Format.pieces?, hplain]
  simp [Format.resolve?, field?_eq hfield he, hend]

/-- A label that ends after what stands in its field. -/
theorem cut_label (field : List Char) :
    Format.cut (labelStart (field ++ ['"'])) = (['f'], 'v' :: '\x7b' :: field) := by
  refine (cut_of_single ['f'] rfl rfl (.inl (by nofun))).trans ?_
  simp

/-- A label without a backslash. -/
theorem part?_of_pieces? {rule : Rule Expr} {field : List Char} {ps : List Format.Piece}
    (hslash : ('v' :: '\x7b' :: field).contains '\\' = false)
    (hpieces : ∀ fuel, Format.pieces? rule false true 0 (fuel + 2) ('v' :: '\x7b' :: field)
      = some (ps, [])) :
    Format.part? rule false (labelStart (field ++ ['"'])) = some (.pieces ps) := by
  have hmark : ['f'].contains 'b' = false ∧ ['f'].contains 'f' = true := by decide
  simp only [Format.part?, cut_label, hslash, hmark, Bool.not_false, Bool.or_true, Bool.false_eq_true,
    if_false, if_true]
  rw [hpieces]
  rfl

/-! ## Labels that can be read -/

section

variable {version : String} (h : IsPlainVersion version)
include h

theorem quoted_of_isPlainVersion :
    Text.quoted version.toList = '\'' :: version.toList ++ ['\''] := by
  have hquote : Text.quoteFor version.toList = '\'' := by
    have hnot : '\'' ∉ version.toList := fun hmem => (h _ hmem).2 (by decide)
    rw [Text.quoteFor, if_neg (by simp [hnot])]
  have hchar : ∀ c ∈ version.toList, Text.quotedChar '\'' c = [c] := by
    intro c hc
    obtain ⟨hprintable, hplain⟩ := h c hc
    simp only [List.mem_cons, List.not_mem_nil, or_false, not_or] at hplain
    have hshown : c ≠ '\t' ∧ c ≠ '\n' ∧ c ≠ '\r' := by
      refine ⟨?_, ?_, ?_⟩
      all_goals
        rintro rfl
        exact absurd hprintable (by decide)
    simp [Text.quotedChar, hplain, hshown, hprintable]
  rw [Text.quoted, hquote]
  congr 2
  rw [List.flatMap_congr hchar, List.flatMap_singleton']

theorem all_isEnclosed_of_isPlainVersion : version.toList.all isEnclosed = true := by
  refine List.all_eq_true.mpr fun c hc => ?_
  have hplain := (h c hc).2
  simp only [List.mem_cons, List.not_mem_nil, or_false, not_or] at hplain
  simp [isEnclosed, hplain]

theorem all_isQuotable_of_isPlainVersion : version.toList.all isQuotable = true := by
  refine List.all_eq_true.mpr fun c hc => ?_
  obtain ⟨hprintable, hplain⟩ := h c hc
  simp only [List.mem_cons, List.not_mem_nil, or_false, not_or] at hplain
  have hbreak : c ≠ '\n' := by
    rintro rfl
    exact absurd hprintable (by decide)
  simp [isQuotable, hplain, hbreak]

/-- The label of a plain version is a formatted literal. -/
theorem part?_label (n : Nat) :
    Format.part? (Grammar.starExpressions (Grammar.rules (n + 2))) false
      (labelStart (Text.quoted version.toList ++ ['\x7d', '"'])) = some (.pieces
        [.text ['v'], .field (.formatted (.constant (.str version false)) none none), .text []]) := by
  have hquoted := quoted_of_isPlainVersion h
  have hfield := fieldText?_quoted (all_isEnclosed_of_isPlainVersion h)
  have hinner := inner?_quoted version.toList n
  rw [String.ofList_toList, hquoted] at hinner
  -- the literal without its mark and its quotation marks
  let field := '\'' :: version.toList ++ ['\'', '\x7d']
  have hlabel : labelStart (Text.quoted version.toList ++ ['\x7d', '"'])
      = labelStart (field ++ ['"']) := by simp [hquoted, field]
  have hslash : ('v' :: '\x7b' :: field).contains '\\' = false := by
    have hquotable := all_isQuotable_of_isPlainVersion h
    rw [List.contains_eq_mem, decide_eq_false_iff_not]
    simp only [field, List.cons_append, List.mem_cons, List.mem_append, List.not_mem_nil, or_false, not_or]
    refine ⟨by decide, by decide, by decide, fun hmem => ?_, by decide, by decide⟩
    cases List.all_eq_true.mp hquotable _ hmem
  rw [hlabel]
  exact part?_of_pieces? hslash (pieces?_label (by nofun) hfield hinner)

/-- The label of a plain version is an expression that stands for its text. -/
theorem parseExpr_label :
    parseExpr (String.ofList (labelStart (Text.quoted version.toList ++ ['\x7d', '"'])))
      = .ok (.joined [.constant (.str "v" false),
        .formatted (.constant (.str version false)) none none]) := by
  have hquoted := quoted_of_isPlainVersion h
  -- the literal without its mark and its quotation marks
  let inside := 'v' :: '\x7b' :: '\'' :: version.toList ++ ['\'', '\x7d']
  have hinside : inside.all isQuotable = true := by
    simp only [inside, List.all_cons, List.all_append, List.cons_append,
      all_isQuotable_of_isPlainVersion h]
    rfl
  have hlabel : labelStart (Text.quoted version.toList ++ ['\x7d', '"'])
      = 'f' :: ('"' :: (inside ++ ['"'])) := by simp [hquoted, labelStart, inside]
  have hlength : literalLength? (('f' :: ('"' :: (inside ++ ['"'])) ++ []).drop 1)
      = some (inside.length + 2) := by
    have hend := Lexer.literalLength?_eq hinside (List.cons_ne_nil _ _) []
    simpa using hend
  have hfinish : RunsTo [] [] [⟨.finish, ""⟩] := Cuts.finish.runsTo
  have hruns : RunsTo ('f' :: ('"' :: (inside ++ ['"'])) ++ []) []
      [⟨.string, String.ofList ('f' :: ('"' :: (inside ++ ['"'])))⟩, ⟨.finish, ""⟩] := by
    intro s before fuel hs hfuel
    exact hfinish.takes hs (hs.takes_marked rfl rfl hlength (by simp; omega)) hfuel
  rw [List.append_nil] at hruns
  refine parseExpr_of_literal (all_isClean_label _) (hlabel ▸ hruns.lexemes rfl) ?_
  have hmarked : (([labelStart (Text.quoted version.toList ++ ['\x7d', '"'])].head?.bind (·.head?))
      == some 'u') = false := rfl
  have hpart := part?_label h ((Text.quoted version.toList ++ ['\x7d', '"']).length + 3)
  have hlength' : (labelStart (Text.quoted version.toList ++ ['\x7d', '"'])).length + 1
      = (Text.quoted version.toList ++ ['\x7d', '"']).length + 3 + 2 := rfl
  rw [Format.literals?, hmarked, List.mapM_cons, hlength', hpart]
  rfl

end

/-! ## Labels that cannot be read -/

/-- A label whose field does not end is no literal. -/
theorem part?_eq_none {rule : Rule Expr} {field : List Char} (hhead : field.head? ≠ some '\x7b')
    (hfield : Format.fieldText? ⟨none, []⟩ [] (field.length + 1) field = none) (marked : Bool) :
    Format.part? rule marked (labelStart (field ++ ['"'])) = none := by
  have hpieces (raw : Bool) (fuel : Nat) :
      Format.pieces? rule marked raw 0 (fuel + 2) ('v' :: '\x7b' :: field) = none := by
    have hplain : Format.plain? raw (0 == 0) (('v' :: '\x7b' :: field).length + 1) []
        ('v' :: '\x7b' :: field) = some ⟨['v'], false, '\x7b' :: field⟩ :=
      plain?_label hhead (field.length + 1)
    have htext : Format.resolve? raw ['v'] = some ['v'] := by cases raw <;> rfl
    have hnone : Format.field? rule marked raw 0 (fuel + 1) field = none := by
      simp [Format.field?, hfield]
    rw [Format.pieces?, hplain]
    simp [htext, hnone]
  have hmark : ['f'].contains 'b' = false ∧ ['f'].contains 'f' = true := by decide
  simp only [Format.part?, cut_label, hmark, Bool.false_eq_true, if_false, if_true]
  rw [hpieces]
  rfl

/-- The label of a version has a first literal, and the field in it does not end. -/
structure EndsEarly (cs field rest : List Char) : Prop where
  text : cs = field ++ '"' :: rest
  head : field.head? ≠ some '\x7b'
  unended : Format.fieldText? ⟨none, []⟩ [] (field.length + 1) field = none
  literal : literalEnd? '"' 1 0 2 (field ++ '"' :: rest) = some (field.length + 3)

/-- A label that ends too early, or with a backslash in its field, is no expression. -/
theorem EndsEarly.parseExpr_ne_ok {field rest : List Char} (h : EndsEarly cs field rest)
    (hclean : (labelStart cs).all isClean = true) (e : Expr) :
    parseExpr (String.ofList (labelStart cs)) ≠ .ok e := by
  have htext : labelStart cs = labelStart (field ++ ['"']) ++ rest := by
    rw [h.text]
    simp [labelStart]
  have hlength : literalLength? ((labelStart (field ++ ['"']) ++ rest).drop 1)
      = some (field.length + 4) := by
    have hplain : ∀ c ∈ ['v', '\x7b'], c ≠ '"' ∧ c ≠ '\\' ∧ c ≠ '\n' := by simp
    have hstart : literalEnd? '"' 1 0 0 ('v' :: '\x7b' :: (field ++ '"' :: rest))
        = literalEnd? '"' 1 0 2 (field ++ '"' :: rest) := literalEnd?_of_plain hplain 0 _
    simp [labelStart, literalLength?, hstart, h.literal]
  have hwidth : (labelStart (field ++ ['"'])).length = 1 + (field.length + 4) := by
    simp only [labelStart, List.length_append, List.length_cons, List.length_nil]
    omega
  obtain ⟨t, ts, htokens, ht⟩ := exists_tokens_of_marked rfl rfl hlength hwidth
  have hbreaks := (not_mem_of_isClean hclean).1
  rw [← String.toList_ofList (l := labelStart cs)] at hbreaks
  have hlabel : tokens (String.ofList (labelStart cs)).toList = t :: ts := by
    rw [String.toList_ofList, htext]
    exact htokens
  refine Source.parseExpr_ne_ok hbreaks hlabel ht (fun n marked => ?_) e
  rw [String.toList_ofList]
  exact part?_eq_none h.head h.unended marked

/-- A version without escapes and quotation marks in its quoted form is plain. -/
theorem isPlainVersion_of_quoted {version : String}
    (h : ∀ c ∈ version.toList.flatMap (Text.quotedChar '\''), c ≠ '"' ∧ c ≠ '\\') :
    IsPlainVersion version := by
  intro c hc
  have hchar : ∀ e ∈ Text.quotedChar '\'' c, e ≠ '"' ∧ e ≠ '\\' :=
    fun e he => h e (List.mem_flatMap_of_mem hc he)
  obtain ⟨heq, hquote, hslash, hprintable⟩ | ⟨w, hw⟩ := quotedChar_cases '\'' c
  · have hdouble := (hchar c (by simp [heq])).1
    exact ⟨hprintable, by simp [hdouble, hquote, hslash]⟩
  · exact absurd rfl (hchar '\\' (by simp [hw])).2

/-- The first quotation mark or backslash of a text. -/
theorem exists_first_of_not_all (h : ¬ ∀ c ∈ cs, c ≠ '"' ∧ c ≠ '\\') :
    ∃ front x after, cs = front ++ x :: after ∧ (∀ c ∈ front, c ≠ '"' ∧ c ≠ '\\')
      ∧ (x = '"' ∨ x = '\\') := by
  induction cs with
  | nil => exact absurd nofun h
  | cons c cs ih =>
    by_cases hc : c ≠ '"' ∧ c ≠ '\\'
    · obtain ⟨front, x, after, rfl, hfront, hx⟩ :=
        ih fun hall => h (List.forall_mem_cons.mpr ⟨hc, hall⟩)
      exact ⟨c :: front, x, after, rfl, List.forall_mem_cons.mpr ⟨hc, hfront⟩, hx⟩
    · exact ⟨[], c, cs, rfl, nofun, by simpa [or_iff_not_imp_left] using hc⟩

/-- The literal ends at the end of the label, if not before. -/
theorem isSome_literalEnd? {body : List Char} (h : Escapes '\'' body cs) (n : Nat) :
    ∃ k, literalEnd? '"' 1 0 n (body ++ ['\'', '\x7d', '"']) = some k := by
  induction h generalizing n with
  | nil =>
    have hquotable : ['\'', '\x7d'].all isQuotable = true := rfl
    exact ⟨_, Lexer.literalEnd?_eq hquotable [] n⟩
  | @plain c body cs hc hslash hline _ ih =>
    rw [List.cons_append, literalEnd?.eq_def]
    by_cases hquote : c = '"'
    · simp [hquote]
    · simpa [hquote, hslash, hline] using ih (n + 1)
  | @escape e c ds body cs _ hds _ ih =>
    rw [List.cons_append, List.cons_append, List.append_assoc, literalEnd?.eq_def]
    simpa [literalEnd?_of_plain (Escapes.plain_of_isHex (q := '"') (by decide) hds)]
      using ih (n + 2 + ds.length)

section

variable {front : List Char} (hfront : ∀ c ∈ front, c ≠ '"' ∧ c ≠ '\'' ∧ c ≠ '\\' ∧ c ≠ '\n')
include hfront

theorem all_isEnclosed_of_plain : front.all isEnclosed = true := by
  refine List.all_eq_true.mpr fun c hc => ?_
  simp [isEnclosed, hfront c hc]

/-- Text after the apostrophe that opens the version does not end the literal. -/
theorem literalEnd?_front (tail : List Char) :
    literalEnd? '"' 1 0 2 ('\'' :: front ++ tail) = literalEnd? '"' 1 0 (front.length + 3) tail := by
  have hplain : ∀ c ∈ '\'' :: front, c ≠ '"' ∧ c ≠ '\\' ∧ c ≠ '\n' :=
    List.forall_mem_cons.mpr ⟨by decide, fun c hc => ⟨(hfront c hc).1, (hfront c hc).2.2⟩⟩
  rw [literalEnd?_of_plain hplain, List.length_cons, Nat.add_comm 2, Nat.add_assoc]

/-- The first quotation mark in the version ends the literal. -/
theorem endsEarly_of_quote (rest : List Char) :
    EndsEarly ('\'' :: front ++ '"' :: rest) ('\'' :: front) rest := by
  have hfield := fieldText?_eq_none (all_isEnclosed_of_plain hfront) [] rfl
  rw [List.append_nil] at hfield
  refine ⟨rfl, by simp, hfield, ?_⟩
  rw [literalEnd?_front hfront, literalEnd?.eq_def]
  simp

/-- An escape in the version puts a backslash into the field. -/
theorem exists_endsEarly_of_escape {e : Char} {ds body : List Char} (hds : ds.all Numeral.isHex = true)
    (h : Escapes '\'' body cs) :
    ∃ field rest, EndsEarly ('\'' :: front ++ '\\' :: e :: (ds ++ (body ++ ['\'', '\x7d', '"'])))
      field rest := by
  obtain ⟨k, hk⟩ := isSome_literalEnd? h (front.length + 5 + ds.length)
  rw [← literalEnd?_of_plain (Escapes.plain_of_isHex (q := '"') (by decide) hds)] at hk
  obtain ⟨inside, rest, hsplit, rfl⟩ := literalEnd?_split hk
  rw [hsplit] at hk ⊢
  refine ⟨'\'' :: front ++ '\\' :: e :: inside, rest, by simp, by simp,
    fieldText?_eq_none (all_isEnclosed_of_plain hfront) _ rfl, ?_⟩
  have hpair : literalEnd? '"' 1 0 (front.length + 3) ('\\' :: e :: (inside ++ '"' :: rest))
      = literalEnd? '"' 1 0 (front.length + 5) (inside ++ '"' :: rest) := by
    rw [literalEnd?.eq_def]
    simp
  rw [List.append_assoc, literalEnd?_front hfront, List.cons_append, List.cons_append, hpair, hk]
  simp only [List.length_append, List.length_cons]
  congr 1
  omega

end

/-- The label of a version that is not plain ends too early, or has a backslash in its field. -/
theorem exists_endsEarly {version : String} (h : ¬ IsPlainVersion version) :
    ∃ field rest, EndsEarly (Text.quoted version.toList ++ ['\x7d', '"']) field rest := by
  have hquote := quoteFor_mem version.toList
  simp only [List.mem_cons, List.not_mem_nil, or_false] at hquote
  rcases hquote with hquote | hquote
  · obtain ⟨front, x, after, hbody, hmarks, hx⟩ :=
      exists_first_of_not_all fun hall => h (isPlainVersion_of_quoted hall)
    have hescapes := escapes_flatMap (q := '\'') (by decide) version.toList
    rw [hbody] at hescapes
    obtain ⟨hplain, cs', hafter⟩ := hescapes.of_append fun hmem => (hmarks _ hmem).2 rfl
    have hfront : ∀ c ∈ front, c ≠ '"' ∧ c ≠ '\'' ∧ c ≠ '\\' ∧ c ≠ '\n' :=
      fun c hc => ⟨(hmarks c hc).1, hplain c hc⟩
    have htext : Text.quoted version.toList ++ ['\x7d', '"']
        = '\'' :: front ++ x :: (after ++ ['\'', '\x7d', '"']) := by simp [Text.quoted, hquote, hbody]
    rw [htext]
    rcases hx with rfl | rfl
    · exact ⟨_, _, endsEarly_of_quote hfront _⟩
    · generalize hescaped : '\\' :: after = escaped at hafter
      cases hafter with
      | nil => cases hescaped
      | plain _ hslash _ _ => exact absurd (List.cons.inj hescaped).1.symm hslash
      | escape _ hds hbelow =>
        obtain rfl := (List.cons.inj hescaped).2
        simpa only [List.cons_append, List.append_assoc] using
          exists_endsEarly_of_escape hfront hds hbelow
  · -- the quotation mark that should open the version ends the literal
    have hempty : ([] : List Char).all isQuotable = true := rfl
    rw [Text.quoted, hquote]
    exact ⟨[], _, rfl, by simp, rfl, Lexer.literalEnd?_eq hempty _ 2⟩

/-- The label of a version can be read exactly if the version is plain. -/
theorem label_readable_iff {p : Plan} {version : String} (h : p.version = .str version) :
    (∃ e, parseExpr p.versionLabel = .ok e) ↔ IsPlainVersion version := by
  rw [versionLabel_eq h]
  constructor
  · rintro ⟨e, he⟩
    by_contra hplain
    obtain ⟨field, rest, hends⟩ := exists_endsEarly hplain
    exact hends.parseExpr_ne_ok (all_isClean_label _) e he
  · intro hplain
    exact ⟨_, parseExpr_label hplain⟩

/-! ## Settings -/

variable {p : Plan} {title description version : String}

/-- Title, description and version of the plan are texts. -/
structure Plan.HoldsTexts (p : Plan) (title description version : String) : Prop where
  title : p.title = .str title
  description : p.description = .str description
  version : p.version = .str version

/-- Title, description and version in the settings are texts. -/
structure HasTexts (settings : Value) (title description version : String) : Prop where
  title : settings.getD "title" (.str "Documentation") = .ok (.str title)
  description : settings.getD "description" (.str "") = .ok (.str description)
  version : settings.getD "version" (.str "") = .ok (.str version)

/-- Themes leave the texts of a plan as they are. -/
theorem Plan.HoldsTexts.withTheme {q : Plan} {theme : Theme} (h : p.HoldsTexts title description version)
    (hq : p.withTheme theme = .ok q) : q.HoldsTexts title description version := by
  obtain ⟨_, _, _, start, dark, light, themes, chat⟩ := p
  obtain ⟨rfl, rfl, rfl⟩ := h
  cases hdark : theme.dark <;> cases hlight : theme.light
  all_goals
    rw [Plan.withTheme, hdark, hlight] at hq
    cases hq
    exact ⟨rfl, rfl, rfl⟩

/-- A plan holds the texts of the settings it is made from. -/
theorem holdsTexts_of_ofData {data settings : Value}
    (hsettings : data.getD "config" (.dict []) = .ok settings)
    (h : HasTexts settings title description version) (hp : Plan.ofData data = .ok p) :
    p.HoldsTexts title description version := by
  rw [Plan.ofData, hsettings] at hp
  obtain ⟨_, ⟨⟩, hp⟩ := bind_eq_ok.mp hp
  obtain ⟨_, htitle, hp⟩ := bind_eq_ok.mp hp
  obtain ⟨_, hdescription, hp⟩ := bind_eq_ok.mp hp
  obtain ⟨_, -, hp⟩ := bind_eq_ok.mp hp
  obtain ⟨theme, -, hp⟩ := bind_eq_ok.mp hp
  obtain ⟨_, hversion, hp⟩ := bind_eq_ok.mp hp
  obtain ⟨chatOn, -, hp⟩ := bind_eq_ok.mp hp
  obtain ⟨chatSettings, -, hp⟩ := bind_eq_ok.mp hp
  obtain ⟨model, -, hp⟩ := bind_eq_ok.mp hp
  obtain ⟨prompt, -, hp⟩ := bind_eq_ok.mp hp
  cases h.title.symm.trans htitle
  cases h.description.symm.trans hdescription
  cases h.version.symm.trans hversion
  have htexts (chat : Option Chat) : Plan.HoldsTexts
      { title := .str title, description := .str description, version := .str version,
        theme := theme.start, chat := chat } title description version := ⟨rfl, rfl, rfl⟩
  split at hp
  · obtain ⟨chat, -, hp⟩ := bind_eq_ok.mp hp
    exact (htexts _).withTheme hp
  · exact (htexts _).withTheme hp

/-! ## The program -/

theorem mem_toList_join {c : Char} {s : String} {ss : List String} (hs : s ∈ ss) (hc : c ∈ s.toList) :
    c ∈ (String.join ss).toList := by
  induction ss with
  | nil => cases hs
  | cons t ss ih =>
    rw [String.join_cons, String.toList_append, List.mem_append]
    rcases List.mem_cons.mp hs with rfl | hs
    · exact .inl hc
    · exact .inr (ih hs)

/-- With a chat, the characters of the title are put into the program as they are. -/
theorem mem_program_of_mem_title {c : Char} (hchat : p.chat.isSome = true)
    (hc : c ∈ p.title.text.toList) : c ∈ p.program.toList := by
  obtain ⟨chat, hchat⟩ := Option.isSome_iff_exists.mp hchat
  have hdialog : c ∈ p.dialog.toList := by
    rw [toList_dialog, mem_dialogText]
    exact .inr hc
  have htext : c ∈ p.chatText.toList := by
    rw [Plan.chatText, hchat]
    exact mem_toList_join (by simp) hdialog
  exact mem_toList_join (by simp) htext

/-- A null character in the title of a site with a chat leaves no program. -/
theorem parse_program_of_nul (hchat : p.chat.isSome = true) (hnul : '\x00' ∈ p.title.text.toList) :
    parse p.program = .error .nulByte := by
  have hmem := mem_program_of_mem_title hchat hnul
  rw [parse, parseChars, if_pos (by simpa using hmem)]

theorem eq_ok_of_mapError {ε δ α : Type} {x : Except ε α} {f : ε → δ} {a : α}
    (h : x.mapError f = .ok a) : x = .ok a := by
  cases x with
  | error why => cases h
  | ok b =>
    cases h
    rfl

/-- A site with a version runs only if its label can be read. -/
theorem label_readable_of_run {data : Value} {es : List Event} (hversion : p.version.isTrue = true)
    (h : p.run data = .ok es) : ∃ e, parseExpr p.versionLabel = .ok e := by
  obtain ⟨s, -, h⟩ := bind_eq_ok.mp h
  obtain ⟨shown, hshown, -⟩ := bind_eq_ok.mp h
  obtain ⟨side, -, hshown⟩ := bind_eq_ok.mp hshown
  obtain ⟨content, hcontent, -⟩ := bind_eq_ok.mp hshown
  rw [panels, if_pos hversion] at hcontent
  obtain ⟨text, htext, -⟩ := bind_eq_ok.mp hcontent
  obtain ⟨e, he, -⟩ := bind_eq_ok.mp htext
  exact ⟨e, eq_ok_of_mapError he⟩

/-- A version that is not plain is not empty. -/
theorem isTrue_of_not_isPlainVersion (h : ¬ IsPlainVersion version) :
    (Value.str version).isTrue = true := by
  rw [Value.isTrue, Bool.not_eq_true']
  by_contra hempty
  rw [Bool.not_eq_false, String.isEmpty_iff] at hempty
  subst hempty
  exact h (by decide)

/-- Settings with texts. -/
def textSettings (title description version : String) (chat : Bool) : Value := .object [
  ("title", .str title), ("description", .str description), ("version", .str version),
  ("chat", .bool chat)]

/-- Data without anything but settings. -/
def textData (title description version : String) (chat : Bool) : Value :=
  .object [("config", textSettings title description version chat)]

theorem exists_plan_of_textData (title description version : String) (chat : Bool) :
    ∃ p, Plan.ofData (textData title description version chat) = .ok p ∧ p.chat.isSome = chat := by
  cases chat with
  | false => exact ⟨_, rfl, rfl⟩
  | true => exact ⟨_, rfl, rfl⟩

end Docsmith.Site
