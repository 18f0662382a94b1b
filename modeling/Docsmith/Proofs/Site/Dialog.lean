-- SUMMARY: The dialog of the chat, for titles that may stand between quotation marks.
import Docsmith.Proofs.Source.Reading
import Docsmith.Proofs.Site.Landmark
import Docsmith.Site.App.Run

/-!
# The dialog of the chat

The dialog is opened by the call that a text stands for, and the title of the site
is part of that text as it is. A title without quotation marks, backslashes, line
breaks and null characters stays between the quotation marks around it: then there
is one call, and it opens a dialog with this title.
-/

namespace Docsmith.Site

open Source Source.Grammar

/-- The title may stand between quotation marks as it is. -/
def IsPlainTitle (title : String) : Prop :=
  ∀ c ∈ title.toList, c ∉ ['"', '\\', '\n', '\r', '\x00']

instance (title : String) : Decidable (IsPlainTitle title) := List.decidableBAll _ _

/-- What the text of the dialog is cut into. -/
def dialogLexemes (quoted : List Char) : List Lexeme := [
  ⟨.name, "c"⟩, ⟨.symbol, "."⟩, ⟨.name, "modal"⟩, ⟨.symbol, "("⟩,
  ⟨.name, "title"⟩, ⟨.symbol, "="⟩, ⟨.string, String.ofList ('"' :: (quoted ++ ['"']))⟩,
  ⟨.symbol, ","⟩, ⟨.name, "signal"⟩, ⟨.symbol, "="⟩, ⟨.name, "_show_chat"⟩,
  ⟨.symbol, ","⟩, ⟨.name, "size"⟩, ⟨.symbol, "="⟩,
  ⟨.string, String.ofList ('"' :: (['l', 'g'] ++ ['"']))⟩, ⟨.symbol, ")"⟩, ⟨.finish, ""⟩]

/-- The text of the dialog after the title. -/
def dialogRest : List Char :=
  ',' :: ' ' :: ("signal".toList ++ '=' :: ("_show_chat".toList ++ ',' :: ' '
    :: ("size".toList ++ '=' :: '"' :: (['l', 'g'] ++ '"' :: [')']))))

/-- The text of the dialog. -/
def dialogText (quoted : List Char) : List Char :=
  "c".toList ++ '.' :: ("modal".toList ++ '(' :: ("title".toList
    ++ '=' :: '"' :: (quoted ++ '"' :: dialogRest)))

theorem toList_dialog (p : Plan) :
    p.dialog.toList = dialogText ("Ask about ".toList ++ p.title.text.toList) := by
  have hfront : "c.modal(title=\"Ask about ".toList = "c".toList ++ '.' :: ("modal".toList
    ++ '(' :: ("title".toList ++ '=' :: '"' :: "Ask about ".toList)) := by decide +kernel
  have hrest : "\", signal=_show_chat, size=\"lg\")".toList = '"' :: dialogRest := by
    decide +kernel
  unfold Plan.dialog dialogText
  rw [String.toList_append, String.toList_append, hfront, hrest]
  simp only [List.append_assoc, List.cons_append]

theorem cuts_dialogRest : Cuts dialogRest ['('] [
    ⟨.symbol, ","⟩, ⟨.name, "signal"⟩, ⟨.symbol, "="⟩, ⟨.name, "_show_chat"⟩,
    ⟨.symbol, ","⟩, ⟨.name, "size"⟩, ⟨.symbol, "="⟩,
    ⟨.string, String.ofList ('"' :: (['l', 'g'] ++ ['"']))⟩, ⟨.symbol, ")"⟩, ⟨.finish, ""⟩] := by
  refine .symbol "," (by decide) (by decide) (.blank (.word "signal" (by decide) (by decide)
    (.symbol "=" (by decide) (by decide) (.word "_show_chat" (by decide) (by decide)
    (.symbol "," (by decide) (by decide) (.blank (.word "size" (by decide) (by decide)
    (.symbol "=" (by decide) (by decide) (.literal (by decide) (by decide)
    (.closing ")" (by decide) rfl .finish))))))))))

theorem cuts_dialog {quoted : List Char} (h : quoted.all Lexer.isQuotable = true)
    (hne : quoted ≠ []) : Cuts (dialogText quoted) [] (dialogLexemes quoted) := by
  refine .word "c" (by decide) (by decide) (.symbol "." (by decide) (by decide)
    (.word "modal" (by decide) (by decide) (.opening "(" (by decide) rfl (by decide)
    (.word "title" (by decide) (by decide) (.symbol "=" (by decide) (by decide)
    (.literal h hne cuts_dialogRest))))))

/-- The arguments in the text of the dialog. -/
def dialogKeywords (quoted : List Char) : List Keyword := [
  .mk (some "title") (.constant (.str (String.ofList quoted) false)),
  .mk (some "signal") (.name "_show_chat"),
  .mk (some "size") (.constant (.str (String.ofList ['l', 'g']) false))]

/-- The expression that the text of the dialog is. -/
def dialogExpr (quoted : List Char) : Expr :=
  .call (.attribute (.name "c") "modal") [] (dialogKeywords quoted)

/-- A quoted text as an argument. -/
theorem reads_quoted {quoted : List Char} {u : Lexeme} {rest : List Lexeme} (hu : u.isEnd = true)
    (h : quoted.all Lexer.isQuotable = true) (hne : quoted ≠ []) (depth : Nat) :
    Reads (rules (depth + 1)).expression
      (⟨.string, String.ofList ('"' :: (quoted ++ ['"']))⟩ :: u :: rest)
      (.constant (.str (String.ofList quoted) false)) (u :: rest) :=
  reads_expression rfl hu (reads_primary_atom hu (reads_atom_string hu (literals?_quoted h hne _)))

theorem reads_dialog {quoted : List Char} (h : quoted.all Lexer.isQuotable = true)
    (hne : quoted ≠ []) (depth : Nat) :
    Reads (rules (depth + 2)).expression (dialogLexemes quoted) (dialogExpr quoted)
      [⟨.finish, ""⟩] := by
  have hname {w : String} {u : Lexeme} {rest : List Lexeme} (hu : u.isEnd = true)
      (hw : Lexeme.name? ⟨.name, w⟩ = some w) (hstart : Lexeme.isStart ⟨.name, w⟩ = true) :
      Reads (rules (depth + 1)).expression (⟨.name, w⟩ :: u :: rest) (.name w) (u :: rest) :=
    reads_expression hstart hu (reads_primary_atom hu (reads_atom_name hw))
  have harguments : Reads (callArguments (rules (depth + 1))) ((dialogLexemes quoted).drop 4)
      ⟨[], (dialogKeywords quoted).reverse, true, false⟩ [⟨.finish, ""⟩] := by
    refine reads_callArguments (n := "title") (by decide) (by decide) ?_
    refine reads_arguments_more (by decide) (reads_argument (n := "title") (by decide) (by decide) _
      (reads_quoted (by decide) h hne depth)) ?_
    refine reads_arguments_more (by decide) (reads_argument (n := "signal") (by decide) (by decide) _
      (hname (by decide) (by decide) (by decide))) ?_
    exact reads_arguments_last (by decide) (reads_argument (n := "size") (by decide) (by decide) _
      (reads_quoted (by decide) (by decide) (by decide) depth)) _
  have hcall : Reads (primary (rules (depth + 1))) (dialogLexemes quoted) (dialogExpr quoted)
      [⟨.finish, ""⟩] :=
    reads_primary_call (by decide) (by decide) (by decide) harguments
  exact reads_expression (by decide) (by decide) hcall

theorem mem_dialogText {c : Char} {front title : List Char} :
    c ∈ dialogText (front ++ title) ↔ c ∈ dialogText front ∨ c ∈ title := by
  obtain ⟨before, hshape⟩ : ∃ before, ∀ quoted,
      dialogText quoted = before ++ (quoted ++ '"' :: dialogRest) :=
    ⟨"c".toList ++ '.' :: ("modal".toList ++ '(' :: ("title".toList ++ ['=', '"'])), fun quoted => by
      simp only [dialogText, List.append_assoc, List.cons_append, List.nil_append]⟩
  rw [hshape, hshape]
  simp only [List.mem_append]
  tauto

theorem parseExpr_dialog {p : Plan} (h : IsPlainTitle p.title.text) :
    parseExpr p.dialog = .ok (dialogExpr ("Ask about ".toList ++ p.title.text.toList)) := by
  have hquotable : ("Ask about ".toList ++ p.title.text.toList).all Lexer.isQuotable = true := by
    rw [List.all_append, Bool.and_eq_true, List.all_eq_true (l := p.title.text.toList)]
    refine ⟨by decide, fun c hc => ?_⟩
    have hplain := h c hc
    simp only [List.mem_cons, List.not_mem_nil, or_false, not_or] at hplain
    simp [Lexer.isQuotable, hplain]
  have hne : "Ask about ".toList ++ p.title.text.toList ≠ [] :=
    List.append_ne_nil_of_left_ne_nil (by decide) _
  have habsent {c : Char} (hfront : c ∉ dialogText "Ask about ".toList)
      (hc : c ∈ ['"', '\\', '\n', '\r', '\x00']) : c ∉ p.dialog.toList := by
    rw [toList_dialog, mem_dialogText, not_or]
    exact ⟨hfront, fun hmem => h c hmem hc⟩
  refine parseExpr_of_reads (habsent (by decide) (by decide)) (habsent (by decide) (by decide)) ?_
    (reads_dialog hquotable hne _)
  rw [toList_dialog]
  exact (cuts_dialog hquotable hne).lexemes rfl

/-- A plain title leaves one call, which opens a dialog with this title. -/
theorem dialogCalls_of_isPlainTitle {p : Plan} (h : IsPlainTitle p.title.text) :
    p.dialogCalls = .ok [⟨"modal", [], [("title", .value (.str ("Ask about " ++ p.title.text))),
      ("signal", .result "signal"), ("size", .value (.str "lg"))]⟩] := by
  have htitle : String.ofList ("Ask about ".toList ++ p.title.text.toList)
      = "Ask about " ++ p.title.text := by
    rw [String.ofList_append, String.ofList_toList, String.ofList_toList]
  have hsize : String.ofList ['l', 'g'] = "lg" := rfl
  rw [Plan.dialogCalls, parseExpr_dialog h, dialogExpr, dialogKeywords, htitle, hsize]
  rfl

end Docsmith.Site
