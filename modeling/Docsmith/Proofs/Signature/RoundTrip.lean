-- SUMMARY: The parameters that a signature was printed from are read back from it.
import Docsmith.Proofs.Signature.Brackets
import Docsmith.Proofs.Source.Ends

/-!
# Printing and reading signatures

A signature lists its parameters between parentheses. Where the annotations and
defaults are enclosed texts, and no annotation holds an equals sign, reading the
signature gives back the parameters in their order, `self` and `cls` apart: the
name without its stars, the annotation without white space at its ends, and the
default as it was printed.
-/

namespace Docsmith.Signature

/-! ## Cutting a piece -/

variable {u v cs : List Char} {sep : Char}

theorem cutAt?_append (hsep : sep ∉ u) (v : List Char) :
    cutAt? sep (u ++ sep :: v) = some (Text.strip u, Text.strip v) := by
  have hall : ∀ c ∈ u, (c != sep) = true := fun c hc => by
    rw [bne_iff_ne]
    rintro rfl
    exact hsep hc
  simp [cutAt?, List.dropWhile_append_of_pos hall, List.takeWhile_append_of_pos hall]

theorem cutAt?_eq_none (hsep : sep ∉ cs) : cutAt? sep cs = none := by
  have hnil : cs.dropWhile (· != sep) = [] := by
    rw [List.dropWhile_eq_nil_iff]
    intro c hc
    rw [bne_iff_ne]
    rintro rfl
    exact hsep hc
  simp [cutAt?, hnil]

/-- White space around a text does not change its two parts. -/
theorem cutAt?_strip (hblank : Text.isBlank sep = false) (hsep : sep ∉ u) (v : List Char) :
    cutAt? sep (Text.strip (u ++ sep :: v)) = some (Text.strip u, Text.strip v) := by
  have hstart : sep ∉ Text.stripStart u := fun h => hsep ((List.dropWhile_suffix _).subset h)
  rw [Text.strip_append_cons hblank, cutAt?_append hstart, Text.strip_stripStart,
    Text.strip_stripEnd]

theorem cutAt?_strip_eq_none (hsep : sep ∉ cs) : cutAt? sep (Text.strip cs) = none :=
  cutAt?_eq_none fun h => hsep (Text.mem_of_mem_strip h)

/-! ## Reading one parameter -/

/-- The annotation of a parameter as it is written behind its name. -/
def annotationPart : Option (List Char) → List Char
  | none => []
  | some t => ':' :: ' ' :: t

/-- The default of a parameter as it is written at its end. -/
def defaultPart : Option (List Char) → List Char
  | none => []
  | some d => '=' :: d

/-- The stars that may stand in front of a name. -/
def starMarks : List (List Char) := [[], ['*'], ['*', '*']]

/-- The parameter that a method is called on, which is not documented. -/
def Param.isReceiver (p : Param) : Bool := p.name == "self" || p.name == "cls"

/-- The parameter without white space at the ends of its annotation. -/
def Param.trimmed (p : Param) : Param :=
  { p with type := String.ofList (Text.strip p.type.toList) }

variable {stars name : List Char} {type default : Option (List Char)}

theorem strip_blank_cons (cs : List Char) : Text.strip (' ' :: cs) = Text.strip cs :=
  Text.strip_allBlank_append (a := [' ']) (List.forall_mem_singleton.mpr (by decide)) cs

theorem strip_name (hname : Source.Lexer.isName name = true) : Text.strip name = name :=
  Text.strip_eq_self (fun c hc => (Source.Lexer.isName_chars hname c (List.mem_of_head? hc)).1)
    fun c hc => (Source.Lexer.isName_chars hname c (List.mem_of_getLast? hc)).1

theorem not_mem_name {c : Char} (hc : c ∈ Source.Lexer.marks)
    (hname : Source.Lexer.isName name = true) : c ∉ name :=
  fun hmem => (Source.Lexer.isName_chars hname c hmem).2 hc

/-- A name and its annotation are parted at the colon. -/
theorem cutAt?_colon (hname : Source.Lexer.isName name = true) (type : Option (List Char)) :
    (cutAt? ':' (Text.strip (name ++ annotationPart type))).getD
      (Text.strip (Text.strip (name ++ annotationPart type)), [])
      = (name, Text.strip (type.getD [])) := by
  have hcolon : ':' ∉ name := not_mem_name (by decide) hname
  cases type with
  | none =>
    rw [annotationPart, List.append_nil, cutAt?_strip_eq_none hcolon, strip_name hname,
      strip_name hname]
    rfl
  | some t =>
    rw [annotationPart, cutAt?_strip (by decide) hcolon, strip_name hname, strip_blank_cons]
    rfl

/-- What stands before the equals sign, and the default behind it. -/
theorem cutAt?_equals (hfront : '=' ∉ u) (default : Option (List Char)) :
    (cutAt? '=' (Text.strip (u ++ defaultPart default))).getD
      (Text.strip (u ++ defaultPart default), [])
      = (Text.strip u, Text.strip (default.getD [])) := by
  cases default with
  | none =>
    rw [defaultPart, List.append_nil, cutAt?_strip_eq_none hfront]
    rfl
  | some d =>
    rw [defaultPart, cutAt?_strip (by decide) hfront]
    rfl

/-- Stars in front of a name are dropped, and the text is not a separator. -/
theorem strip_stars (hstars : stars ∈ starMarks)
    (hname : Source.Lexer.isName name = true) (rest : List Char) :
    withoutStars (Text.strip (stars ++ (name ++ rest))) = Text.strip (name ++ rest)
      ∧ Text.strip (stars ++ (name ++ rest)) ∉ [[], ['/'], ['*']] := by
  obtain ⟨c, cs, rfl⟩ := List.exists_cons_of_ne_nil (Source.Lexer.isName_ne_nil hname)
  obtain ⟨hblank, hmarks⟩ := Source.Lexer.isName_chars hname c List.mem_cons_self
  have hstar : c ≠ '*' := fun h => hmarks (h ▸ by decide)
  have hslash : c ≠ '/' := fun h => hmarks (h ▸ by decide)
  have hfront (stars : List Char) (h : Text.stripStart stars = stars) :
      Text.strip (stars ++ c :: (cs ++ rest)) = stars ++ c :: Text.stripEnd (cs ++ rest) := by
    rw [Text.strip_append_cons hblank, h]
  simp only [starMarks, List.mem_cons, List.not_mem_nil, or_false] at hstars
  rw [List.cons_append, hfront stars (by rcases hstars with rfl | rfl | rfl <;> rfl)]
  have hself := hfront [] rfl
  rw [List.nil_append, List.nil_append] at hself
  rw [hself]
  rcases hstars with rfl | rfl | rfl <;> simp [withoutStars, hstar, hslash]

/-- The parameter is read back from the text that it is written as. -/
theorem Param.ofPiece?_written (hstars : stars ∈ starMarks)
    (hname : Source.Lexer.isName name = true) (htype : ∀ t ∈ type, '=' ∉ t) :
    Param.ofPiece? (stars ++ (name ++ (annotationPart type ++ defaultPart default))) =
      let p : Param := ⟨String.ofList name, String.ofList (Text.strip (type.getD [])),
        String.ofList (Text.strip (default.getD []))⟩
      if p.isReceiver then none else some p := by
  have hequals : '=' ∉ name ++ annotationPart type := by
    rw [List.mem_append, not_or]
    refine ⟨not_mem_name (by decide) hname, ?_⟩
    cases type with
    | none => exact List.not_mem_nil
    | some t => simpa [annotationPart] using htype t rfl
  obtain ⟨hstrip, hnot⟩ := strip_stars hstars hname (annotationPart type ++ defaultPart default)
  have hseparator {w : List Char} (h : w ∉ [[], ['/'], ['*']]) :
      ¬ (w.isEmpty || w == ['/'] || w == ['*']) = true := by
    simpa [or_assoc] using h
  rw [Param.ofPiece?]
  dsimp only
  rw [if_neg (hseparator hnot), hstrip, ← List.append_assoc, cutAt?_equals hequals]
  dsimp only
  rw [cutAt?_colon hname]
  rfl

theorem Param.ofPiece?_blank (cs : List Char) :
    Param.ofPiece? (' ' :: cs) = Param.ofPiece? cs := by
  rw [Param.ofPiece?, Param.ofPiece?, strip_blank_cons]

/-! ## Reading a signature -/

/-- A text that a signature lists: enclosed, and not starting with white space. -/
structure IsPart (cs : List Char) : Prop where
  enclosed : IsEnclosed cs
  opens : ∃ c ds, cs = c :: ds ∧ Text.isBlank c = false

theorem IsPart.ne_nil (h : IsPart cs) : cs ≠ [] := by
  obtain ⟨c, ds, rfl, -⟩ := h.opens
  exact List.cons_ne_nil c ds

theorem balanced_intercalate {parts : List (List Char)} (h : ∀ p ∈ parts, IsPart p) :
    Brackets.round.Balanced ([',', ' '].intercalate parts) := by
  induction parts with
  | nil => decide
  | cons part parts ih =>
    obtain ⟨hpart, hparts⟩ := List.forall_mem_cons.mp h
    cases parts with
    | nil =>
      rw [List.intercalate_singleton]
      exact hpart.enclosed.round
    | cons next parts =>
      rw [List.intercalate_cons_cons]
      exact (hpart.enclosed.round.append (by decide)).append (ih hparts)

/-- What stands between the outer parentheses is found, whatever follows them. -/
theorem inner_parenthesised (h : Brackets.round.Balanced cs) (tail : List Char) :
    inner ('(' :: (cs ++ ')' :: tail)) = cs := by
  have hstrip : Text.strip ('(' :: (cs ++ ')' :: tail))
      = '(' :: (cs ++ ')' :: Text.stripEnd tail) := by
    rw [← Text.stripEnd_append_cons (by decide) cs]
    exact Text.strip_append_cons (by decide) [] _
  have hread : untilClosed 1 [] (cs ++ ')' :: Text.stripEnd tail)
      = untilClosed 1 (cs.reverse ++ []) (')' :: Text.stripEnd tail) :=
    untilClosed_append [] _ (fun p hp => by have := h.1 p hp; omega) (by rw [h.2]; rfl)
  rw [inner, hstrip]
  change (untilClosed 1 [] (cs ++ ')' :: Text.stripEnd tail)).getD [] = cs
  rw [hread]
  simp [untilClosed]

/-- The parameters of a signature are read off the texts that it lists. -/
theorem params_parenthesised {signature : String} {parts : List (List Char)}
    (h : ∀ p ∈ parts, IsPart p) (tail : List Char)
    (hsignature : signature.toList = '(' :: ([',', ' '].intercalate parts ++ ')' :: tail)) :
    params signature = parts.filterMap Param.ofPiece? := by
  rw [params, hsignature, inner_parenthesised (balanced_intercalate h)]
  cases parts with
  | nil => rfl
  | cons part parts =>
    have hpieces := piecesFrom_intercalate [] part fun p hp => ⟨(h p hp).enclosed, (h p hp).ne_nil⟩
    have hfull : ¬ ([',', ' '].intercalate (part :: parts)).all Text.isBlank = true := by
      obtain ⟨c, ds, rfl, hc⟩ := (h part List.mem_cons_self).opens
      cases parts <;> simp [List.intercalate_cons_cons, hc]
    have hblank : Param.ofPiece? ∘ (' ' :: ·) = Param.ofPiece? := funext Param.ofPiece?_blank
    rw [if_neg hfull, hpieces, List.reverse_nil, List.nil_append, List.filterMap_cons,
      List.filterMap_map, hblank, ← List.filterMap_cons]

end Docsmith.Signature

namespace Docsmith.Source

open Signature (IsEnclosed IsPart)

/-! ## Printing one parameter -/

/-- The annotation of a parameter. -/
def Param.type : Param → Option Expr
  | .mk _ type _ => type

/-- The default of a parameter. -/
def Param.default : Param → Option Expr
  | .mk _ _ default => default

/-- The name of a parameter with its printed annotation and its printed default. -/
def Param.printed (p : Param) : Except PrintFault Signature.Param := do
  let type ← optionText Expr.annotationText p.type
  let default ← optionText Expr.defaultText p.default
  return ⟨p.name, type, default⟩

/-- A parameter whose annotation and default can be told apart in a signature. -/
structure Param.IsLegible (p : Param) : Prop where
  name : Lexer.isName p.name.toList = true
  type : ∀ e ∈ p.type, ∃ t, e.annotationText = .ok t ∧ IsEnclosed t.toList ∧ '=' ∉ t.toList
  default : ∀ e ∈ p.default, e.isSound = true ∧ ∃ t, e.defaultText = .ok t ∧ IsEnclosed t.toList

/-- The texts of parameters are read back as what was printed, receivers apart. -/
structure ReadBack (texts : List String) (printed : List Signature.Param) : Prop where
  parts : ∀ t ∈ texts, IsPart t.toList
  params : (texts.map String.toList).filterMap Signature.Param.ofPiece?
    = (printed.map Signature.Param.trimmed).filter (!·.isReceiver)

theorem ReadBack.append {texts texts' : List String} {printed printed' : List Signature.Param}
    (h : ReadBack texts printed) (h' : ReadBack texts' printed') :
    ReadBack (texts ++ texts') (printed ++ printed') where
  parts := List.forall_mem_append.mpr ⟨h.parts, h'.parts⟩
  params := by
    rw [List.map_append, List.filterMap_append, List.map_append, List.filter_append, h.params,
      h'.params]

/-- The separators `/` and `*` stand for no parameter. -/
theorem readBack_separator {separator : List String} (h : separator ∈ [[], ["/"], ["*"]]) :
    ReadBack separator [] := by
  have hslash : IsPart ['/'] := ⟨by decide, '/', [], rfl, by decide⟩
  have hstar : IsPart ['*'] := ⟨by decide, '*', [], rfl, by decide⟩
  simp only [List.mem_cons, List.not_mem_nil, or_false] at h
  obtain rfl | rfl | rfl := h
  · exact ⟨List.forall_mem_nil _, rfl⟩
  · exact ⟨List.forall_mem_singleton.mpr hslash, by decide⟩
  · exact ⟨List.forall_mem_singleton.mpr hstar, by decide⟩

variable {p : Param}

/-- Without a default, the text of a parameter is its text without default. -/
theorem fullText_of_default_eq_none (h : p.default = none) : p.fullText = p.bareText := by
  cases p
  cases h
  rfl

/-- Behind the name of a legible parameter stands its annotation. -/
theorem Param.IsLegible.exists_bareText (h : p.IsLegible) : ∃ type : Option String,
    optionText Expr.annotationText p.type = .ok (type.getD "")
      ∧ (∀ t ∈ type, IsEnclosed t.toList ∧ '=' ∉ t.toList)
      ∧ ∃ text, p.bareText = .ok text ∧ text.toList = p.name.toList
        ++ Signature.annotationPart (type.map String.toList) := by
  obtain ⟨name, type, default⟩ := p
  cases type with
  | none => exact ⟨none, rfl, nofun, name, rfl, (List.append_nil _).symm⟩
  | some e =>
    obtain ⟨t, ht, henclosed, hequals⟩ := h.type e rfl
    refine ⟨some t, ht, ?_, name ++ ": " ++ t, ?_, ?_⟩
    · rintro _ ⟨⟩
      exact ⟨henclosed, hequals⟩
    · simp [Param.bareText, ht]
    · simp [Param.name, Signature.annotationPart]

/-- Behind that stands its default. -/
theorem Param.IsLegible.exists_fullText (h : p.IsLegible) : ∃ type default : Option String,
    optionText Expr.annotationText p.type = .ok (type.getD "")
      ∧ optionText Expr.defaultText p.default = .ok (default.getD "")
      ∧ (∀ t ∈ type, IsEnclosed t.toList ∧ '=' ∉ t.toList)
      ∧ (∀ d ∈ default, IsEnclosed d.toList ∧ HasEnds d)
      ∧ ∃ text, p.fullText = .ok text ∧ text.toList = p.name.toList
        ++ (Signature.annotationPart (type.map String.toList)
          ++ Signature.defaultPart (default.map String.toList)) := by
  obtain ⟨type, htype, hnote, text, htext, hchars⟩ := h.exists_bareText
  obtain ⟨name, annotation, value⟩ := p
  cases value with
  | none =>
    rw [← fullText_of_default_eq_none rfl] at htext
    exact ⟨type, none, htype, rfl, hnote, nofun, text, htext,
      by rw [hchars, Option.map_none, Signature.defaultPart, List.append_nil]⟩
  | some e =>
    obtain ⟨hsound, d, hd, henclosed⟩ := h.default e rfl
    have hbare : Param.bareText (.mk name annotation none) = .ok text := by
      cases annotation <;> exact htext
    refine ⟨type, some d, htype, hd, hnote, ?_, text ++ "=" ++ d, ?_, ?_⟩
    · rintro _ ⟨⟩
      exact ⟨henclosed, Expr.hasEnds_defaultText hsound hd⟩
    · rw [Param.fullText, hbare, hd]
      rfl
    · simp [hchars, Signature.defaultPart]

/-- The text that a parameter is written as is enclosed where its annotation and default are. -/
theorem isPart_written {stars name : List Char} {type default : Option (List Char)}
    (hstars : stars ∈ Signature.starMarks) (hname : Lexer.isName name = true)
    (htype : ∀ t ∈ type, IsEnclosed t) (hdefault : ∀ d ∈ default, IsEnclosed d) :
    IsPart (stars
      ++ (name ++ (Signature.annotationPart type ++ Signature.defaultPart default))) := by
  simp only [Signature.starMarks, List.mem_cons, List.not_mem_nil, or_false] at hstars
  have hplain : IsEnclosed stars := by
    obtain rfl | rfl | rfl := hstars <;> decide
  have hnamePlain : IsEnclosed name := Signature.isEnclosed_of_plain fun c hc => by
    have hmarks := (Lexer.isName_chars hname c hc).2
    simp only [Lexer.marks, List.mem_cons, not_or] at hmarks
    simp [Signature.isDelimiter, Signature.Brackets.all, hmarks]
  have hnote : IsEnclosed (Signature.annotationPart type) := by
    cases type with
    | none => decide
    | some t => exact (by decide : IsEnclosed [':', ' ']).append (htype t rfl)
  have hvalue : IsEnclosed (Signature.defaultPart default) := by
    cases default with
    | none => decide
    | some d => exact (by decide : IsEnclosed ['=']).append (hdefault d rfl)
  refine ⟨hplain.append (hnamePlain.append (hnote.append hvalue)), ?_⟩
  obtain ⟨c, cs, rfl⟩ := List.exists_cons_of_ne_nil (Lexer.isName_ne_nil hname)
  obtain rfl | rfl | rfl := hstars
  · exact ⟨c, _, rfl, (Lexer.isName_chars hname c List.mem_cons_self).1⟩
  · exact ⟨'*', _, rfl, by decide⟩
  · exact ⟨'*', _, rfl, by decide⟩

/-- A legible parameter is printed, and read back from its text with or without stars. -/
theorem Param.IsLegible.readBack (h : p.IsLegible) (stars : String)
    (hstars : stars.toList ∈ Signature.starMarks) :
    ∃ t q, p.fullText = .ok t ∧ p.printed = .ok q ∧ ReadBack [stars ++ t] [q] := by
  obtain ⟨type, default, htype, hdefault, hnote, hvalue, text, htext, hchars⟩ :=
    h.exists_fullText
  have hprinted : p.printed = .ok ⟨p.name, type.getD "", default.getD ""⟩ := by
    rw [Param.printed, htype, hdefault]
    rfl
  have hequals : ∀ t ∈ type.map String.toList, '=' ∉ t := by
    intro t ht
    obtain ⟨u, hu, rfl⟩ := Option.map_eq_some_iff.mp ht
    exact (hnote u hu).2
  refine ⟨text, _, htext, hprinted, ?_, ?_⟩
  · rw [List.forall_mem_singleton, String.toList_append, hchars]
    refine isPart_written hstars h.name (fun t ht => ?_) fun d hd => ?_
    · obtain ⟨u, hu, rfl⟩ := Option.map_eq_some_iff.mp ht
      exact (hnote u hu).1
    · obtain ⟨u, hu, rfl⟩ := Option.map_eq_some_iff.mp hd
      exact (hvalue u hu).1
  · have htypeText : (type.map String.toList).getD [] = (type.getD "").toList := by
      cases type <;> rfl
    have hdefaultText : String.ofList (Text.strip ((default.map String.toList).getD []))
        = default.getD "" := by
      cases default with
      | none => rfl
      | some d =>
        rw [Option.map_some, Option.getD_some, (hvalue d rfl).2.strip, String.ofList_toList]
        rfl
    rw [List.map_singleton, String.toList_append, hchars, List.filterMap_cons, List.filterMap_nil,
      Signature.Param.ofPiece?_written hstars h.name hequals, htypeText, hdefaultText,
      String.ofList_toList]
    cases hreceiver : Signature.Param.isReceiver
        ⟨p.name, String.ofList (Text.strip (type.getD "").toList), default.getD ""⟩ <;>
      simp [Signature.Param.trimmed, hreceiver]

theorem exists_mapM_fullText {ps : List Param} (h : ∀ p ∈ ps, p.IsLegible) :
    ∃ ts qs, ps.mapM Param.fullText = .ok ts ∧ ps.mapM Param.printed = .ok qs ∧ ReadBack ts qs := by
  induction ps with
  | nil => exact ⟨[], [], rfl, rfl, readBack_separator (by simp)⟩
  | cons p ps ih =>
    obtain ⟨hp, hps⟩ := List.forall_mem_cons.mp h
    obtain ⟨t, q, ht, hq, hread⟩ := hp.readBack "" (by decide)
    obtain ⟨ts, qs, hts, hqs, hreads⟩ := ih hps
    rw [String.empty_append] at hread
    refine ⟨t :: ts, q :: qs, ?_, ?_, hread.append hreads⟩
    · rw [List.mapM_cons, ht, hts]
      rfl
    · rw [List.mapM_cons, hq, hqs]
      rfl

theorem mapM_bareText {ps : List Param} (h : ∀ p ∈ ps, p.default = none) :
    ps.mapM Param.bareText = ps.mapM Param.fullText := by
  induction ps with
  | nil => rfl
  | cons p ps ih =>
    obtain ⟨hp, hps⟩ := List.forall_mem_cons.mp h
    rw [List.mapM_cons, List.mapM_cons, fullText_of_default_eq_none hp, ih hps]

/-! ## Printing a signature -/

/-- All parameters, in the order of a signature. -/
def Params.all : Params → List Param
  | .mk positional regular rest named namedRest =>
    positional ++ regular ++ rest.toList ++ named ++ namedRest.toList

/-- The parameters that are shown without a default. -/
def Params.bare : Params → List Param
  | .mk positional _ rest _ namedRest => positional ++ rest.toList ++ namedRest.toList

/-- All parameters are legible, and those that are shown without a default have none. -/
structure Params.IsLegible (ps : Params) : Prop where
  params : ∀ p ∈ ps.all, p.IsLegible
  bare : ∀ p ∈ ps.bare, p.default = none

/-- The part for the parameter that takes several arguments, or the star that stands for none. -/
def starParts (stars : String) (separator : List String) :
    Option Param → Except PrintFault (List String)
  | none => pure separator
  | some p => do return [stars ++ (← p.bareText)]

theorem parts_eq (positional regular : List Param) (rest : Option Param) (named : List Param)
    (namedRest : Option Param) : (Params.mk positional regular rest named namedRest).parts = do
      let ps ← positional.mapM Param.bareText
      let rs ← regular.mapM Param.fullText
      let star ← starParts "*" (if named.isEmpty then [] else ["*"]) rest
      let ns ← named.mapM Param.fullText
      let last ← starParts "**" [] namedRest
      return ps ++ (if positional.isEmpty then [] else ["/"]) ++ rs ++ star ++ ns ++ last := by
  cases rest <;> cases namedRest <;> simp [Params.parts, starParts]

/-- A parameter that takes several arguments is read back without its stars. -/
theorem exists_starParts (stars : String) {separator : List String} {rest : Option Param}
    (hstars : stars.toList ∈ Signature.starMarks) (hseparator : ReadBack separator [])
    (h : ∀ p ∈ rest.toList, p.IsLegible) (hbare : ∀ p ∈ rest.toList, p.default = none) :
    ∃ ts qs, starParts stars separator rest = .ok ts ∧ rest.toList.mapM Param.printed = .ok qs
      ∧ ReadBack ts qs := by
  cases rest with
  | none => exact ⟨separator, [], rfl, rfl, hseparator⟩
  | some p =>
    obtain ⟨t, q, ht, hq, hread⟩ := (h p (by simp)).readBack stars hstars
    rw [fullText_of_default_eq_none (hbare p (by simp))] at ht
    refine ⟨[stars ++ t], [q], ?_, ?_, hread⟩
    · rw [starParts, ht]
      rfl
    · rw [Option.toList_some, List.mapM_cons, hq]
      rfl

/-- Legible parameters are printed, and read back from the parts of the signature. -/
theorem Params.IsLegible.exists_parts {ps : Params} (h : ps.IsLegible) :
    ∃ parts printed, ps.parts = .ok parts ∧ ps.all.mapM Param.printed = .ok printed
      ∧ ReadBack parts printed := by
  obtain ⟨positional, regular, rest, named, namedRest⟩ := ps
  obtain ⟨hparams, hbare⟩ := h
  simp only [Params.all, Params.bare, List.forall_mem_append] at hparams hbare
  obtain ⟨⟨⟨⟨hpositional, hregular⟩, hrest⟩, hnamed⟩, hnamedRest⟩ := hparams
  obtain ⟨⟨hbarePositional, hbareRest⟩, hbareNamedRest⟩ := hbare
  have hnone : ReadBack [] [] := readBack_separator (by simp)
  have hslash : ReadBack (if positional.isEmpty then [] else ["/"]) [] := by
    split <;> exact readBack_separator (by simp)
  have hstar : ReadBack (if named.isEmpty then [] else ["*"]) [] := by
    split <;> exact readBack_separator (by simp)
  obtain ⟨ps, qps, hps, hqps, hreadPs⟩ := exists_mapM_fullText hpositional
  obtain ⟨rs, qrs, hrs, hqrs, hreadRs⟩ := exists_mapM_fullText hregular
  obtain ⟨ss, qss, hss, hqss, hreadSs⟩ :=
    exists_starParts "*" (by decide) hstar hrest hbareRest
  obtain ⟨ns, qns, hns, hqns, hreadNs⟩ := exists_mapM_fullText hnamed
  obtain ⟨ls, qls, hls, hqls, hreadLs⟩ :=
    exists_starParts "**" (by decide) hnone hnamedRest hbareNamedRest
  refine ⟨_, qps ++ [] ++ qrs ++ qss ++ qns ++ qls, ?_, ?_, ((((hreadPs.append hslash).append
    hreadRs).append hreadSs).append hreadNs).append hreadLs⟩
  · rw [parts_eq, mapM_bareText hbarePositional, hps, hrs, hss, hns, hls]
    rfl
  · simp only [Params.all, List.mapM_append, hqps, hqrs, hqss, hqns, hqls, List.append_nil]
    rfl

/-- The arrow of a signature with what the function returns. -/
def arrowText : Option Expr → Printed
  | none => pure ""
  | some e => do return " -> " ++ (← e.annotationText)

/-- A signature is the list of its parts between parentheses, with the arrow behind. -/
theorem signature_eq (f : FunctionDef) : f.signature = do
    let parts ← f.params.parts
    let arrow ← arrowText f.returns
    return "(" ++ ", ".intercalate parts ++ ")" ++ arrow := by
  rw [FunctionDef.signature]
  cases f.returns with
  | none => simp [arrowText]
  | some e => simp only [arrowText, bind_assoc, pure_bind, String.append_assoc]

/-- Parts that are read back one by one are read back from the signature. -/
theorem ReadBack.params_of_signature {f : FunctionDef} {parts : List String} {s : String}
    {printed : List Signature.Param} (h : ReadBack parts printed)
    (hparts : f.params.parts = .ok parts) (hs : f.signature = .ok s) :
    Signature.params s = (printed.map Signature.Param.trimmed).filter (!·.isReceiver) := by
  rw [signature_eq, hparts] at hs
  obtain ⟨_, ⟨⟩, hs⟩ := bind_eq_ok.mp hs
  obtain ⟨arrow, -, hs⟩ := bind_eq_ok.mp hs
  obtain rfl := Except.ok.inj hs
  have hlist : ∀ p ∈ parts.map String.toList, IsPart p := List.forall_mem_map.mpr h.parts
  rw [← h.params]
  refine Signature.params_parenthesised hlist arrow.toList ?_
  simp [String.toList_intercalate]

/-- The parameters of a function are read back from its signature. -/
theorem params_signature (f : FunctionDef) (hparams : f.params.IsLegible)
    (hreturns : ∀ e ∈ f.returns, ∃ t, e.annotationText = .ok t) :
    ∃ s printed, f.signature = .ok s ∧ f.params.all.mapM Param.printed = .ok printed
      ∧ Signature.params s = (printed.map Signature.Param.trimmed).filter (!·.isReceiver) := by
  obtain ⟨parts, printed, hparts, hprinted, hread⟩ := hparams.exists_parts
  obtain ⟨arrow, harrow⟩ : ∃ arrow, arrowText f.returns = .ok arrow := by
    cases hf : f.returns with
    | none => exact ⟨"", rfl⟩
    | some e =>
      obtain ⟨t, ht⟩ := hreturns e hf
      exact ⟨" -> " ++ t, by rw [arrowText, ht]; rfl⟩
  have hs : f.signature = .ok ("(" ++ ", ".intercalate parts ++ ")" ++ arrow) := by
    rw [signature_eq, hparts, harrow]
    rfl
  exact ⟨_, printed, hs, hprinted, hread.params_of_signature hparts hs⟩

/-- A function with parameters of all kinds:
    `(self, a: dict[str, int], /, b: list=(1, 2), *args: T, c='=', **options) -> int | None`. -/
def mixedFunction : FunctionDef where
  isAsync := false
  span := ⟨1, 0, 0⟩
  name := "f"
  params := .mk
    [.mk "self" none none,
      .mk "a" (some (.subscript (.name "dict") (.tuple [.name "str", .name "int"]))) none]
    [.mk "b" (some (.name "list")) (some (.tuple [.constant (.int 1), .constant (.int 2)]))]
    (some (.mk "args" (some (.name "T")) none))
    [.mk "c" none (some (.constant (.str "=" false)))]
    (some (.mk "options" none none))
  body := [.pass]
  decorators := []
  returns := some (.binary (.name "int") .bitOr (.constant .none))

theorem mixedFunction_isLegible : mixedFunction.params.IsLegible := by
  constructor
  · simp only [mixedFunction, Params.all, List.cons_append, List.nil_append, Option.toList_some,
      List.forall_mem_cons]
    refine ⟨⟨by decide, nofun, nofun⟩, ⟨by decide, ?_, nofun⟩, ⟨by decide, ?_, ?_⟩,
      ⟨by decide, ?_, nofun⟩, ⟨by decide, nofun, ?_⟩, ⟨by decide, nofun, nofun⟩,
      List.forall_mem_nil _⟩ <;> rintro _ ⟨⟩
    · exact ⟨"dict[str, int]", rfl, by decide, by decide⟩
    · exact ⟨"list", rfl, by decide, by decide⟩
    · exact ⟨rfl, "(1, 2)", rfl, by decide⟩
    · exact ⟨"T", rfl, by decide, by decide⟩
    · exact ⟨rfl, "'='", rfl, by decide⟩
  · simp [mixedFunction, Params.bare, Param.default]

theorem params_signature_mixedFunction : mixedFunction.params.IsLegible
    ∧ ∃ s, mixedFunction.signature = .ok s ∧ Signature.params s =
      [⟨"a", "dict[str, int]", ""⟩, ⟨"b", "list", "(1, 2)"⟩, ⟨"args", "T", ""⟩,
        ⟨"c", "", "'='"⟩, ⟨"options", "", ""⟩] := by
  obtain ⟨s, printed, hs, hprinted, hparams⟩ := params_signature mixedFunction
    mixedFunction_isLegible (by rintro _ ⟨⟩; exact ⟨"int | None", rfl⟩)
  have hlist : mixedFunction.params.all.mapM Param.printed = .ok
      [⟨"self", "", ""⟩, ⟨"a", "dict[str, int]", ""⟩, ⟨"b", "list", "(1, 2)"⟩, ⟨"args", "T", ""⟩,
        ⟨"c", "", "'='"⟩, ⟨"options", "", ""⟩] := rfl
  obtain rfl := Except.ok.inj (hprinted.symm.trans hlist)
  exact ⟨mixedFunction_isLegible, s, hs, hparams.trans (by decide)⟩

/-- A function with the parameter `x: () | int`. The empty tuple is printed as nothing, so the
    text of the annotation starts with white space. -/
def voidUnion : FunctionDef where
  isAsync := false
  span := ⟨1, 0, 0⟩
  name := "f"
  params := .mk [] [.mk "x" (some (.binary (.tuple []) .bitOr (.name "int"))) none] none [] none
  body := [.pass]
  decorators := []
  returns := none

theorem voidUnion_isLegible : voidUnion.params.IsLegible := by
  constructor
  · simp only [voidUnion, Params.all, List.nil_append, Option.toList_none, List.append_nil,
      List.forall_mem_singleton]
    refine ⟨by decide, ?_, nofun⟩
    rintro _ ⟨⟩
    exact ⟨" | int", rfl, by decide, by decide⟩
  · simp [voidUnion, Params.bare]

/-- So a printed annotation is not always what is read back. -/
theorem exists_annotation_not_read_back : ¬ ∀ f : FunctionDef, f.params.IsLegible →
    (∀ e ∈ f.returns, ∃ t, e.annotationText = .ok t) →
    ∃ s printed, f.signature = .ok s ∧ f.params.all.mapM Param.printed = .ok printed
      ∧ Signature.params s = printed.filter (!·.isReceiver) := by
  intro h
  obtain ⟨s, printed, hs, hprinted, hparams⟩ := h voidUnion voidUnion_isLegible nofun
  have hsignature : voidUnion.signature = .ok "(x:  | int)" := rfl
  have hlist : voidUnion.params.all.mapM Param.printed = .ok [⟨"x", " | int", ""⟩] := rfl
  obtain rfl := Except.ok.inj (hs.symm.trans hsignature)
  obtain rfl := Except.ok.inj (hprinted.symm.trans hlist)
  exact absurd hparams (by decide)

end Docsmith.Source
