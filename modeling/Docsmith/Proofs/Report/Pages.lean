-- SUMMARY: Long pages are cut into chunks without loss and within a bound.
import Docsmith.Proofs.Answer
import Docsmith.Proofs.Text.Letter
import Docsmith.Proofs.Text.Lines
import Docsmith.Report.Chunk

/-!
# Chunks of long pages

A long page is cut at the ends of its sentences. Every chunk has a heading and a
body, and the bodies put side by side are the text of the page with a full stop
behind it. A chunk exceeds its bound only if its body is a single sentence. A
heading that stands alone loses the white space at its end.
-/

namespace Docsmith.Text

theorem joinWith_append_self (sep : List Char) {ls : List (List Char)} (hne : ls ≠ []) :
    joinWith sep ls ++ sep = ls.flatMap (· ++ sep) := by
  induction ls with
  | nil => exact absurd rfl hne
  | cons l ls ih =>
    cases ls with
    | nil => simp [joinWith]
    | cons m ls =>
      rw [joinWith_cons_cons, List.append_assoc, List.append_assoc, ih (List.cons_ne_nil m ls)]
      simp

/-- No character is lost between the pieces. -/
theorem flatMap_piecesFrom {word : List Char} (hne : word ≠ []) (piece : List Char)
    (found : List (List Char)) (skip : Nat) (cs : List Char) :
    (piecesFrom word piece found skip cs).flatMap (· ++ word)
      = found.reverse.flatMap (· ++ word) ++ (piece.reverse ++ (cs.drop skip ++ word)) := by
  fun_induction piecesFrom word piece found skip cs with
  | case1 piece found skip => simp
  | case2 piece found skip c cs ih => rw [ih, List.drop_succ_cons]
  | case3 piece found c cs hstart ih =>
    obtain ⟨r, hr⟩ := startsWith_iff.mp hstart
    obtain ⟨w, ws, rfl⟩ := List.exists_cons_of_ne_nil hne
    obtain ⟨rfl, rfl⟩ := List.cons.inj hr
    rw [ih]
    simp
  | case4 piece found c cs hstart ih =>
    rw [ih]
    simp

theorem pieces_ne_nil (word cs : List Char) : pieces word cs ≠ [] := by
  suffices h : ∀ piece found skip, piecesFrom word piece found skip cs ≠ [] from h [] [] 0
  intro piece found skip
  fun_induction piecesFrom word piece found skip cs with
  | case1 => simp
  | case2 _ _ _ _ _ ih => exact ih
  | case3 _ _ _ _ _ ih => exact ih
  | case4 _ _ _ _ _ ih => exact ih

theorem flatMap_pieces {word : List Char} (hne : word ≠ []) (cs : List Char) :
    (pieces word cs).flatMap (· ++ word) = cs ++ word := by
  rw [pieces, flatMap_piecesFrom hne]
  simp

end Docsmith.Text

namespace Docsmith.Report

/-! ## Headings and sentences -/

/-- A heading with a body below it; `alone` tells how a heading without a body is written. -/
def headed (alone : List Char → List Char) (heading body : List Char) : List Char :=
  if body.isEmpty then alone heading else heading ++ '\n' :: body

/-- Sentences in a row, with their full stops. -/
def written (ss : List (List Char)) : List Char := Text.joinWith [' '] (ss.map (· ++ ['.']))

/-- Sentences with the separators that are put behind them. -/
def filled (ss : List (List Char)) : List Char := ss.flatMap (· ++ ['.', ' '])

/-- The heading starts with a character that is not white space. -/
def IsHeading (heading : List Char) : Prop := ∃ c cs, heading = c :: cs ∧ Text.isBlank c = false

/-- There is room for the sentences below the heading, or there is at most one. -/
def HasRoom (heading : List Char) (ss : List (List Char)) : Prop :=
  (heading ++ '\n' :: filled ss).length ≤ maxChunk + 2 ∨ ss.length ≤ 1

theorem written_append_blank {ss : List (List Char)} (hne : ss ≠ []) :
    written ss ++ [' '] = filled ss := by
  rw [written, Text.joinWith_append_self _ (by simpa using hne), List.flatMap_map]
  simp [filled]

theorem written_eq_nil_iff {ss : List (List Char)} : written ss = [] ↔ ss = [] := by
  constructor
  · intro h
    by_contra hne
    obtain ⟨s, ss, rfl⟩ := List.exists_cons_of_ne_nil hne
    have hlength := congrArg List.length (written_append_blank hne)
    simp [h, filled] at hlength
    omega
  · rintro rfl
    rfl

theorem getLast?_written {ss : List (List Char)} (hne : ss ≠ []) :
    (written ss).getLast? = some '.' := by
  obtain ⟨front, s, rfl⟩ := Text.exists_concat_of_ne_nil hne
  have h := written_append_blank hne
  have hfilled : filled (front ++ [s]) = (filled front ++ s ++ ['.']) ++ [' '] := by
    simp [filled]
  rw [hfilled] at h
  rw [List.append_cancel_right h]
  simp

theorem strip_filled {heading : List Char} (h : IsHeading heading) (ss : List (List Char)) :
    Text.strip (heading ++ '\n' :: filled ss) = headed Text.stripEnd heading (written ss) := by
  obtain ⟨c, cs, rfl, hc⟩ := h
  by_cases hss : ss = []
  · subst hss
    have hend := Text.stripEnd_append_cons hc [] cs
    have hboth := Text.strip_append_cons hc [] cs
    rw [List.nil_append] at hend hboth
    rw [filled, List.flatMap_nil, Text.strip_append_allBlank (by simp [Text.AllBlank]; decide),
      hboth]
    exact hend.symm
  · have hne : (written ss).isEmpty = false := by
      simpa using mt written_eq_nil_iff.mp hss
    rw [← written_append_blank hss, headed, hne, ← List.cons_append, ← List.append_assoc,
      Text.strip_append_allBlank (by simp [Text.AllBlank]; decide)]
    refine Text.strip_eq_self ?_ ?_
    · rintro _ ⟨⟩
      exact hc
    · intro d hd
      rw [List.getLast?_append, List.getLast?_cons, getLast?_written hss] at hd
      obtain rfl := Option.some.inj hd
      rfl

/-- Sentences that fit below a heading exceed the bound of a chunk only if there is at most one. -/
theorem HasRoom.length_le {heading : List Char} {ss : List (List Char)} (h : HasRoom heading ss) :
    (headed Text.stripEnd heading (written ss)).length ≤ maxChunk + 1 ∨ ss.length ≤ 1 := by
  refine h.imp_left fun hroom => ?_
  by_cases hss : ss = []
  · subst hss
    have hle := (Text.stripEnd_prefix heading).length_le
    simp only [List.length_append, List.length_cons] at hroom
    simp only [headed, written, List.map_nil, Text.joinWith, List.intersperse_nil,
      List.flatten_nil, List.isEmpty_nil, if_true]
    omega
  · have hne : (written ss).isEmpty = false := by
      simpa using mt written_eq_nil_iff.mp hss
    rw [← written_append_blank hss] at hroom
    simp only [List.length_append, List.length_cons, List.length_nil] at hroom
    simp only [headed, hne, Bool.false_eq_true, if_false, List.length_append, List.length_cons]
    omega

/-! ## Cutting -/

/-- The sentences are dealt out in order: some to the chunk being filled, at least one to every
    further chunk. -/
theorem sentenceChunks_eq {further : List Char} (hfurther : IsHeading further)
    {heading : List Char} (hheading : IsHeading heading) (ss held : List (List Char))
    (hroom : HasRoom heading held) :
    ∃ (more : List (List Char)) (groups : List (List (List Char))),
      sentenceChunks (further ++ ['\n']) (heading ++ '\n' :: filled held) ss =
        headed Text.stripEnd heading (written (held ++ more))
          :: groups.map (fun g => headed Text.stripEnd further (written g)) ∧
      more ++ groups.flatten = ss ∧ (∀ g ∈ groups, g ≠ []) ∧
      HasRoom heading (held ++ more) ∧ ∀ g ∈ groups, HasRoom further g := by
  induction ss generalizing heading held with
  | nil =>
    have hne : (Text.strip (heading ++ '\n' :: filled held)).isEmpty = false := by
      obtain ⟨c, cs, rfl, hc⟩ := hheading
      rw [List.isEmpty_eq_false_iff]
      exact Text.strip_ne_nil (by simp) hc
    refine ⟨[], [], ?_, rfl, List.forall_mem_nil _, by simpa using hroom, List.forall_mem_nil _⟩
    rw [sentenceChunks, hne, strip_filled hheading, List.append_nil]
    rfl
  | cons s ss ih =>
    rw [sentenceChunks]
    split
    · -- The sentence opens a chunk of its own, which it may fill beyond the bound.
      have hopen : further ++ ['\n'] ++ s ++ ['.', ' '] = further ++ '\n' :: filled [s] := by
        simp [filled]
      obtain ⟨more, groups, hchunks, hsplit, hfull, hfirst, hrest⟩ :=
        ih hfurther [s] (.inr (Nat.le_refl 1))
      refine ⟨[], ([s] ++ more) :: groups, ?_, ?_, ?_, by simpa using hroom, ?_⟩
      · rw [hopen, hchunks, strip_filled hheading, List.append_nil]
        rfl
      · simpa using hsplit
      · exact List.forall_mem_cons.mpr ⟨List.cons_ne_nil s more, hfull⟩
      · exact List.forall_mem_cons.mpr ⟨hfirst, hrest⟩
    · rename_i hroom
      have hgrow : heading ++ '\n' :: filled held ++ s ++ ['.', ' ']
          = heading ++ '\n' :: filled (held ++ [s]) := by
        simp [filled]
      have hroom : HasRoom heading (held ++ [s]) := by
        refine .inl ?_
        rw [← hgrow, List.length_append, List.length_append]
        simp only [List.length_cons, List.length_nil]
        omega
      obtain ⟨more, groups, hchunks, hsplit, hfull, hfirst, hrest⟩ := ih hheading _ hroom
      rw [List.append_assoc, List.singleton_append] at hchunks hfirst
      exact ⟨s :: more, groups, by rw [hgrow, hchunks], by simpa using hsplit, hfull, hfirst, hrest⟩

/-- The bodies put side by side are the sentences with their full stops. -/
theorem joinWith_bodies {groups : List (List (List Char))} (hne : groups.flatten ≠ []) :
    Text.joinWith [' '] ((groups.map written).filter (!·.isEmpty)) ++ [' ']
      = filled groups.flatten := by
  have hflat : ((groups.map written).filter (!·.isEmpty)).flatMap (· ++ [' '])
      = filled groups.flatten := by
    clear hne
    induction groups with
    | nil => rfl
    | cons g groups ih =>
      by_cases hg : g = []
      · subst hg
        exact ih
      · have hfull : (!(written g).isEmpty) = true := by
          simpa using mt written_eq_nil_iff.mp hg
        rw [List.map_cons, List.filter_cons, if_pos hfull, List.flatMap_cons, ih,
          written_append_blank hg]
        simp [filled]
  rw [← hflat, Text.joinWith_append_self]
  intro hnil
  rw [hnil, ← written_append_blank hne] at hflat
  simp at hflat

/-- The body is empty or a single sentence of the text. -/
def HoldsAtMostOne (clean body : List Char) : Prop :=
  body = [] ∨ ∃ s ∈ Text.pieces ['.', ' '] clean, body = s ++ ['.']

/-- The texts are chunks of a page: each has a heading and a body, the bodies put side by side are
    the text of the page with a full stop, only the first body can be empty, and a text exceeds the
    bound only if its body holds at most one sentence. -/
def IsCut (alone : List Char → List Char) (title clean : List Char)
    (texts : List (List Char)) : Prop :=
  let first := headed alone ("Page: ".toList ++ title)
  let further := headed alone ("Page: ".toList ++ title ++ " (cont.)".toList)
  ∃ body bodies, texts = first body :: bodies.map further ∧
    Text.joinWith [' '] ((body :: bodies).filter (!·.isEmpty)) = clean ++ ['.'] ∧
    (∀ b ∈ bodies, b ≠ []) ∧
    ((first body).length ≤ maxChunk + 1 ∨ HoldsAtMostOne clean body) ∧
    ∀ b ∈ bodies, (further b).length ≤ maxChunk + 1 ∨ HoldsAtMostOne clean b

theorem isCut_pageTexts {title clean : List Char} (hlong : maxChunk < clean.length) :
    IsCut Text.stripEnd title clean (pageTexts title clean) := by
  have hfirst : IsHeading ("Page: ".toList ++ title) := ⟨'P', _, rfl, rfl⟩
  have hfurther : IsHeading ("Page: ".toList ++ title ++ " (cont.)".toList) := ⟨'P', _, rfl, rfl⟩
  obtain ⟨more, groups, hchunks, hsplit, hfull, hroom, hrest⟩ := sentenceChunks_eq hfurther hfirst
    (Text.pieces ['.', ' '] clean) [] (.inr (Nat.zero_le 1))
  have hall : (more :: groups).flatten = Text.pieces ['.', ' '] clean := hsplit
  have hone : ∀ g ∈ more :: groups, g.length ≤ 1 → HoldsAtMostOne clean (written g) := by
    intro g hg hlength
    obtain _ | ⟨s, _ | ⟨_, _⟩⟩ := g
    · exact .inl rfl
    · refine .inr ⟨s, ?_, by simp [written, Text.joinWith]⟩
      rw [← hall]
      exact List.mem_flatten_of_mem hg List.mem_cons_self
    · simp at hlength
  refine ⟨written more, groups.map written, ?_, ?_, ?_, ?_, ?_⟩
  · have hline : "Page: ".toList ++ title ++ " (cont.)\n".toList
        = "Page: ".toList ++ title ++ " (cont.)".toList ++ ['\n'] := by simp
    rw [pageTexts, if_neg (Nat.not_le.mpr hlong), hline, List.map_map]
    exact hchunks
  · have hjoined := joinWith_bodies (hall ▸ Text.pieces_ne_nil _ _ : (more :: groups).flatten ≠ [])
    rw [hall, filled, Text.flatMap_pieces (by decide), List.map_cons] at hjoined
    exact List.append_cancel_right (hjoined.trans (by simp))
  · rw [List.forall_mem_map]
    exact fun g hg => mt written_eq_nil_iff.mp (hfull g hg)
  · exact hroom.length_le.imp_right (hone more List.mem_cons_self)
  · rw [List.forall_mem_map]
    exact fun g hg => (hrest g hg).length_le.imp_right (hone g (List.mem_cons_of_mem _ hg))

/-! ## Pages -/

theorem pageChunks_eq {page title : Value} {content : String}
    (hcontent : page.getD "content" (.str "") = .ok (.str content))
    (htitle : page.field "title" = .ok title) (hne : cleanText content.toList ≠ []) :
    pageChunks page = .ok ((pageTexts title.text.toList
      (cleanText content.toList)).map fun t => ⟨String.ofList t, title, "page"⟩) := by
  have hfull : (cleanText content.toList).isEmpty = false := List.isEmpty_eq_false_iff.mpr hne
  simp only [pageChunks, hcontent, htitle]
  simp [bind, Except.bind, Value.needText, hfull]
  rfl

/-- The chunks of a long page. They stand in a row among the chunks of every project that has the
    page. -/
theorem pageChunks_isCut {page title : Value} {content : String}
    (hcontent : page.getD "content" (.str "") = .ok (.str content))
    (htitle : page.field "title" = .ok title)
    (hlong : maxChunk < (cleanText content.toList).length) :
    ∃ texts, IsCut Text.stripEnd title.text.toList (cleanText content.toList) texts ∧
      pageChunks page = .ok (texts.map fun t => ⟨String.ofList t, title, "page"⟩) ∧
      ∀ (data : Value) (pages : List Value) (all : List Chunk), data.itemsOf "pages" = .ok pages →
        page ∈ pages → chunks data = .ok all →
        (texts.map fun t => Chunk.mk (String.ofList t) title "page") <:+: all := by
  have hchunks := pageChunks_eq hcontent htitle
    (List.length_pos_iff.mp (Nat.zero_lt_of_lt hlong))
  refine ⟨_, isCut_pageTexts hlong, hchunks, fun data pages all hpages hmem hall => ?_⟩
  simp only [chunks, hpages, bind_eq_ok] at hall
  obtain ⟨functions, -, functionChunks, -, endpoints, -, endpointChunks, -, classes, -, classChunks,
    -, _, ⟨⟩, groups, hgroups, hall⟩ := hall
  obtain rfl := Except.ok.inj hall
  have hgroup := (mem_mapM hgroups).mpr ⟨page, hmem, hchunks⟩
  exact (List.infix_of_mem_flatten hgroup).trans (List.suffix_append _ _).isInfix

/-- A page of one word, without a title. -/
def untitledPage (n : Nat) : Value := .object [
  ("title", .str ""), ("content", .str (String.ofList (List.replicate n 'a')))]

theorem content_untitledPage (n : Nat) : (untitledPage n).getD "content" (.str "")
    = .ok (.str (String.ofList (List.replicate n 'a'))) := rfl

theorem title_untitledPage (n : Nat) : (untitledPage n).field "title" = .ok (.str "") := rfl

theorem withoutTagsFrom_of_not_mem {cs : List Char} (h : '<' ∉ cs) : withoutTagsFrom 0 cs = cs := by
  induction cs with
  | nil => rfl
  | cons c cs ih =>
    obtain ⟨hne, hcs⟩ := not_or.mp (List.mem_cons.not.mp h)
    rw [withoutTagsFrom, if_neg (by simpa using Ne.symm hne), ih hcs]

theorem words_of_not_isBlank {cs : List Char} (hne : cs ≠ [])
    (h : ∀ c ∈ cs, Text.isBlank c = false) : Text.words cs = [cs] := by
  suffices hfrom : ∀ word, word ++ cs ≠ [] → Text.wordsFrom word.reverse [] cs = [word ++ cs] from
    hfrom [] hne
  clear hne
  intro word hne
  induction cs generalizing word with
  | nil =>
    rw [List.append_nil] at hne ⊢
    simp [Text.wordsFrom, hne]
  | cons c cs ih =>
    obtain ⟨hc, hcs⟩ := List.forall_mem_cons.mp h
    have hword := ih hcs (word ++ [c]) (by simp)
    simpa [Text.wordsFrom, hc] using hword

theorem cleanText_replicate {n : Nat} (hn : 0 < n) :
    cleanText (List.replicate n 'a') = List.replicate n 'a' := by
  have hblank : ∀ c ∈ List.replicate n 'a', Text.isBlank c = false := by
    intro c hc
    rw [List.eq_of_mem_replicate hc]
    rfl
  have htag : '<' ∉ List.replicate n 'a' := fun h => absurd (List.eq_of_mem_replicate h) (by decide)
  rw [cleanText, withoutTagsFrom_of_not_mem htag,
    words_of_not_isBlank (by simpa using Nat.ne_of_gt hn) hblank]
  simp [Text.joinWith]

theorem cleanText_untitledPage :
    cleanText (String.ofList (List.replicate 2001 'a')).toList = List.replicate 2001 'a' := by
  rw [String.toList_ofList, cleanText_replicate (by decide)]

theorem pageChunks_isCut_untitledPage :
    maxChunk < (List.replicate 2001 'a').length ∧
      ∃ texts, IsCut Text.stripEnd [] (List.replicate 2001 'a') texts ∧
        pageChunks (untitledPage 2001)
          = .ok (texts.map fun t => ⟨String.ofList t, .str "", "page"⟩) := by
  have hlong : maxChunk < (List.replicate 2001 'a').length := by
    rw [List.length_replicate]
    decide
  obtain ⟨texts, hcut, hchunks, -⟩ := pageChunks_isCut (content_untitledPage 2001)
    (title_untitledPage 2001) (by rwa [cleanText_untitledPage])
  rw [cleanText_untitledPage] at hcut
  exact ⟨hlong, texts, hcut, hchunks⟩

/-- The heading of such a page stands alone, without the blank that it ends with. -/
theorem exists_heading_without_blank : ¬ ∀ (page title : Value) (content : String),
    page.getD "content" (.str "") = .ok (.str content) → page.field "title" = .ok title →
    '\n' ∉ title.text.toList → maxChunk < (cleanText content.toList).length →
    ∃ texts, IsCut id title.text.toList (cleanText content.toList) texts ∧
      pageChunks page = .ok (texts.map fun t => ⟨String.ofList t, title, "page"⟩) := by
  intro h
  have hlong : maxChunk < (cleanText (String.ofList (List.replicate 2001 'a')).toList).length := by
    rw [cleanText_untitledPage, List.length_replicate]
    decide
  obtain ⟨texts, ⟨body, bodies, rfl, -⟩, hchunks⟩ :=
    h _ _ _ (content_untitledPage 2001) (title_untitledPage 2001) (by decide) hlong
  have htexts : ∃ rest, pageTexts [] (List.replicate 2001 'a') = "Page:".toList :: rest := by
    have hpieces : Text.pieces ['.', ' '] (List.replicate 2001 'a') = [List.replicate 2001 'a'] :=
      Text.pieces_of_not_mem _ fun hmem => absurd (List.eq_of_mem_replicate hmem) (by decide)
    rw [pageTexts, if_neg (by rw [List.length_replicate]; decide), hpieces, sentenceChunks,
      if_pos (by rw [List.length_replicate]; decide)]
    exact ⟨_, rfl⟩
  obtain ⟨rest, hrest⟩ := htexts
  have hshown := pageChunks_eq (content_untitledPage 2001) (title_untitledPage 2001)
    (List.length_pos_iff.mp (Nat.zero_lt_of_lt hlong))
  rw [hchunks, cleanText_untitledPage] at hshown
  have hlists := (Except.ok.inj hshown).trans (congrArg _ hrest)
  have hfirst : headed id "Page: ".toList body = "Page:".toList := by
    simpa [Value.text] using congrArg (·.text.toList) (List.cons.inj hlists).1
  cases body with
  | nil => exact absurd hfirst (by decide)
  | cons c cs => simp [headed] at hfirst

end Docsmith.Report
