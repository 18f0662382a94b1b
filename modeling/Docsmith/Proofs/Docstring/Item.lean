-- SUMMARY: Item lines are read back as they are written.
import Docsmith.Docstring.Item
import Docsmith.Proofs.Text.Letter
import Docsmith.Proofs.Text.Lines
import Mathlib.Data.List.Infix

/-!
# Writing and reading items

`Item.line` writes an item on a line and `Entry.lines` puts the lines that
continue it below. Reading gives the items back if the name is a name, the note
closes no parenthesis, and no further line looks like an item. The note of an
argument holds its type, the word for required and its default; the three are
told apart again if the type has none of the signs that end it.
-/

namespace Docsmith.Docstring

variable {l : Line} {ls ms bs : List Line}

/-! ## Item lines -/

/-- The text is the name of an item: at most two stars, then letters and numerals. -/
def isName (name : Line) : Bool :=
  let word := name.dropWhile (· == '*')
  (name.takeWhile (· == '*')).length ≤ 2 && !word.isEmpty && word.all Text.isWord

/-- The note in parentheses, if there is one, and the text after a colon. -/
def writtenNoteAndText (note text : Line) : Line :=
  (if note.isEmpty then [] else ' ' :: '(' :: (note ++ [')'])) ++ ':' :: ' ' :: text

/-- An item as it is written, indented by four blanks. -/
def Item.line (i : Item) : Line :=
  List.replicate 4 ' ' ++ (i.name ++ writtenNoteAndText i.note i.text)

/-- The code points of white space. -/
def blankCodes : List Nat :=
  [9, 10, 11, 12, 13, 28, 29, 30, 31, 32, 0x85, 0xA0, 0x1680, 0x2000, 0x2001, 0x2002, 0x2003,
    0x2004, 0x2005, 0x2006, 0x2007, 0x2008, 0x2009, 0x200A, 0x2028, 0x2029, 0x202F, 0x205F, 0x3000]

theorem toNat_mem_blankCodes {c : Char} (h : Text.isBlank c = true) : c.toNat ∈ blankCodes := by
  simp only [Text.isBlank, Bool.or_eq_true, Bool.and_eq_true, decide_eq_true_eq,
    beq_iff_eq] at h
  simp only [blankCodes, List.mem_cons, List.not_mem_nil, or_false]
  omega

/-- Characters of a class that no white space belongs to are none. -/
theorem not_isBlank_of_class {p : Char → Bool} (hp : ∀ n ∈ blankCodes, p (Char.ofNat n) = false)
    {c : Char} (h : p c = true) : Text.isBlank c = false := by
  rw [← Bool.not_eq_true]
  intro hblank
  have hnot := hp _ (toNat_mem_blankCodes hblank)
  rw [Char.ofNat_toNat, h] at hnot
  cases hnot

/-- A letter or numeral is no white space. -/
theorem not_isBlank_of_isWord {c : Char} (h : Text.isWord c = true) : Text.isBlank c = false :=
  not_isBlank_of_class (by decide +kernel) h

theorem stars_of_ne {c : Char} (h : c ≠ '*') (cs : List Char) :
    stars (c :: cs) = ([], c :: cs) := by
  simp [stars, h]

theorem stars_one_of_ne {c : Char} (h : c ≠ '*') (cs : List Char) :
    stars ('*' :: c :: cs) = (['*'], c :: cs) := by
  simp [stars, h]

/-- A name is cut after its stars. -/
theorem stars_append {name : Line} (h : isName name = true) (cs : List Char) :
    ∃ front word, name = front ++ word ∧ stars (name ++ cs) = (front, word ++ cs) ∧
      word ≠ [] ∧ ∀ c ∈ word, Text.isWord c = true := by
  simp only [isName, Bool.and_eq_true, decide_eq_true_eq, Bool.not_eq_true',
    List.isEmpty_eq_false_iff, List.all_eq_true] at h
  obtain ⟨⟨hlength, hne⟩, hword⟩ := h
  refine ⟨_, _, List.takeWhile_append_dropWhile.symm, ?_, hne, hword⟩
  have hfront : name.takeWhile (· == '*') =
      List.replicate (name.takeWhile (· == '*')).length '*' :=
    List.eq_replicate_iff.mpr ⟨rfl, fun c hc => by simpa using List.mem_takeWhile_imp hc⟩
  obtain ⟨c, w, hcw⟩ := List.exists_cons_of_ne_nil hne
  have hc : c ≠ '*' := by
    rintro rfl
    exact absurd (hword '*' (hcw ▸ List.mem_cons_self)) (by decide)
  nth_rewrite 1 [← List.takeWhile_append_dropWhile (p := (· == '*')) (l := name)]
  rw [hcw, hfront]
  match (name.takeWhile (· == '*')).length, hlength with
  | 0, _ => exact stars_of_ne hc _
  | 1, _ => exact stars_one_of_ne hc _
  | 2, _ => rfl

theorem note?_append {note : Line} (hne : note ≠ []) (h : ')' ∉ note) (cs : List Char) :
    note? (note ++ ')' :: cs) = some (note, cs) := by
  have hnote : ∀ c ∈ note, (c != ')') = true := fun c hc =>
    bne_iff_ne.mpr fun heq => h (heq ▸ hc)
  obtain ⟨c, note, rfl⟩ := List.exists_cons_of_ne_nil hne
  simp only [note?, List.takeWhile_append_of_pos hnote, List.dropWhile_append_of_pos hnote]
  simp

theorem not_isBlank_of_mem_name {name : Line} (h : isName name = true) :
    ∀ c ∈ name, Text.isBlank c = false := by
  simp only [isName, Bool.and_eq_true, List.all_eq_true] at h
  intro c hc
  rw [← List.takeWhile_append_dropWhile (p := (· == '*')) (l := name), List.mem_append] at hc
  rcases hc with hstar | hword
  · have hc : c = '*' := by simpa using List.mem_takeWhile_imp hstar
    rw [hc]
    rfl
  · exact not_isBlank_of_isWord (h.2 c hword)

theorem isName_ne_nil {name : Line} (h : isName name = true) : name ≠ [] := by
  rintro rfl
  cases h

theorem noteAndText?_written {note text : Line} (hnote : ')' ∉ note)
    (htext : Text.stripStart text = text) :
    noteAndText? (writtenNoteAndText note text) = some (note, text) := by
  have hcolon : Text.stripStart (':' :: ' ' :: text) = ':' :: ' ' :: text := rfl
  have hblank : Text.stripStart (' ' :: text) = text := htext
  cases note with
  | nil => simp [noteAndText?, writtenNoteAndText, hcolon, hblank]
  | cons c note =>
    have hopen : Text.stripStart (writtenNoteAndText (c :: note) text) =
        '(' :: (c :: note ++ ')' :: ':' :: ' ' :: text) := by
      simp [writtenNoteAndText, Text.stripStart, Text.isBlank]
    simp only [noteAndText?, hopen, note?_append (List.cons_ne_nil c note) hnote]
    simp [hcolon, hblank]

/-- After a name comes no letter. -/
theorem writtenNoteAndText_head (note text : Line) :
    ∃ c cs, writtenNoteAndText note text = c :: cs ∧ Text.isWord c = false := by
  cases note with
  | nil => exact ⟨_, _, rfl, by decide⟩
  | cons c note => exact ⟨_, _, rfl, by decide⟩

/-- Letters and numerals are a name. -/
theorem isName_of_isWord {name : Line} (hne : name ≠ [])
    (hword : ∀ c ∈ name, Text.isWord c = true) : isName name = true := by
  obtain ⟨c, cs, rfl⟩ := List.exists_cons_of_ne_nil hne
  have hc : (c == '*') = false := by
    refine beq_eq_false_iff_ne.mpr ?_
    rintro rfl
    exact absurd (hword '*' List.mem_cons_self) (by decide)
  simpa [isName, hc] using hword

/-- A line that starts with a name is an item line if it is indented by at least four blanks and
    a text follows the name. -/
theorem Item.ofLine?_append {margin name rest : Line} (hmargin : Text.AllBlank margin)
    (hname : isName name = true) (hrest : ∀ c ∈ rest.head?, Text.isWord c = false) :
    Item.ofLine? (margin ++ (name ++ rest)) =
      if margin.length < 4 then none
      else (noteAndText? rest).map fun t => ⟨name, t.1, t.2⟩ := by
  obtain ⟨front, word, heq, hstars, hne, hword⟩ := stars_append hname rest
  have hcut : (margin ++ (name ++ rest)).takeWhile Text.isBlank = margin ∧
      (margin ++ (name ++ rest)).dropWhile Text.isBlank = name ++ rest := by
    obtain ⟨c, cs, hcons⟩ := List.exists_cons_of_ne_nil (isName_ne_nil hname)
    have hc : ¬Text.isBlank c = true := by
      simp [not_isBlank_of_mem_name hname c (hcons ▸ List.mem_cons_self)]
    rw [List.takeWhile_append_of_pos hmargin, List.dropWhile_append_of_pos hmargin,
      hcons, List.cons_append, List.takeWhile_cons_of_neg hc, List.dropWhile_cons_of_neg hc]
    exact ⟨List.append_nil _, rfl⟩
  have hend : rest.takeWhile Text.isWord = [] ∧ rest.dropWhile Text.isWord = rest := by
    cases rest with
    | nil => exact ⟨rfl, rfl⟩
    | cons c cs => simp [hrest c rfl]
  have hwords : (word ++ rest).takeWhile Text.isWord = word ∧
      (word ++ rest).dropWhile Text.isWord = rest := by
    rw [List.takeWhile_append_of_pos hword, List.dropWhile_append_of_pos hword, hend.1, hend.2,
      List.append_nil]
    exact ⟨rfl, rfl⟩
  simp only [Item.ofLine?, hcut, hstars, hwords, List.isEmpty_eq_false_iff.mpr hne, ← heq]
  cases noteAndText? rest <;> rfl

/-- An item line is read back. -/
theorem Item.ofLine?_line {i : Item} (hname : isName i.name = true) (hnote : ')' ∉ i.note)
    (htext : Text.stripStart i.text = i.text) : Item.ofLine? i.line = some i := by
  have hhead : ∀ c ∈ (writtenNoteAndText i.note i.text).head?, Text.isWord c = false := by
    obtain ⟨c, cs, hcons, hc⟩ := writtenNoteAndText_head i.note i.text
    rw [hcons]
    rintro _ ⟨⟩
    exact hc
  rw [Item.line, Item.ofLine?_append (Text.allBlank_replicate 4) hname hhead, noteAndText?_written hnote htext]
  rfl

theorem isBlankLine_append {p : Line} (hp : Text.AllBlank p) (l : Line) :
    isBlankLine (p ++ l) = isBlankLine l := by
  have hall : p.all Text.isBlank = true := List.all_eq_true.mpr hp
  simp [isBlankLine, hall]

/-- A blank line is no item. -/
theorem Item.ofLine?_of_isBlankLine (h : isBlankLine l = true) : Item.ofLine? l = none := by
  have hnil : l.dropWhile Text.isBlank = [] := List.dropWhile_eq_nil_iff.mpr (List.all_eq_true.mp h)
  simp [Item.ofLine?, hnil, stars]

/-! ## Items and the lines that continue them -/

/-- An item as it is written, with the lines that continue it. -/
def Entry.lines (e : Entry) : List Line := e.item.line :: e.more

/-- The item is read back from its line, and the lines below it continue it. -/
structure Entry.IsWritten (e : Entry) : Prop where
  item : Item.ofLine? e.item.line = some e.item
  more : ∀ l ∈ e.more, Item.ofLine? l = none ∧ isBlankLine l = false

theorem continuation_append (h : ∀ l ∈ ls, Item.ofLine? l = none ∧ isBlankLine l = false)
    (ms : List Line) : continuation (ls ++ ms) = ls ++ continuation ms := by
  have hitem : ∀ l ∈ ls, (Item.ofLine? l).isNone = true := fun l hl => by simp [h l hl]
  have hblank : ∀ l ∈ ls, (!isBlankLine l) = true := fun l hl => by simp [h l hl]
  rw [continuation, List.takeWhile_append_of_pos hitem, List.filter_append,
    List.filter_eq_self.mpr hblank, continuation]

theorem entries_append_of_none (h : ∀ l ∈ ls, Item.ofLine? l = none) (ms : List Line) :
    entries (ls ++ ms) = entries ms := by
  induction ls with
  | nil => rfl
  | cons l ls ih =>
    obtain ⟨hl, hls⟩ := List.forall_mem_cons.mp h
    rw [List.cons_append, entries, hl]
    exact ih hls

/-- Items are read back from the lines that they are written on. -/
theorem entries_flatMap_lines {es : List Entry} (h : ∀ e ∈ es, e.IsWritten) :
    entries (es.flatMap Entry.lines) = es := by
  induction es with
  | nil => rfl
  | cons e es ih =>
    obtain ⟨he, hes⟩ := List.forall_mem_cons.mp h
    have hrest : continuation (es.flatMap Entry.lines) = [] := by
      cases es with
      | nil => rfl
      | cons e' es =>
        simp [continuation, Entry.lines, (hes e' List.mem_cons_self).item]
    have hmore : ∀ l ∈ e.more, Item.ofLine? l = none := fun l hl => (he.more l hl).1
    rw [List.flatMap_cons, Entry.lines, List.cons_append, entries, he.item]
    simp only [continuation_append he.more, hrest, List.append_nil, entries_append_of_none hmore,
      ih hes]

/-! ## Blank lines at the end -/

theorem continuation_append_blank (h : ∀ l ∈ bs, isBlankLine l = true) (ls : List Line) :
    continuation (ls ++ bs) = continuation ls := by
  have hitem : ∀ l ∈ bs, (Item.ofLine? l).isNone = true := fun l hl => by
    rw [Item.ofLine?_of_isBlankLine (h l hl)]; rfl
  have hnone : bs.filter (!isBlankLine ·) = [] := by simpa [List.filter_eq_nil_iff] using h
  simp only [continuation, List.takeWhile_append, List.takeWhile_eq_self_iff.mpr hitem]
  split
  · rename_i hall
    rw [List.filter_append, hnone, List.append_nil, (List.takeWhile_prefix _).eq_of_length hall]
  · rfl

theorem entries_append_blank (h : ∀ l ∈ bs, isBlankLine l = true) (ls : List Line) :
    entries (ls ++ bs) = entries ls := by
  induction ls with
  | nil =>
    have hnone : ∀ l ∈ bs, Item.ofLine? l = none := fun l hl => Item.ofLine?_of_isBlankLine (h l hl)
    simpa using entries_append_of_none hnone []
  | cons l ls ih =>
    rw [List.cons_append, entries, entries, ih]
    simp only [continuation_append_blank h]

theorem argsOf_append_blank (h : ∀ l ∈ bs, isBlankLine l = true) (ls : List Line) :
    argsOf (ls ++ bs) = argsOf ls := by
  rw [argsOf, argsOf, entries_append_blank h]

theorem exceptionName?_of_isBlankLine (h : isBlankLine l = true) : exceptionName? l = none := by
  have hstrip : Text.strip l = [] := Text.strip_append_allBlank (List.all_eq_true.mp h) []
  simp [exceptionName?, hstrip]

theorem raisesOf_append_blank (h : ∀ l ∈ bs, isBlankLine l = true) (ls : List Line) :
    raisesOf (ls ++ bs) = raisesOf ls := by
  induction ls with
  | nil =>
    induction bs with
    | nil => rfl
    | cons b bs ih =>
      obtain ⟨hb, hbs⟩ := List.forall_mem_cons.mp h
      simp only [List.nil_append, raisesOf, Item.ofLine?_of_isBlankLine hb,
        exceptionName?_of_isBlankLine hb]
      exact ih hbs
  | cons l ls ih =>
    have hentries := entries_append_blank h (l :: ls)
    rw [List.cons_append] at hentries
    rw [List.cons_append, raisesOf, raisesOf, ih, hentries]
    simp only [continuation_append_blank h, entries_append_blank h]

/-! ## The note of an argument -/

/-- The type of an argument with the word for required, if the argument is. -/
def marked (type : Line) (required : Bool) : Line :=
  if required then if type.isEmpty then requiredWord else type ++ ',' :: ' ' :: requiredWord
  else type

/-- The note of an argument. -/
def argNote (type : Line) (required : Bool) (default : Option Line) : Line :=
  marked type required ++ (default.map ('=' :: ·)).getD []

/-- The type does not hold the word for required, in whatever letter case. -/
def Unrequired (type : Line) : Prop :=
  ∀ s ∈ type.tails, Text.dropWord? requiredWord s = none

instance (type : Line) : Decidable (Unrequired type) :=
  List.decidableBAll (fun s => Text.dropWord? requiredWord s = none) type.tails

variable {type : Line}

theorem mem_marked {c : Char} {required : Bool} (h : c ∈ marked type required) :
    c ∈ type ∨ c ∈ ',' :: ' ' :: requiredWord := by
  unfold marked at h
  split at h
  · split at h
    · exact .inr (List.mem_cons_of_mem _ (List.mem_cons_of_mem _ h))
    · exact List.mem_append.mp h
  · exact .inl h

theorem mem_argNote {c : Char} {required : Bool} {default : Option Line}
    (h : c ∈ argNote type required default) :
    c ∈ type ∨ c ∈ ',' :: ' ' :: requiredWord ∨ c = '=' ∨ ∃ d ∈ default, c ∈ d := by
  rcases List.mem_append.mp h with hmarked | hdefault
  · rcases mem_marked hmarked with htype | hword
    · exact .inl htype
    · exact .inr (.inl hword)
  · cases default with
    | none => cases hdefault
    | some d =>
      rcases List.mem_cons.mp hdefault with rfl | hd
      · exact .inr (.inr (.inl rfl))
      · exact .inr (.inr (.inr ⟨d, rfl, hd⟩))

theorem strip_marked (h : Text.strip type = type) (required : Bool) :
    Text.strip (marked type required) = marked type required := by
  have hword : Text.strip requiredWord = requiredWord := by decide
  unfold marked
  split
  · split
    · exact hword
    · rename_i hne
      have hne : type ≠ [] := by simpa using hne
      simpa using Text.strip_append_append h hword hne (by decide) [',', ' ']
  · exact h

/-- The type and the default are told apart at the first equals sign. -/
theorem typeAndDefault_argNote (hstrip : Text.strip type = type) (heq : '=' ∉ type)
    (required : Bool) {default : Option Line} (hdefault : ∀ d ∈ default, Text.strip d = d) :
    typeAndDefault (argNote type required default) = (marked type required, default) := by
  have hmarked : ∀ c ∈ marked type required, (c != '=') = true := by
    intro c hc
    rw [bne_iff_ne]
    rintro rfl
    rcases mem_marked hc with hc | hc
    · exact heq hc
    · exact absurd hc (by decide)
  have htake (cs : List Char) : (marked type required ++ cs).takeWhile (· != '=') =
      marked type required ++ cs.takeWhile (· != '=') := List.takeWhile_append_of_pos hmarked
  have hdrop (cs : List Char) : (marked type required ++ cs).dropWhile (· != '=') =
      cs.dropWhile (· != '=') := List.dropWhile_append_of_pos hmarked
  cases default with
  | none =>
    have hnil := hdrop []
    rw [List.append_nil] at hnil
    simp [typeAndDefault, argNote, hnil]
  | some d => simp [typeAndDefault, argNote, htake, hdrop, strip_marked hstrip, hdefault d rfl]

theorem requiredWord_isSimple : ∀ a ∈ requiredWord, Text.IsSimple a :=
  Text.forall_mem_of_all (by decide)

theorem comma_not_in_requiredWord : ∀ a ∈ requiredWord, Text.sameLetter a ',' = false :=
  Text.forall_mem_of_all (by decide)

theorem saysRequired_eq_false (h : Unrequired type) : saysRequired type = false := by
  rw [← Bool.not_eq_true, saysRequired, Text.lower_eq]
  intro hcontains
  obtain ⟨s, hs, hdrop⟩ := Text.exists_suffix_of_contains (by decide) requiredWord_isSimple
    (by decide) hcontains
  rw [h s ((List.mem_tails s type).mpr hs)] at hdrop
  cases hdrop

theorem lowered_requiredWord (before : List Char) :
    Text.lowered before requiredWord = requiredWord := rfl

/-- The word for required is found exactly if it was put there. -/
theorem saysRequired_marked (h : Unrequired type) (required : Bool) :
    saysRequired (marked type required) = required := by
  cases required with
  | false => exact saysRequired_eq_false h
  | true =>
    have hend : ∃ x, marked type true = x ++ requiredWord := by
      by_cases hne : type = []
      · exact ⟨[], by simp [marked, hne]⟩
      · exact ⟨type ++ [',', ' '], by simp [marked, hne]⟩
    obtain ⟨x, hx⟩ := hend
    obtain ⟨y, hy⟩ := Text.lowered_append [] x requiredWord
    rw [hx, saysRequired, Text.lower_eq, hy, lowered_requiredWord]
    exact Text.contains_append_self _ _

/-- The word for required is not found before the comma in front of it. -/
theorem dropRequired?_append {s : List Char}
    (h : ∀ u, u <:+ s → Text.dropWord? requiredWord u = none) (hne : s ≠ []) :
    dropRequired? (s ++ ',' :: ' ' :: requiredWord) = none := by
  have hdrop (u : List Char) (hu : u <:+ s) :
      Text.dropWord? requiredWord (Text.stripStart (u ++ ',' :: ' ' :: requiredWord)) = none := by
    rw [Text.stripStart_append_cons (by decide)]
    refine Text.dropWord?_append_eq_none (h _ ?_) comma_not_in_requiredWord _
    exact (List.dropWhile_suffix _).trans hu
  obtain ⟨c, s, rfl⟩ := List.exists_cons_of_ne_nil hne
  by_cases hc : c = ','
  · subst hc
    exact hdrop s (List.suffix_cons ',' s)
  · have hwhole : dropRequired? (c :: s ++ ',' :: ' ' :: requiredWord) =
        Text.dropWord? requiredWord
          (Text.stripStart (c :: s ++ ',' :: ' ' :: requiredWord)) := by
      simp [dropRequired?, hc]
    rw [hwhole]
    exact hdrop (c :: s) (List.suffix_refl _)

theorem withoutRequired_append {s : List Char} (n : Nat)
    (h : ∀ u, u <:+ s → Text.dropWord? requiredWord u = none) :
    withoutRequired (s.length + n) (s ++ ',' :: ' ' :: requiredWord) =
      s ++ withoutRequired n (',' :: ' ' :: requiredWord) := by
  induction s with
  | nil => rw [List.length_nil, Nat.zero_add, List.nil_append, List.nil_append]
  | cons c s ih =>
    have hnone := dropRequired?_append h (List.cons_ne_nil c s)
    have htail : ∀ u, u <:+ s → Text.dropWord? requiredWord u = none := fun u hu =>
      h u (hu.trans (List.suffix_cons c s))
    rw [List.cons_append] at hnone
    rw [List.length_cons, Nat.add_right_comm, List.cons_append, withoutRequired, hnone]
    exact congrArg (c :: ·) (ih htail)

/-- Only the word for required goes. -/
theorem withoutRequired_marked (h : Unrequired type) :
    withoutRequired ((marked type true).length + 1) (marked type true) = type := by
  have hsuffix : ∀ u, u <:+ type → Text.dropWord? requiredWord u = none := fun u hu =>
    h u ((List.mem_tails u type).mpr hu)
  by_cases hne : type = []
  · subst hne
    rfl
  · have hmarked : marked type true = type ++ ',' :: ' ' :: requiredWord := by simp [marked, hne]
    rw [hmarked, List.length_append, Nat.add_assoc, withoutRequired_append _ hsuffix]
    exact List.append_nil type

end Docsmith.Docstring
