-- SUMMARY: Which lines below an item go on with its description.
import Docsmith.Proofs.Docstring.Outline

/-!
# Wrapped descriptions

The description of an item goes on with the lines below it, up to the next item line. What is an
item line is decided by the line alone, however deep it stands. Arguments whose descriptions hang
deeper than their names are therefore read as they are laid out exactly if no deeper line looks
like an item, and no text that goes on below ends with white space: `argsOf_eq_hanging_iff`.

A line that is no item line names an exception too, if it is the first to name one: its name has
dots or it is indented by less than four blanks. The text of such a line is dropped and only the
lines below it make the description: `raisesOf_named_iff`.
-/

namespace Docsmith.Docstring

variable {l : Line} {ls : List Line}

/-! ## Lines joined to one -/

theorem strip_ne_nil_of_not_blank (h : isBlankLine l = false) : Text.strip l ≠ [] := by
  obtain ⟨c, hc, hblank⟩ := List.all_eq_false.mp h
  exact Text.strip_ne_nil hc (Bool.not_eq_true _ ▸ hblank)

theorem oneLine_eq (h : ∀ l ∈ ls, isBlankLine l = false) :
    oneLine ls = Text.joinWith [' '] (ls.map Text.strip) := by
  rw [oneLine, List.filter_eq_self.mpr fun l hl => by simp [h l hl]]

theorem oneLine_cons_of_blank (h : isBlankLine l = true) : oneLine (l :: ls) = oneLine ls := by
  simp [oneLine, h]

theorem oneLine_cons (hl : isBlankLine l = false) (hne : ls ≠ [])
    (h : ∀ l ∈ ls, isBlankLine l = false) :
    oneLine (l :: ls) = Text.strip l ++ ' ' :: oneLine ls := by
  rw [oneLine_eq (List.forall_mem_cons.mpr ⟨hl, h⟩), oneLine_eq h]
  obtain ⟨m, ls, rfl⟩ := List.exists_cons_of_ne_nil hne
  simp [Text.joinWith_cons_cons]

theorem strip_oneLine (ls : List Line) : Text.strip (oneLine ls) = oneLine ls := by
  refine Text.strip_joinWith [' '] fun l hl => ?_
  obtain ⟨m, hm, rfl⟩ := List.mem_map.mp hl
  have hblank : isBlankLine m = false := by simpa using (List.mem_filter.mp hm).2
  exact ⟨strip_ne_nil_of_not_blank hblank, Text.strip_strip m⟩

theorem oneLine_ne_nil (hne : ls ≠ []) (h : ∀ l ∈ ls, isBlankLine l = false) :
    oneLine ls ≠ [] := by
  obtain ⟨m, ls, rfl⟩ := List.exists_cons_of_ne_nil hne
  rw [oneLine_eq h]
  exact Text.joinWith_ne_nil _ (strip_ne_nil_of_not_blank (h m List.mem_cons_self)) _

/-! ## The description of an item -/

theorem mem_continuation (h : l ∈ continuation ls) : isBlankLine l = false := by
  simpa using (List.mem_filter.mp h).2

theorem not_isBlank_head_stripStart (cs : List Char) :
    ∀ c ∈ (Text.stripStart cs).head?, Text.isBlank c = false := by
  intro c hc
  have hhead := List.head?_dropWhile_not Text.isBlank cs
  rw [Text.stripStart] at hc
  rw [hc] at hhead
  simpa using hhead

theorem exists_of_noteAndText? {cs : List Char} {note text : Line}
    (h : noteAndText? cs = some (note, text)) : ∃ r, text = Text.stripStart r := by
  unfold noteAndText? at h
  split at h
  all_goals
    obtain ⟨p, -, htext⟩ := Option.bind_eq_some_iff.mp h
    dsimp only at htext
    split at htext
    · cases htext
      exact ⟨_, rfl⟩
    · cases htext

/-- The text of an item does not start with white space. -/
theorem Item.not_isBlank_head_text {i : Item} (h : Item.ofLine? l = some i) :
    ∀ c ∈ i.text.head?, Text.isBlank c = false := by
  simp only [Item.ofLine?] at h
  split at h
  · cases h
  · split at h
    · cases h
    · obtain ⟨⟨note, text⟩, hnote, heq⟩ := Option.bind_eq_some_iff.mp h
      cases heq
      obtain ⟨r, rfl⟩ := exists_of_noteAndText? hnote
      exact not_isBlank_head_stripStart r

namespace Entry

variable {e : Entry}

theorem description_of_text_nil (hmore : ∀ l ∈ e.more, isBlankLine l = false)
    (htext : e.item.text = []) : e.description = oneLine e.more := by
  simp only [description, htext, List.isEmpty_nil, if_true, List.nil_append, ← oneLine_eq hmore]
  exact strip_oneLine e.more

theorem description_of_more_nil (hnil : e.more = []) : e.description = Text.strip e.item.text := by
  cases htext : e.item.text with
  | nil => simp [description, hnil, htext, Text.joinWith]
  | cons c cs => simp [description, hnil, htext, Text.joinWith]

/-- A text that goes on below is kept as it stands, with the white space at its end. -/
theorem description_of_more (hmore : ∀ l ∈ e.more, isBlankLine l = false) (hne : e.more ≠ [])
    (htext : e.item.text ≠ []) (hhead : ∀ c ∈ e.item.text.head?, Text.isBlank c = false) :
    e.description = e.item.text ++ ' ' :: oneLine e.more := by
  have hempty : e.item.text.isEmpty = false := List.isEmpty_eq_false_iff.mpr htext
  have hjoin : Text.joinWith [' '] (e.item.text :: e.more.map Text.strip) =
      e.item.text ++ ' ' :: oneLine e.more := by
    rw [oneLine_eq hmore]
    obtain ⟨m, ms, hcons⟩ := List.exists_cons_of_ne_nil hne
    simp [hcons, Text.joinWith_cons_cons]
  simp only [description, hempty, Bool.false_eq_true, if_false, List.singleton_append, hjoin]
  apply Text.strip_eq_self
  · rw [List.head?_append, Option.or_of_isSome (by simpa using htext)]
    exact hhead
  · have hlast := Text.not_isBlank_last (strip_oneLine e.more)
    rw [List.getLast?_append, List.getLast?_cons_of_ne_nil (oneLine_ne_nil hne hmore),
      Option.or_of_isSome (by simpa using oneLine_ne_nil hne hmore)]
    exact hlast

/-- The text and the lines below are joined without their white space unless the text goes on
    below and ends with white space. -/
theorem description_eq_oneLine_iff (hmore : ∀ l ∈ e.more, isBlankLine l = false)
    (hhead : ∀ c ∈ e.item.text.head?, Text.isBlank c = false) :
    e.description = oneLine (e.item.text :: e.more) ↔
      e.more = [] ∨ Text.strip e.item.text = e.item.text := by
  by_cases htext : e.item.text = []
  · rw [description_of_text_nil hmore htext, htext, oneLine_cons_of_blank rfl]
    exact iff_of_true rfl (.inr rfl)
  · have hblank := isBlankLine_of_head htext hhead
    by_cases hne : e.more = []
    · rw [description_of_more_nil hne, hne]
      refine iff_of_true ?_ (.inl rfl)
      simp [oneLine, hblank, Text.joinWith]
    · rw [description_of_more hmore hne htext hhead, oneLine_cons hblank hne hmore,
        List.append_cancel_right_eq, eq_comm, or_iff_right hne]

/-- The description starts with the text. -/
theorem strip_text_prefix (hmore : ∀ l ∈ e.more, isBlankLine l = false)
    (hhead : ∀ c ∈ e.item.text.head?, Text.isBlank c = false) :
    Text.strip e.item.text <+: e.description := by
  by_cases htext : e.item.text = []
  · rw [htext]
    exact List.nil_prefix
  · by_cases hne : e.more = []
    · rw [description_of_more_nil hne]
    · rw [description_of_more hmore hne htext hhead]
      have hstart : Text.stripStart e.item.text = e.item.text := by
        obtain ⟨c, cs, hcons⟩ := List.exists_cons_of_ne_nil htext
        rw [hcons] at hhead ⊢
        exact List.dropWhile_cons_of_neg (by simp [hhead c rfl])
      have hend : Text.strip e.item.text = Text.stripEnd e.item.text :=
        congrArg Text.stripEnd hstart
      rw [hend]
      exact (Text.stripEnd_prefix _).trans (List.prefix_append _ _)

end Entry

/-! ## Arguments with hanging descriptions -/

/-- The lines below an item at margin `n`: those before the next line at that margin, without
    the blank ones. -/
def below (n : Nat) (ls : List Line) : List Line :=
  (ls.takeWhile fun l => indent? l != some n).filter (!isBlankLine ·)

/-- The items at margin `n`, each with the lines below it. -/
def hanging (n : Nat) : List Line → List Entry
  | [] => []
  | l :: ls =>
    match Item.ofLine? l with
    | none => hanging n ls
    | some item => if indent? l = some n then ⟨item, below n ls⟩ :: hanging n ls else hanging n ls

/-- The argument that an item and the lines below it describe, if all of them are joined by
    single blanks. -/
def Entry.laidOut (e : Entry) : Arg :=
  { e.arg with description := textValue (oneLine (e.item.text :: e.more)) }

theorem length_entries (ls : List Line) :
    (entries ls).length = (ls.filter fun l => (Item.ofLine? l).isSome).length := by
  induction ls with
  | nil => rfl
  | cons l ls ih => cases h : Item.ofLine? l <;> simp [entries, h, ih]

theorem length_hanging (n : Nat) (ls : List Line) :
    (hanging n ls).length = ((ls.filter fun l => (Item.ofLine? l).isSome).filter
      fun l => indent? l = some n).length := by
  induction ls with
  | nil => rfl
  | cons l ls ih =>
    cases h : Item.ofLine? l with
    | none => simp [hanging, h, ih]
    | some item => by_cases hn : indent? l = some n <;> simp [hanging, h, hn, ih]

theorem continuation_eq_below {n : Nat}
    (h : ∀ l ∈ ls, (Item.ofLine? l).isSome = true ↔ indent? l = some n) :
    continuation ls = below n ls := by
  have htake : ls.takeWhile (fun l => (Item.ofLine? l).isNone) =
      ls.takeWhile fun l => indent? l != some n := by
    induction ls with
    | nil => rfl
    | cons l ls ih =>
      obtain ⟨hl, hls⟩ := List.forall_mem_cons.mp h
      have htest : (Item.ofLine? l).isNone = (indent? l != some n) := by
        rw [Bool.eq_iff_iff, ← Option.not_isSome, Bool.not_eq_true', bne_iff_ne, ne_eq, ← hl,
          Bool.not_eq_true]
      rw [List.takeWhile_cons, List.takeWhile_cons, htest, ih hls]
  rw [continuation, htake, below]

/-- If the item lines are those at margin `n`, the lines below them continue them. -/
theorem entries_eq_hanging {n : Nat}
    (h : ∀ l ∈ ls, (Item.ofLine? l).isSome = true ↔ indent? l = some n) :
    entries ls = hanging n ls := by
  induction ls with
  | nil => rfl
  | cons l ls ih =>
    obtain ⟨hl, hls⟩ := List.forall_mem_cons.mp h
    rw [entries, hanging, ih hls, continuation_eq_below hls]
    cases hitem : Item.ofLine? l with
    | none => rfl
    | some item => simp [hl.mp (by rw [hitem]; rfl)]

theorem of_mem_hanging {n : Nat} {e : Entry} (h : e ∈ hanging n ls) :
    (∀ l ∈ e.more, isBlankLine l = false) ∧ ∀ c ∈ e.item.text.head?, Text.isBlank c = false := by
  induction ls with
  | nil => cases h
  | cons l ls ih =>
    rw [hanging] at h
    split at h
    · exact ih h
    · rename_i item hitem
      split at h
      · rcases List.mem_cons.mp h with rfl | h
        · refine ⟨fun m hm => ?_, Item.not_isBlank_head_text hitem⟩
          simpa using (List.mem_filter.mp hm).2
        · exact ih h
      · exact ih h

theorem Entry.arg_eq_laidOut_iff {e : Entry} :
    e.arg = e.laidOut ↔ e.description = oneLine (e.item.text :: e.more) := by
  constructor
  · intro h
    have hvalue : textValue e.description = textValue (oneLine (e.item.text :: e.more)) :=
      congrArg Arg.description h
    exact String.ofList_injective (Value.str.inj hvalue)
  · intro h
    rw [laidOut, ← h]
    rfl

/-- Arguments at margin `n`, whose descriptions may go on below, are read as they are laid out
    exactly if no other line is an item line and no text that goes on below ends with white
    space. -/
theorem argsOf_eq_hanging_iff {n : Nat}
    (h : ∀ l ∈ ls, indent? l = some n → (Item.ofLine? l).isSome = true) :
    argsOf ls = (hanging n ls).map Entry.laidOut ↔
      (∀ l ∈ ls, (Item.ofLine? l).isSome = true → indent? l = some n) ∧
        ∀ e ∈ hanging n ls, e.more = [] ∨ Text.strip e.item.text = e.item.text := by
  have hread (hitems : ∀ l ∈ ls, (Item.ofLine? l).isSome = true → indent? l = some n) :
      argsOf ls = (hanging n ls).map Entry.laidOut ↔
        ∀ e ∈ hanging n ls, e.more = [] ∨ Text.strip e.item.text = e.item.text := by
    rw [argsOf, entries_eq_hanging fun l hl => ⟨hitems l hl, h l hl⟩, List.map_inj_left]
    refine forall₂_congr fun e he => ?_
    obtain ⟨hmore, hhead⟩ := of_mem_hanging he
    rw [Entry.arg_eq_laidOut_iff, Entry.description_eq_oneLine_iff hmore hhead]
  constructor
  · intro heq
    have hitems : ∀ l ∈ ls, (Item.ofLine? l).isSome = true → indent? l = some n := by
      have hlength := congrArg List.length heq
      rw [argsOf, List.length_map, List.length_map, length_entries, length_hanging, eq_comm,
        List.length_filter_eq_length_iff] at hlength
      intro l hl hitem
      simpa using hlength l (List.mem_filter.mpr ⟨hl, hitem⟩)
    exact ⟨hitems, (hread hitems).mp heq⟩
  · rintro ⟨hitems, htexts⟩
    exact (hread hitems).mpr htexts

/-- An item with one line below it. -/
def wrappedName (line : String) : List Line :=
  ["    name (str): The name.".toList, "        ".toList ++ line.toList]

/-- A line below that starts with a word and a colon is read as a further argument. -/
theorem wrapped_default_is_argument :
    (∀ line ∈ ["Must be set.", "Default: empty."], ∀ l ∈ wrappedName line,
      indent? l = some 4 → (Item.ofLine? l).isSome = true) ∧
    argsOf (wrappedName "Must be set.") =
      (hanging 4 (wrappedName "Must be set.")).map Entry.laidOut ∧
    argsOf (wrappedName "Default: empty.") ≠
      (hanging 4 (wrappedName "Default: empty.")).map Entry.laidOut := by
  have h : ∀ line ∈ ["Must be set.", "Default: empty."], ∀ l ∈ wrappedName line,
      indent? l = some 4 → (Item.ofLine? l).isSome = true := by decide
  refine ⟨h, (argsOf_eq_hanging_iff (h _ (by decide))).mpr ⟨by decide, ?_⟩, fun heq => ?_⟩
  · decide
  · obtain ⟨hitems, -⟩ := (argsOf_eq_hanging_iff (h _ (by decide))).mp heq
    exact absurd hitems (by decide)

/-! ## Exceptions -/

/-- A dotted name: words with dots between them. -/
structure DottedName where
  words : List Line
  words_ne : words ≠ []
  isWord : ∀ w ∈ words, w ≠ [] ∧ w.all Text.isWord = true

namespace DottedName

variable (n : DottedName)

/-- The name as it is written. -/
def chars : Line := Text.joinWith ['.'] n.words

/-- A line that gives a text for the name. -/
def line (margin text : Line) : Line := margin ++ (n.chars ++ ':' :: ' ' :: text)

theorem isWord_or_dot {c : Char} (h : c ∈ n.chars) : Text.isWord c = true ∨ c = '.' := by
  obtain hdot | ⟨w, hw, hc⟩ := Text.mem_joinWith h
  · exact .inr (List.mem_singleton.mp hdot)
  · exact .inl (List.all_eq_true.mp (n.isWord w hw).2 c hc)

theorem not_isBlank : ∀ c ∈ n.chars, Text.isBlank c = false := by
  intro c hc
  rcases n.isWord_or_dot hc with hword | rfl
  · exact not_isBlank_of_isWord hword
  · rfl

theorem colon_not_mem : ':' ∉ n.chars := by
  intro hc
  rcases n.isWord_or_dot hc with hword | hdot
  · exact absurd hword (by decide)
  · exact absurd hdot (by decide)

theorem strip_chars : Text.strip n.chars = n.chars :=
  Text.strip_eq_self (fun c hc => n.not_isBlank c (List.mem_of_mem_head? hc))
    fun c hc => n.not_isBlank c (List.mem_of_mem_getLast? hc)

variable {margin : Line} (hmargin : Text.AllBlank margin) (text : Line)
include hmargin

/-- The line is an item line if the name is a single word and stands at a margin of at least four
    blanks. -/
theorem ofLine?_line : Item.ofLine? (n.line margin text) =
    if 4 ≤ margin.length ∧ n.words.length = 1 then some ⟨n.chars, [], Text.stripStart text⟩
    else none := by
  obtain ⟨w, ws, hcons⟩ := List.exists_cons_of_ne_nil n.words_ne
  obtain ⟨hne, hword⟩ := n.isWord w (hcons ▸ List.mem_cons_self)
  have hname := isName_of_isWord hne (List.all_eq_true.mp hword)
  cases ws with
  | nil =>
    have hchars : n.chars = w := by simp [chars, hcons, Text.joinWith]
    have htext : noteAndText? (':' :: ' ' :: text) = some ([], Text.stripStart text) := rfl
    rw [line, hchars, Item.ofLine?_append hmargin hname (by rintro _ ⟨⟩; decide), htext]
    simp only [hcons, List.length_singleton, and_true]
    by_cases hshort : margin.length < 4
    · rw [if_pos hshort, if_neg (Nat.not_le.mpr hshort)]
    · rw [if_neg hshort, if_pos (Nat.not_lt.mp hshort)]
      rfl
  | cons v ws =>
    have hchars : n.chars = w ++ '.' :: Text.joinWith ['.'] (v :: ws) := by
      simp [chars, hcons, Text.joinWith_cons_cons]
    have htext (cs : List Char) : noteAndText? ('.' :: cs) = none := rfl
    rw [line, hchars, List.append_assoc, List.cons_append,
      Item.ofLine?_append hmargin hname (by rintro _ ⟨⟩; decide), htext]
    simp [hcons]

theorem exceptionName?_line : exceptionName? (n.line margin text) = some n.chars := by
  have hstart : Text.stripStart (margin ++ n.chars) = n.chars := by
    rw [Text.stripStart, List.dropWhile_append_of_pos hmargin]
    exact Text.stripStart_eq_self n.strip_chars
  have hstrip : Text.strip (n.line margin text) =
      n.chars ++ ':' :: Text.stripEnd (' ' :: text) := by
    rw [line, ← List.append_assoc, Text.strip_append_cons (by decide), hstart]
  have hchars : ∀ c ∈ n.chars, (c != ':') = true := fun c hc =>
    bne_iff_ne.mpr fun heq => n.colon_not_mem (heq ▸ hc)
  simp [exceptionName?, hstrip, List.takeWhile_append_of_pos hchars, n.strip_chars]

end DottedName

theorem raisesOf_blank_append {bs : List Line} (h : ∀ l ∈ bs, isBlankLine l = true)
    (ls : List Line) : raisesOf (bs ++ ls) = raisesOf ls := by
  induction bs with
  | nil => rfl
  | cons b bs ih =>
    obtain ⟨hb, hbs⟩ := List.forall_mem_cons.mp h
    rw [List.cons_append, raisesOf, Item.ofLine?_of_isBlankLine hb,
      exceptionName?_of_isBlankLine hb]
    exact ih hbs

/-- The first line that is not blank names an exception. Its description starts with the text of
    that line exactly if the line is an item line, or if the lines below happen to start with the
    same text. -/
theorem raisesOf_named_iff (n : DottedName) {margin : Line} (hmargin : Text.AllBlank margin)
    (text : Line) {blanks : List Line} (hblanks : ∀ l ∈ blanks, isBlankLine l = true)
    (rest : List Line) :
    ∃ description more, raisesOf (blanks ++ n.line margin text :: rest) =
        ⟨String.ofList n.chars, String.ofList description⟩ :: more ∧
      (Text.strip text <+: description ↔
        (4 ≤ margin.length ∧ n.words.length = 1) ∨
          Text.strip text <+: oneLine (continuation rest)) := by
  rw [raisesOf_blank_append hblanks, raisesOf]
  have hmore : ∀ l ∈ continuation rest, isBlankLine l = false := fun l hl => mem_continuation hl
  have hitem := n.ofLine?_line hmargin text
  by_cases h : 4 ≤ margin.length ∧ n.words.length = 1
  · rw [if_pos h] at hitem
    let e : Entry := ⟨⟨n.chars, [], Text.stripStart text⟩, continuation rest⟩
    have hprefix : Text.strip (Text.stripStart text) <+: e.description :=
      Entry.strip_text_prefix (e := e) hmore (not_isBlank_head_stripStart text)
    rw [Text.strip_stripStart] at hprefix
    refine ⟨e.description, (entries rest).map Entry.raise, ?_, iff_of_true hprefix (.inl h)⟩
    rw [entries, hitem]
    rfl
  · rw [if_neg h] at hitem
    refine ⟨oneLine (continuation rest), (entries rest).map Entry.raise, ?_, ?_⟩
    · rw [hitem, n.exceptionName?_line hmargin text]
      dsimp only
      rw [← oneLine_eq hmore, strip_oneLine]
    · rw [or_iff_right h]

/-- The name of an exception of a package. -/
def timeout : DottedName where
  words := ["requests".toList, "Timeout".toList]
  words_ne := List.cons_ne_nil _ _
  isWord := by decide

/-- The text of an exception with a dotted name is lost. -/
theorem timeout_loses_text :
    ∃ description more, raisesOf ["    requests.Timeout: If it is slow.".toList] =
        ⟨"requests.Timeout", String.ofList description⟩ :: more ∧
      ¬ "If it is slow.".toList <+: description := by
  have hmargin : Text.AllBlank (List.replicate 4 ' ') := fun c hc => by
    rw [List.eq_of_mem_replicate hc]; rfl
  have hblanks : ∀ l ∈ ([] : List Line), isBlankLine l = true := List.forall_mem_nil _
  obtain ⟨description, more, heq, hiff⟩ :=
    raisesOf_named_iff timeout hmargin "If it is slow.".toList hblanks []
  refine ⟨description, more, heq, fun hprefix => ?_⟩
  rcases hiff.mp hprefix with hitem | hbelow
  · exact absurd hitem.2 (by decide)
  · exact absurd hbelow (by decide)

end Docsmith.Docstring
