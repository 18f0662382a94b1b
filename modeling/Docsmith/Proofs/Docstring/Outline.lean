-- SUMMARY: The parts of a documentation text, how they are written and how they are read back.
import Docsmith.Proofs.Docstring.Directive

/-!
# Outlines of documentation texts

An outline holds the parts of a documentation text: a summary, a description,
arguments, a returned value and exceptions. `Outline.text` lays them out, and
`Outline.record` is the record that they make. The lines that each section is
written with are read as the parts they were written from; that the whole text is
read back is `parse_text`.
-/

namespace Docsmith.Docstring

/-! ## Parts -/

/-- The characters may stand inside a line: none is a tabulator or a line break. -/
def IsFlat (cs : List Char) : Prop := ∀ c ∈ cs, c ≠ '\t' ∧ Text.isBreak c = false

instance (cs : List Char) : Decidable (IsFlat cs) :=
  List.decidableBAll (fun c => c ≠ '\t' ∧ Text.isBreak c = false) cs

/-- A piece of a line, with no white space at its ends. -/
structure Piece where
  chars : Line
  stripped : Text.strip chars = chars
  flat : IsFlat chars

/-- An argument. Its type is empty if it has none; its description has at least one line. -/
structure ArgPart where
  name : Line
  type : Piece
  required : Bool
  default : Option Piece
  first : Piece
  more : List Piece
  isName : isName name = true
  type_closed : ')' ∉ type.chars
  type_noDefault : '=' ∉ type.chars
  type_unrequired : Unrequired type.chars
  default_closed : ∀ d ∈ default, ')' ∉ d.chars
  first_ne : first.chars ≠ []
  more_ne : ∀ p ∈ more, p.chars ≠ []
  more_noItem : ∀ p ∈ more, Item.ofLine? (List.replicate 8 ' ' ++ p.chars) = none

/-- A returned value, with its type or without. -/
inductive ReturnPart where
  | typed (type description : Piece) (ne : type.chars ≠ []) (noColon : ':' ∉ type.chars)
  | untyped (description : Piece) (ne : description.chars ≠ []) (noColon : ':' ∉ description.chars)

/-- An exception. -/
structure RaisePart where
  name : Line
  description : Piece
  name_ne : name ≠ []
  name_word : ∀ c ∈ name, Text.isWord c = true

/-- The parts of a documentation text. The description is a text of any number of lines. -/
structure Outline where
  summary : Piece
  description : List Line
  args : List ArgPart
  returns : Option ReturnPart
  raises : List RaisePart
  description_ne : description ≠ [[]]
  description_stripped : Text.strip (Text.unlines description) = Text.unlines description
  description_flat : ∀ l ∈ description, IsFlat l

/-! ## Writing -/

/-- The argument as an item: its further lines are indented by eight blanks. -/
def ArgPart.entry (a : ArgPart) : Entry where
  item := ⟨a.name, argNote a.type.chars a.required (a.default.map Piece.chars), a.first.chars⟩
  more := a.more.map fun p => List.replicate 8 ' ' ++ p.chars

/-- The line of a returned value without its indentation. -/
def ReturnPart.content : ReturnPart → Line
  | .typed type description _ _ => type.chars ++ ':' :: ' ' :: description.chars
  | .untyped description _ _ => description.chars

/-- The exception as an item. -/
def RaisePart.entry (r : RaisePart) : Entry where
  item := ⟨r.name, [], r.description.chars⟩
  more := []

/-- What the layout of a text leaves open: whether the heading of a section is written when
    the section is empty, and how many line feeds end the text. -/
structure Layout where
  bare : Bool
  tail : Nat

namespace Outline

variable (o : Outline) (layout : Layout)

def argLines : List Line := o.args.flatMap fun a => a.entry.lines

def returnLines : List Line := o.returns.toList.map fun r => List.replicate 4 ' ' ++ r.content

def raiseLines : List Line := o.raises.flatMap fun r => r.entry.lines

/-- The sections of the text. -/
def sections : List Section :=
  [⟨"Args".toList, o.argLines⟩, ⟨"Returns".toList, o.returnLines⟩,
    ⟨"Raises".toList, o.raiseLines⟩].filter fun s => layout.bare || !s.lines.isEmpty

/-- The description, if there is one, and the sections. -/
def parts : List (List Line) :=
  (if o.description.isEmpty then [] else [o.description]) ++
    (o.sections layout).map Section.written

/-- The summary, an empty line, and the parts with an empty line between any two. -/
def lines : List Line := [o.summary.chars, []] ++ [[]].intercalate (o.parts layout)

/-- The text that is written from the outline. -/
def text : String :=
  String.ofList (Text.unlines (o.lines layout) ++ List.replicate layout.tail '\n')

/-- The lines of the text that are not empty and no headings. -/
def plainLines : List Line :=
  o.summary.chars :: (o.description ++ o.argLines ++ o.returnLines ++ o.raiseLines)

end Outline

/-! ## What is read -/

/-- The argument of the record: the lines of its description are joined by blanks. -/
def ArgPart.arg (a : ArgPart) : Arg where
  name := String.ofList a.name
  type := textValue a.type.chars
  description := textValue (Text.joinWith [' '] (a.first.chars :: a.more.map Piece.chars))
  default := (a.default.map fun d => textValue d.chars).getD .none
  required := if a.required then .bool true else .none

/-- The returned value of the record. -/
def ReturnPart.value : ReturnPart → Return
  | .typed type description _ _ => ⟨textValue type.chars, textValue description.chars⟩
  | .untyped description _ _ => ⟨.str "", textValue description.chars⟩

/-- The exception of the record. -/
def RaisePart.value (r : RaisePart) : Raise :=
  ⟨String.ofList r.name, String.ofList r.description.chars⟩

/-- A line without its white space if it holds nothing else. -/
def emptied (l : Line) : Line := if isBlankLine l then [] else l

/-- The record of the outline: its parts, and nothing in all other fields. Lines of the
    description that hold white space only are empty. -/
def Outline.record (o : Outline) (hint : Option Kind) : Docstring where
  summary := String.ofList o.summary.chars
  description := String.ofList (Text.unlines (o.description.map emptied))
  kind := hint.getD .function
  args := o.args.map ArgPart.arg
  returns := o.returns.map ReturnPart.value
  raises := o.raises.map RaisePart.value

/-! ## Reading the sections -/

theorem isBlankLine_replicate_append {p : Line} (n : Nat) :
    isBlankLine (List.replicate n ' ' ++ p) = isBlankLine p :=
  isBlankLine_append (Text.allBlank_replicate n) p

theorem strip_replicate_append (n : Nat) (p : Line) :
    Text.strip (List.replicate n ' ' ++ p) = Text.strip p :=
  Text.strip_allBlank_append (Text.allBlank_replicate n) p

theorem isBlankLine_of_head {l : Line} (hne : l ≠ [])
    (hhead : ∀ c ∈ l.head?, Text.isBlank c = false) : isBlankLine l = false := by
  obtain ⟨c, cs, rfl⟩ := List.exists_cons_of_ne_nil hne
  simp [isBlankLine, hhead c rfl]

/-- A piece that is not empty is no white space. -/
theorem Piece.isBlankLine_eq_false (p : Piece) (h : p.chars ≠ []) :
    isBlankLine p.chars = false :=
  isBlankLine_of_head h (Text.not_isBlank_head p.stripped)

/-- The lines of a description are joined by blanks. -/
theorem Entry.description_of_lines {e : Entry} {more : List Line}
    (hmore : e.more = more.map (List.replicate 8 ' ' ++ ·))
    (h : ∀ l ∈ e.item.text :: more, l ≠ [] ∧ Text.strip l = l) :
    e.description = Text.joinWith [' '] (e.item.text :: more) := by
  obtain ⟨⟨hne, -⟩, hlines⟩ := List.forall_mem_cons.mp h
  have hstrip : e.more.map Text.strip = more := by
    rw [hmore, List.map_map]
    refine (List.map_congr_left fun l hl => ?_).trans (List.map_id _)
    exact (strip_replicate_append 8 l).trans (hlines l hl).2
  rw [Entry.description, hstrip]
  simpa [hne] using Text.strip_joinWith [' '] h

namespace ArgPart

variable (a : ArgPart)

theorem note_closed : ')' ∉ a.entry.item.note := by
  intro h
  rcases mem_argNote h with htype | hword | heq | ⟨d, hd, hmem⟩
  · exact a.type_closed htype
  · exact absurd hword (by decide)
  · exact absurd heq (by decide)
  · obtain ⟨p, hp, rfl⟩ := Option.map_eq_some_iff.mp hd
    exact a.default_closed p hp hmem

theorem entry_isWritten : a.entry.IsWritten := by
  refine ⟨Item.ofLine?_line a.isName a.note_closed (Text.stripStart_eq_self a.first.stripped), ?_⟩
  · intro l hl
    obtain ⟨p, hp, rfl⟩ := List.mem_map.mp hl
    refine ⟨a.more_noItem p hp, ?_⟩
    rw [isBlankLine_replicate_append]
    exact p.isBlankLine_eq_false (a.more_ne p hp)

theorem entry_description :
    a.entry.description = Text.joinWith [' '] (a.first.chars :: a.more.map Piece.chars) := by
  have hmore : a.entry.more = (a.more.map Piece.chars).map (List.replicate 8 ' ' ++ ·) := by
    rw [List.map_map]
    rfl
  refine Entry.description_of_lines hmore (List.forall_mem_cons.mpr ?_)
  refine ⟨⟨a.first_ne, a.first.stripped⟩, ?_⟩
  exact List.forall_mem_map.mpr fun p hp => ⟨a.more_ne p hp, p.stripped⟩

/-- The argument is read as it was written. -/
theorem entry_arg : a.entry.arg = a.arg := by
  have hdefault : ∀ d ∈ a.default.map Piece.chars, Text.strip d = d := by
    intro d hd
    obtain ⟨p, -, rfl⟩ := Option.map_eq_some_iff.mp hd
    exact p.stripped
  have hnote := typeAndDefault_argNote a.type.stripped a.type_noDefault a.required hdefault
  have hsays := saysRequired_marked a.type_unrequired a.required
  have htype : (if a.required then withoutRequired ((marked a.type.chars a.required).length + 1)
      (marked a.type.chars a.required) else marked a.type.chars a.required) = a.type.chars := by
    cases a.required with
    | false => rfl
    | true => exact withoutRequired_marked a.type_unrequired
  have hitem : a.entry.item.note =
      argNote a.type.chars a.required (a.default.map Piece.chars) := rfl
  simp only [Entry.arg, hitem, hnote, hsays, htype, a.type.stripped, entry_description, arg,
    Option.map_map]
  rfl

end ArgPart

theorem argsOf_argLines (o : Outline) : argsOf o.argLines = o.args.map ArgPart.arg := by
  have hentries : entries o.argLines = o.args.map ArgPart.entry := by
    have hwritten : ∀ e ∈ o.args.map ArgPart.entry, e.IsWritten :=
      List.forall_mem_map.mpr fun a _ => a.entry_isWritten
    rw [← entries_flatMap_lines hwritten, List.flatMap_map]
    rfl
  rw [argsOf, hentries, List.map_map]
  exact List.map_congr_left fun a _ => a.entry_arg

theorem RaisePart.isName (r : RaisePart) : isName r.name = true :=
  isName_of_isWord r.name_ne r.name_word

theorem RaisePart.entry_isWritten (r : RaisePart) : r.entry.IsWritten :=
  ⟨Item.ofLine?_line r.isName List.not_mem_nil (Text.stripStart_eq_self r.description.stripped),
    List.forall_mem_nil _⟩

/-- The exception is read as it was written. -/
theorem RaisePart.entry_raise (r : RaisePart) : r.entry.raise = r.value := by
  have hdescription : r.entry.description = r.description.chars := by
    rw [Entry.description]
    by_cases hne : r.description.chars = []
    · simp [entry, hne, Text.joinWith, Text.strip, Text.stripWhile, Text.dropEndWhile]
    · simpa [entry, hne, Text.joinWith] using r.description.stripped
  rw [Entry.raise, hdescription]
  rfl

theorem raisesOf_raiseLines (o : Outline) :
    raisesOf o.raiseLines = o.raises.map RaisePart.value := by
  have hentries : entries o.raiseLines = o.raises.map RaisePart.entry := by
    have hwritten : ∀ e ∈ o.raises.map RaisePart.entry, e.IsWritten :=
      List.forall_mem_map.mpr fun r _ => r.entry_isWritten
    rw [← entries_flatMap_lines hwritten, List.flatMap_map]
    rfl
  have hread : raisesOf o.raiseLines = (entries o.raiseLines).map Entry.raise := by
    unfold Outline.raiseLines
    cases o.raises with
    | nil => rfl
    | cons r rs =>
      rw [List.flatMap_cons, Entry.lines, List.cons_append, raisesOf, r.entry_isWritten.item]
  rw [hread, hentries, List.map_map]
  exact List.map_congr_left fun r _ => r.entry_raise

/-- A return section with one line. -/
theorem returnOf_of_contentOf {ls : List Line} {c : Line} (h : contentOf ls = c) (hne : c ≠ [])
    (hstrip : Text.strip c = c) (hflat : '\n' ∉ c) :
    returnOf ls = some (match typedReturn? c with
      | some (type, text) => ⟨textValue type, textValue text⟩
      | none => ⟨.str "", textValue c⟩) := by
  have hlines : strippedLines ls = [c] := by
    rw [strippedLines, h, Text.splitAtChar_of_not_mem hflat]
  have hblank : isBlankLine c = false := by
    obtain ⟨a, cs, rfl⟩ := List.exists_cons_of_ne_nil hne
    simp [isBlankLine, Text.not_isBlank_head hstrip a rfl]
  have hempty : c.isEmpty = false := List.isEmpty_eq_false_iff.mpr hne
  have hone : oneLine [c] = c := by simp [oneLine, hblank, hstrip, Text.joinWith]
  simp only [returnOf, h, hempty, hlines, hstrip, hone]
  cases typedReturn? c with
  | none => rfl
  | some t => rfl

theorem newline_not_mem {cs : List Char} (h : IsFlat cs) : '\n' ∉ cs := fun hmem =>
  absurd (h '\n' hmem).2 (by decide)

theorem typedReturn?_append {type : Line} (hne : type ≠ []) (hcolon : ':' ∉ type)
    (hstrip : Text.strip type = type) (rest : Line) :
    typedReturn? (type ++ ':' :: rest) = some (type, Text.strip rest) := by
  have htype : ∀ c ∈ type, (c != ':') = true := fun c hc =>
    bne_iff_ne.mpr fun heq => hcolon (heq ▸ hc)
  obtain ⟨c, cs, rfl⟩ := List.exists_cons_of_ne_nil hne
  simp only [typedReturn?, List.takeWhile_append_of_pos htype, List.dropWhile_append_of_pos htype]
  simp [hstrip]

theorem typedReturn?_eq_none {c : Line} (h : ':' ∉ c) : typedReturn? c = none := by
  have hdrop : c.dropWhile (· != ':') = [] :=
    List.dropWhile_eq_nil_iff.mpr fun a ha => bne_iff_ne.mpr fun heq => h (heq ▸ ha)
  simp [typedReturn?, hdrop]

theorem contentOf_content (r : ReturnPart) :
    contentOf [List.replicate 4 ' ' ++ r.content] = Text.strip r.content := by
  rw [contentOf, Text.unlines_singleton, strip_replicate_append]

/-- The line of a value with a type, stripped: if there is no description then the blank after
    the colon is gone. -/
theorem strip_typed (type description : Piece) (ne : type.chars ≠ []) :
    ∃ rest, Text.strip (type.chars ++ ':' :: ' ' :: description.chars) =
        type.chars ++ ':' :: rest ∧
      Text.strip (type.chars ++ ':' :: rest) = type.chars ++ ':' :: rest ∧
      Text.strip rest = description.chars ∧ '\n' ∉ rest := by
  have hcolon : Text.strip (type.chars ++ [':']) = type.chars ++ [':'] := by
    simpa using Text.strip_append_append type.stripped (b := [':']) rfl ne (by decide) []
  by_cases hne : description.chars = []
  · refine ⟨[], ?_, hcolon, by rw [hne]; rfl, List.not_mem_nil⟩
    calc Text.strip (type.chars ++ ':' :: ' ' :: description.chars)
        = Text.strip (type.chars ++ [':'] ++ [' ']) := by simp [hne]
      _ = Text.strip (type.chars ++ [':']) :=
          Text.strip_append_allBlank (List.forall_mem_singleton.mpr rfl) _
      _ = type.chars ++ [':'] := hcolon
  · have hstrip : Text.strip (type.chars ++ ':' :: ' ' :: description.chars) =
        type.chars ++ ':' :: ' ' :: description.chars := by
      simpa using Text.strip_append_append type.stripped description.stripped ne hne [':', ' ']
    refine ⟨' ' :: description.chars, hstrip, hstrip, ?_, ?_⟩
    · exact (strip_replicate_append 1 _).trans description.stripped
    · exact List.not_mem_cons_of_ne_of_not_mem (by decide) (newline_not_mem description.flat)

/-- The returned value is read as it was written. -/
theorem returnOf_content (r : ReturnPart) :
    returnOf [List.replicate 4 ' ' ++ r.content] = some r.value := by
  have hcontent := contentOf_content r
  cases r with
  | typed type description ne noColon =>
    obtain ⟨rest, hstrip, hself, hrest, hflat⟩ := strip_typed type description ne
    rw [ReturnPart.content, hstrip] at hcontent
    have hnewline : '\n' ∉ type.chars ++ ':' :: rest := by
      simp [newline_not_mem type.flat, hflat]
    rw [ReturnPart.content, returnOf_of_contentOf hcontent (by simp) hself hnewline,
      typedReturn?_append ne noColon type.stripped, hrest]
    rfl
  | untyped description ne noColon =>
    rw [ReturnPart.content, description.stripped] at hcontent
    rw [ReturnPart.content, returnOf_of_contentOf hcontent ne description.stripped
      (newline_not_mem description.flat), typedReturn?_eq_none noColon]
    rfl

theorem returnOf_returnLines (o : Outline) :
    returnOf o.returnLines = o.returns.map ReturnPart.value := by
  unfold Outline.returnLines
  cases o.returns with
  | none => rfl
  | some r => exact returnOf_content r

theorem addSection_args_nil {d : Docstring} (h : d.args = []) :
    addSection d ⟨"Args".toList, []⟩ = d := by
  cases d; cases h; rfl

theorem addSection_returns_nil {d : Docstring} (h : d.returns = none) :
    addSection d ⟨"Returns".toList, []⟩ = d := by
  cases d; cases h; rfl

theorem addSection_raises_nil {d : Docstring} (h : d.raises = []) :
    addSection d ⟨"Raises".toList, []⟩ = d := by
  cases d; cases h; rfl

/-- Leaving out a section that adds nothing makes no difference. -/
theorem foldl_addSection_filter (p : Section → Bool) {s : Section} {d : Docstring}
    (h : p s = false → addSection d s = d) (ss : List Section) :
    ((s :: ss).filter p).foldl addSection d = (ss.filter p).foldl addSection (addSection d s) := by
  cases hp : p s with
  | true => rw [List.filter_cons_of_pos hp, List.foldl_cons]
  | false => rw [List.filter_cons_of_neg (by simp [hp]), h hp]

/-- The sections are read into a record that has nothing in their fields. -/
theorem foldl_sections (o : Outline) (layout : Layout) {d : Docstring} (hargs : d.args = [])
    (hreturns : d.returns = none) (hraises : d.raises = []) :
    (o.sections layout).foldl addSection d =
      { d with
        args := o.args.map ArgPart.arg
        returns := o.returns.map ReturnPart.value
        raises := o.raises.map RaisePart.value } := by
  have hempty {ls : List Line} (h : (layout.bare || !ls.isEmpty) = false) : ls = [] := by
    simp only [Bool.or_eq_false_iff, Bool.not_eq_false', List.isEmpty_iff] at h
    exact h.2
  rw [Outline.sections, foldl_addSection_filter, foldl_addSection_filter, foldl_addSection_filter,
    addSection_args, addSection_returns, addSection_raises, argsOf_argLines, returnOf_returnLines,
    raisesOf_raiseLines]
  · rfl
  · intro h
    have hlines : o.raiseLines = [] := hempty h
    rw [hlines]
    exact addSection_raises_nil hraises
  · intro h
    have hlines : o.returnLines = [] := hempty h
    rw [hlines]
    exact addSection_returns_nil hreturns
  · intro h
    have hlines : o.argLines = [] := hempty h
    rw [hlines]
    exact addSection_args_nil hargs

end Docsmith.Docstring
