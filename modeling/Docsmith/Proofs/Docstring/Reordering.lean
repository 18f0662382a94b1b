-- SUMMARY: The order of the sections of a documentation text does not matter.
import Docsmith.Proofs.Docstring.Data
import Docsmith.Proofs.Docstring.Roles

/-!
# Order of sections

Each section of a documentation text is read into a part of the record of its own and
from its own lines. So sections for different parts may stand in any order, and only
the responses, which are all read into one list, have to keep theirs.

The margin is the same in every order, since it is the least indentation of all lines
but the first. A line feed at the end of a text opens no further line, though: sections
that are joined by line feeds lose the empty line at the end of the last one, and the
examples are read with the empty lines at their end.
-/

namespace Docsmith.Docstring

/-! ## Parts of the record -/

/-- The part of the record that a section is read into. -/
inductive Target where
  | args
  | attributes
  | returns
  | raises
  | examples
  | notes
  | pathParams
  | queryParams
  | requestBody
  | headers
  | payload
  | configFields
  | description
  | custom (name : String)
deriving DecidableEq

/-- The part that a section is read into. -/
def Section.target (s : Section) : Target :=
  let name := String.ofList (Text.lower s.name)
  if ["args", "arguments"].contains name then .args
  else if name == "attributes" then .attributes
  else if ["returns", "return", "yields", "yield"].contains name then .returns
  else if ["raises", "raise", "exceptions"].contains name then .raises
  else if ["examples", "example"].contains name then .examples
  else if ["notes", "note"].contains name then .notes
  else if ["path params", "path parameters"].contains name then .pathParams
  else if ["query params", "query parameters"].contains name then .queryParams
  else if ["request body", "body"].contains name then .requestBody
  else if name == "headers" then .headers
  else if name == "payload" then .payload
  else if ["fields", "config", "configuration"].contains name then .configFields
  else if s.name.isEmpty then .description
  else .custom (String.ofList s.name)

/-- The record with a part read from some lines. -/
def Target.write (d : Docstring) (ls : List Line) : Target → Docstring
  | .args => { d with args := argsOf ls }
  | .attributes => { d with attributes := argsOf ls }
  | .returns => { d with returns := returnOf ls }
  | .raises => { d with raises := raisesOf ls }
  | .examples => { d with examples := examplesOf ls }
  | .notes => { d with notes := notesOf ls }
  | .pathParams => { d with pathParams := argsOf ls }
  | .queryParams => { d with queryParams := argsOf ls }
  | .requestBody => { d with requestBody := argsOf ls }
  | .headers => { d with headers := headersOf ls }
  | .payload => { d with payload := payloadOf ls }
  | .configFields => { d with configFields := configFieldsOf ls }
  | .description => { d with description := addDescription d.description (contentOf ls) }
  | .custom name =>
    { d with customSections := putSection d.customSections name (String.ofList (contentOf ls)) }

variable {d e : Docstring} {s : Section} {ss ts : List Section}

theorem addSection_eq_write (d : Docstring) (s : Section) :
    addSection d s = s.target.write d s.lines := by
  unfold addSection Section.target
  dsimp only
  simp only [apply_ite (Target.write d s.lines)]
  rfl

/-- The record without its custom sections. -/
def general (d : Docstring) : Docstring := { d with customSections := [] }

/-- The custom section that a section is read as. -/
def Section.custom? (s : Section) : Option (String × String) :=
  match s.target with
  | .custom name => some (name, String.ofList (contentOf s.lines))
  | _ => none

theorem general_write (a : Target) (ls : List Line) :
    general (a.write d ls) = general (a.write (general d) ls) := by
  cases a <;> rfl

theorem general_write_comm {a b : Target} (hne : a ≠ b) (ls ms : List Line) :
    general (b.write (a.write d ls) ms) = general (a.write (b.write d ms) ls) := by
  cases a <;> cases b <;> first | rfl | exact absurd rfl hne

theorem general_foldl (ss : List Section) (d : Docstring) :
    general (ss.foldl addSection d) = ss.foldl (fun d s => general (addSection d s)) (general d) := by
  induction ss generalizing d with
  | nil => rfl
  | cons s ss ih =>
    rw [List.foldl_cons, List.foldl_cons, ih]
    simp only [addSection_eq_write]
    rw [general_write]

/-- The general parts do not depend on the order of sections for different parts. -/
theorem general_foldl_perm (hperm : ss.Perm ts) (h : (ss.map Section.target).Nodup)
    (d : Docstring) : general (ss.foldl addSection d) = general (ts.foldl addSection d) := by
  rw [general_foldl, general_foldl]
  apply hperm.foldl_eq'
  intro s hs t ht d
  simp only [addSection_eq_write]
  rw [← general_write, ← general_write]
  by_cases htarget : s.target = t.target
  · rw [List.inj_on_of_nodup_map h hs ht htarget]
  · exact general_write_comm htarget s.lines t.lines

theorem putSection_of_not_mem {cs : List (String × String)} {name : String}
    (h : name ∉ cs.map (·.1)) (content : String) :
    putSection cs name content = cs ++ [(name, content)] := by
  induction cs with
  | nil => rfl
  | cons c cs ih =>
    rw [List.map_cons, List.mem_cons, not_or] at h
    rw [putSection, if_neg (by simpa using Ne.symm h.1), ih h.2]
    rfl

theorem customSections_addSection_none (h : s.custom? = none) :
    (addSection d s).customSections = d.customSections := by
  rw [addSection_eq_write]
  unfold Section.custom? at h
  cases htarget : s.target with
  | custom name =>
    rw [htarget] at h
    cases h
  | _ => rfl

theorem customSections_addSection_some {name content : String} (h : s.custom? = some (name, content)) :
    (addSection d s).customSections = putSection d.customSections name content := by
  rw [addSection_eq_write]
  unfold Section.custom? at h
  cases htarget : s.target with
  | custom name =>
    rw [htarget] at h
    cases h
    rfl
  | _ =>
    rw [htarget] at h
    cases h

/-- Custom sections of different names are listed in the order of the sections. -/
theorem customSections_foldl
    (h : ((d.customSections ++ ss.filterMap Section.custom?).map (·.1)).Nodup) :
    (ss.foldl addSection d).customSections = d.customSections ++ ss.filterMap Section.custom? := by
  induction ss generalizing d with
  | nil => simp
  | cons s ss ih =>
    rw [List.foldl_cons]
    cases hs : s.custom? with
    | none =>
      have hstep := customSections_addSection_none (d := d) hs
      rw [List.filterMap_cons_none hs, ← hstep] at h ⊢
      exact ih h
    | some c =>
      rw [List.filterMap_cons_some hs] at h ⊢
      have hfresh : c.1 ∉ d.customSections.map (·.1) := by
        intro hmem
        rw [List.map_append, List.map_cons] at h
        exact (List.disjoint_of_nodup_append h) hmem List.mem_cons_self
      have hput : (addSection d s).customSections = d.customSections ++ [c] :=
        (customSections_addSection_some hs).trans (putSection_of_not_mem hfresh c.2)
      rw [List.append_cons, ← hput] at h ⊢
      exact ih h

theorem nodup_custom (h : (ss.map Section.target).Nodup) :
    ((ss.filterMap Section.custom?).map (·.1)).Nodup := by
  rw [List.Nodup, List.pairwise_map]
  refine List.Pairwise.filterMap _ ?_ (List.pairwise_map.mp h)
  intro s t hne c hc c' hc' heq
  unfold Section.custom? at hc hc'
  split at hc
  · rename_i name hs
    split at hc'
    · rename_i name' ht
      cases hc
      cases hc'
      exact hne (hs.trans ((congrArg Target.custom heq).trans ht.symm))
    · cases hc'
  · cases hc

/-- All parts of two records are the same, the custom sections in any order. -/
theorem alike_of_general (h : general d = general e) (hperm : d.customSections.Perm e.customSections) :
    d.Alike e ∧ d.SameEndpoint e := by
  obtain ⟨_, _, _, _, _, _, _, _, _, _, _, _, _, _, _, _, _, _, _, ds⟩ := d
  obtain ⟨_, _, _, _, _, _, _, _, _, _, _, _, _, _, _, _, _, _, _, es⟩ := e
  simp only [general, Docstring.mk.injEq] at h
  obtain ⟨rfl, rfl, rfl, rfl, rfl, rfl, rfl, rfl, rfl, rfl, rfl, rfl, rfl, rfl, rfl, rfl, rfl, rfl,
    rfl, -⟩ := h
  exact ⟨⟨rfl, rfl, rfl, rfl, rfl, rfl, rfl, rfl, rfl, rfl, rfl, rfl, rfl, rfl, hperm⟩,
    ⟨rfl, rfl, rfl, rfl, rfl⟩⟩

/-- The order of sections for different parts does not matter. -/
theorem foldl_addSection_perm (hperm : ss.Perm ts) (h : (ss.map Section.target).Nodup)
    (hcustom : d.customSections = []) (responses : List Response) :
    let d' := { ss.foldl addSection d with responses := responses }
    let e' := { ts.foldl addSection d with responses := responses }
    d'.Alike e' ∧ d'.SameEndpoint e' := by
  have h' : (ts.map Section.target).Nodup := (hperm.map _).nodup_iff.mp h
  have hlisted {ss : List Section} (h : (ss.map Section.target).Nodup) :
      (ss.foldl addSection d).customSections = d.customSections ++ ss.filterMap Section.custom? :=
    customSections_foldl (by simpa [hcustom] using nodup_custom h)
  apply alike_of_general
  · exact congrArg (fun d : Docstring => { d with responses := responses })
      (general_foldl_perm hperm h d)
  · show (ss.foldl addSection d).customSections.Perm (ts.foldl addSection d).customSections
    rw [hlisted h, hlisted h']
    exact (hperm.filterMap _).append_left _

/-! ## Texts cut at their headings -/

/-- A documentation text cut at its headings: its first line, the lines before the first heading,
    and for each heading its line with those up to the next one. -/
structure Cut where
  first : Line
  head : List Line
  blocks : List (List Line)

namespace Cut

variable {known : List (List Char)} {c c' : Cut}

/-- The lines after the first. -/
def more (c : Cut) : List Line := c.head ++ c.blocks.flatten

/-- All lines. -/
def lines (c : Cut) : List Line := c.first :: c.more

/-- The indentation that all lines but the first share. -/
def margin (c : Cut) : Nat :=
  leastIndent ((c.more.map (Text.expandTabs 4)).filterMap indent?)

/-- How the first line is read. -/
def firstRead (c : Cut) : Line := Text.strip (Text.expandTabs 4 c.first)

/-- How another line is read: with its tabulators expanded and without the margin. -/
def read (c : Cut) (l : Line) : Line :=
  if isBlankLine (Text.expandTabs 4 l) then [] else (Text.expandTabs 4 l).drop c.margin

/-- The block that a heading and the lines under it are read as. -/
def blockOf? (known : List (List Char)) (c : Cut) : List Line → Option Block
  | [] => none
  | l :: ls => (heading? known (c.read l)).map fun h => ⟨h, ls.map c.read⟩

/-- Each block is a heading with lines that are none, and no other line is a heading. -/
def IsCut (known : List (List Char)) (c : Cut) : Prop :=
  (∀ l ∈ c.firstRead :: c.head.map c.read, (heading? known l).isNone = true)
    ∧ ∀ b ∈ c.blocks, (c.blockOf? known b).isSome = true
      ∧ ∀ l ∈ b.tail, (heading? known (c.read l)).isNone = true

/-- The sections among the blocks. -/
def sections (known : List (List Char)) (c : Cut) : List Section :=
  (c.blocks.filterMap (c.blockOf? known)).filterMap Block.section?

/-- The lines as they are read. -/
def linesRead (c : Cut) : List Line := c.firstRead :: c.more.map c.read

/-- The blocks that are responses. -/
def responses (known : List (List Char)) (c : Cut) : List (List Line) :=
  c.blocks.filter fun b => ((c.blockOf? known b).bind Block.response?).isSome

/-- The blocks stand in another order, the responses among them in the same. -/
structure Reorders (known : List (List Char)) (c c' : Cut) : Prop where
  first : c'.first = c.first
  head : c'.head = c.head
  blocks : c.blocks.Perm c'.blocks
  responses : c.responses known = c'.responses known

instance decidableIsCut : Decidable (c.IsCut known) := inferInstanceAs (Decidable (_ ∧ _))

instance decidableReorders : Decidable (c.Reorders known c') :=
  decidable_of_iff (c'.first = c.first ∧ c'.head = c.head ∧ c.blocks.Perm c'.blocks
    ∧ c.responses known = c'.responses known)
    ⟨fun h => ⟨h.1, h.2.1, h.2.2.1, h.2.2.2⟩, fun h => ⟨h.first, h.head, h.blocks, h.responses⟩⟩

theorem leastIndent_perm {ms ns : List Nat} (h : ms.Perm ns) : leastIndent ms = leastIndent ns := by
  induction h with
  | nil => rfl
  | cons n hperm _ => exact hperm.foldl_eq' (fun x _ y _ z => by omega) n
  | swap m n ns =>
    rw [leastIndent, leastIndent, List.foldl_cons, List.foldl_cons, Nat.min_comm]
  | trans _ _ ih ih' => exact ih.trans ih'

theorem Reorders.margin (h : c.Reorders known c') : c'.margin = c.margin := by
  have hmore : c.more.Perm c'.more := by
    rw [more, more, h.head]
    exact h.blocks.flatten.append_left _
  exact leastIndent_perm ((hmore.map _).filterMap _).symm

theorem Reorders.read (h : c.Reorders known c') : c'.read = c.read := by
  funext l
  rw [Cut.read, Cut.read, h.margin]

theorem Reorders.blockOf? (h : c.Reorders known c') : c'.blockOf? known = c.blockOf? known := by
  funext b
  cases b with
  | nil => rfl
  | cons l ls => rw [Cut.blockOf?, Cut.blockOf?, h.read]

theorem Reorders.mem_linesRead (h : c.Reorders known c') {l : Line} (hl : l ∈ c'.linesRead) :
    l ∈ c.linesRead := by
  have hlines : c.linesRead.Perm c'.linesRead := by
    rw [linesRead, linesRead, firstRead, firstRead, h.first, h.read, more, more, h.head]
    exact ((h.blocks.flatten.append_left _).map _).cons _
  exact hlines.mem_iff.mpr hl

theorem Reorders.isCut (h : c.Reorders known c') (hcut : c.IsCut known) : c'.IsCut known := by
  unfold IsCut firstRead at hcut ⊢
  rw [h.first, h.head, h.blockOf?, h.read]
  exact ⟨hcut.1, fun b hb => hcut.2 b (h.blocks.mem_iff.mpr hb)⟩

theorem Reorders.sections_perm (h : c.Reorders known c') :
    (c.sections known).Perm (c'.sections known) := by
  rw [sections, sections, h.blockOf?]
  exact (h.blocks.filterMap _).filterMap _

/-- The responses that are read. -/
theorem filterMap_response (c : Cut) :
    (c.blocks.filterMap (c.blockOf? known)).filterMap Block.response?
      = (c.responses known).filterMap fun b => (c.blockOf? known b).bind Block.response? := by
  rw [List.filterMap_filterMap, responses, List.filterMap_filter]
  apply List.filterMap_congr
  intro b _
  cases (c.blockOf? known b).bind Block.response? <;> simp

/-- The lines of the blocks are cut into the blocks again. -/
theorem splitBlocks_flatten {bs : List (List Line)}
    (h : ∀ b ∈ bs, (c.blockOf? known b).isSome = true
      ∧ ∀ l ∈ b.tail, (heading? known (c.read l)).isNone = true) :
    splitBlocks known (bs.flatten.map c.read) = ([], bs.filterMap (c.blockOf? known)) := by
  induction bs with
  | nil => rfl
  | cons b bs ih =>
    obtain ⟨⟨hsome, htail⟩, hbs⟩ := List.forall_mem_cons.mp h
    cases b with
    | nil => cases hsome
    | cons l ls =>
      obtain ⟨block, hblock⟩ := Option.isSome_iff_exists.mp hsome
      obtain ⟨hd, hhd, rfl⟩ := Option.map_eq_some_iff.mp hblock
      have hls : ∀ m ∈ ls.map c.read, heading? known m = none := by
        intro m hm
        obtain ⟨l, hl, rfl⟩ := List.mem_map.mp hm
        exact Option.isNone_iff_eq_none.mp (htail l hl)
      rw [List.flatten_cons, List.map_append, List.map_cons, List.cons_append,
        splitBlocks_cons_of_some hhd, splitBlocks_append hls, ih hbs,
        List.filterMap_cons_some hblock, List.append_nil]

end Cut

/-! ## Reading a cut text -/

variable {known : List (List Char)} {c c' : Cut}

/-- Cutting the summary off lines of which none is a heading does not hang on the blocks after
    them. -/
theorem exists_splitSummary_append {front : List Line} (h : ∀ l ∈ front, heading? known l = none) :
    ∃ summary after, (∀ l ∈ after, heading? known l = none)
      ∧ ∀ back, (splitBlocks known back).1 = [] →
        splitSummary known (front ++ back) = (summary, after ++ back) := by
  induction front with
  | nil =>
    refine ⟨[], [], List.forall_mem_nil _, fun back hback => ?_⟩
    cases back with
    | nil => rfl
    | cons l back =>
      cases hhd : heading? known l with
      | none =>
        rw [splitBlocks_cons_of_none hhd] at hback
        cases hback
      | some hd =>
        have hblank : isBlankLine l = false := by
          rw [← Bool.not_eq_true]
          intro hblank
          rw [heading?_eq_none_of_isBlankLine hblank] at hhd
          cases hhd
        simp [splitSummary, hblank, hhd]
  | cons l front ih =>
    obtain ⟨hl, hfront⟩ := List.forall_mem_cons.mp h
    cases hblank : isBlankLine l with
    | true => exact ⟨[], front, hfront, fun back _ => by simp [splitSummary, hblank]⟩
    | false =>
      obtain ⟨summary, after, hafter, hsplit⟩ := ih hfront
      refine ⟨l :: summary, after, hafter, fun back hback => ?_⟩
      simp [splitSummary, hblank, hl, hsplit back hback]

/-- What is read from lines without headings and the blocks after them. -/
theorem addSections_append {after : List Line} (h : ∀ l ∈ after, heading? known l = none)
    {back : List Line} {blocks : List Block} (hback : splitBlocks known back = ([], blocks))
    (d : Docstring) :
    addSections known d (after ++ back) =
      { (blocks.filterMap Block.section?).foldl addSection (addSection d ⟨[], after⟩) with
        responses := (blocks.filterMap Block.response?).map fun (n, ls) => responseOf n ls } := by
  rw [addSections, foldl_sectionsOf, responsesOf_eq, splitBlocks_append h, hback, List.append_nil]

/-- The lines of a text that has no line breaks but line feeds. -/
structure HasLines (text : String) (ls : List Line) : Prop where
  feeds : Text.OnlyLineFeeds text.toList
  lines : Text.lines text.toList = ls

/-- A cut text is read line by line. -/
theorem HasLines.dedentedLines {text : String} (h : HasLines text c.lines) :
    dedentedLines text.toList = c.linesRead := by
  rw [Docstring.dedentedLines, Text.lines_expandTabs (by decide) h.feeds, h.lines, Cut.lines,
    List.map_cons, dedent]
  simp only [Cut.linesRead, Cut.firstRead, List.map_map]
  rfl

theorem HasLines.isEmpty {text : String} (h : HasLines text c.lines) : text.isEmpty = false := by
  rw [← Bool.not_eq_true]
  intro hempty
  have hlines := h.lines
  rw [String.isEmpty_iff.mp hempty] at hlines
  cases hlines

/-- What is read from a cut text: the lines before the first heading give a record, and the
    sections and responses are added to it. -/
theorem exists_parse_eq (kinds : List CustomKind) (hint : Option Kind) {front : List Line}
    (hfront : ∀ l ∈ front, heading? (headingsWith kinds) l = none) :
    ∃ d : Docstring, d.customSections = [] ∧ ∀ {text : String} {c : Cut},
      c.firstRead :: c.head.map c.read = front → HasLines text c.lines →
      c.IsCut (headingsWith kinds) →
      (∀ p ∈ directiveTests kinds, ∀ l ∈ c.linesRead, p l = false) →
      parse kinds hint text =
        { (c.sections (headingsWith kinds)).foldl addSection d with
          responses := ((c.responses (headingsWith kinds)).filterMap fun b =>
            (c.blockOf? (headingsWith kinds) b).bind Block.response?).map
              fun (n, ls) => responseOf n ls } := by
  obtain ⟨summary, after, hafter, hsplit⟩ := exists_splitSummary_append hfront
  let record := (Body.record hint summary ⟨none, ⟨none, none, none⟩, []⟩)
  refine ⟨addSection record ⟨[], after⟩, rfl, ?_⟩
  intro text c hhead htext hcut hplain
  have hblocks := Cut.splitBlocks_flatten hcut.2
  have hlines : c.linesRead = front ++ c.blocks.flatten.map c.read := by
    rw [Cut.linesRead, Cut.more, List.map_append, ← hhead, List.cons_append]
  have hbody := Body.ofLines_of_plain hplain
  rw [hlines] at hbody
  rw [parse, if_neg (by simp [htext.isEmpty])]
  dsimp only
  rw [htext.dedentedLines, hlines, hbody]
  dsimp only
  rw [hsplit _ (congrArg Prod.fst hblocks)]
  exact (addSections_append hafter hblocks record).trans (by rw [Cut.filterMap_response]; rfl)

/-- A documentation text without directives is read as the same record, custom sections in any
    order, when its blocks stand in another order that keeps the responses in theirs, as long as
    the sections are for different parts of the record. -/
theorem parse_reordered (kinds : List CustomKind) (hint : Option Kind) {text text' : String}
    (htext : HasLines text c.lines) (htext' : HasLines text' c'.lines)
    (hcut : c.IsCut (headingsWith kinds))
    (hplain : ∀ p ∈ directiveTests kinds, ∀ l ∈ c.linesRead, p l = false)
    (htargets : ((c.sections (headingsWith kinds)).map Section.target).Nodup)
    (horder : c.Reorders (headingsWith kinds) c') :
    (parse kinds hint text).Alike (parse kinds hint text')
      ∧ (parse kinds hint text).SameEndpoint (parse kinds hint text') := by
  have hfront : ∀ l ∈ c.firstRead :: c.head.map c.read, heading? (headingsWith kinds) l = none :=
    fun l hl => Option.isNone_iff_eq_none.mp (hcut.1 l hl)
  have hhead : c'.firstRead :: c'.head.map c'.read = c.firstRead :: c.head.map c.read := by
    rw [Cut.firstRead, Cut.firstRead, horder.first, horder.head, horder.read]
  obtain ⟨d, hcustom, hparse⟩ := exists_parse_eq kinds hint hfront
  rw [hparse rfl htext hcut hplain, hparse hhead htext' (horder.isCut hcut)
    fun p hp l hl => hplain p hp l (horder.mem_linesRead hl), horder.responses, horder.blockOf?]
  exact foldl_addSection_perm horder.sections_perm htargets hcustom _

/-- A text with examples, which end with an empty line, and a note. -/
def exampleAndNote : Cut where
  first := "S.".toList
  head := [[]]
  blocks := [["Example:".toList, "    x".toList, []], ["Note:".toList, "    n".toList]]

/-- The same text with the note first. -/
def noteAndExample : Cut := { exampleAndNote with blocks := exampleAndNote.blocks.reverse }

theorem reorders_exampleAndNote :
    exampleAndNote.IsCut (headingsWith [])
      ∧ (∀ p ∈ directiveTests [], ∀ l ∈ exampleAndNote.linesRead, p l = false)
      ∧ ((exampleAndNote.sections (headingsWith [])).map Section.target).Nodup
      ∧ exampleAndNote.Reorders (headingsWith []) noteAndExample := by
  decide +kernel

/-- With a line feed behind every line, the order does not matter. -/
theorem parse_noteAndExample :
    HasLines "S.\n\nExample:\n    x\n\nNote:\n    n\n" exampleAndNote.lines
      ∧ HasLines "S.\n\nNote:\n    n\nExample:\n    x\n\n" noteAndExample.lines
      ∧ (parse [] none "S.\n\nExample:\n    x\n\nNote:\n    n\n").Alike
          (parse [] none "S.\n\nNote:\n    n\nExample:\n    x\n\n") := by
  obtain ⟨hcut, hplain, htargets, horder⟩ := reorders_exampleAndNote
  have htext : HasLines "S.\n\nExample:\n    x\n\nNote:\n    n\n" exampleAndNote.lines :=
    ⟨by decide +kernel, by decide +kernel⟩
  have htext' : HasLines "S.\n\nNote:\n    n\nExample:\n    x\n\n" noteAndExample.lines :=
    ⟨by decide +kernel, by decide +kernel⟩
  exact ⟨htext, htext', (parse_reordered [] none htext htext' hcut hplain htargets horder).1⟩

/-- With line feeds between the lines only, the empty line after the examples is lost where they
    come last. -/
theorem joined_order_matters :
    (exampleAndNote.IsCut (headingsWith [])
      ∧ (∀ p ∈ directiveTests [], ∀ l ∈ exampleAndNote.linesRead, p l = false)
      ∧ ((exampleAndNote.sections (headingsWith [])).map Section.target).Nodup
      ∧ exampleAndNote.Reorders (headingsWith []) noteAndExample)
    ∧ ¬ (parse [] none (String.ofList (Text.unlines exampleAndNote.lines))).Alike
        (parse [] none (String.ofList (Text.unlines noteAndExample.lines))) := by
  refine ⟨reorders_exampleAndNote, fun h => ?_⟩
  have hexamples : (parse [] none (String.ofList (Text.unlines exampleAndNote.lines))).examples
      ≠ (parse [] none (String.ofList (Text.unlines noteAndExample.lines))).examples := by
    decide +kernel
  exact hexamples h.examples

end Docsmith.Docstring
