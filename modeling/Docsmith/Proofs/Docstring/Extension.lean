-- SUMMARY: Kinds that a project defines: where they change nothing, and which of them can be used.
import Docsmith.Proofs.Docstring.Roles

/-!
# Kinds that a project defines

The sections of the kinds that a project defines are further headings, and the names of
the kinds are further values of the directive for the kind. A text that has none of
these headings and names none of these kinds is read as if there were no further kinds.

The headings are looked for in an order and behind as many blanks as possible. That a
line holds a heading does not hang on either: `sectionName?_isSome_iff` says what such a
line consists of.

The name that a directive gives is put into lower case before it is looked up among the names of
the kinds, which are taken as they are. So a kind can be used exactly if the project has a kind
whose name is the lower-case form of its name: `setsCustomKind_iff`.
-/

namespace Docsmith.Docstring

variable {known more : List (List Char)} {l : Line} {ls : List Line}

/-! ## Lines that hold a heading -/

/-- The texts have the same letters, in any case. -/
def SameLetters (v w : List Char) : Prop := List.Forall₂ (fun a b => Text.sameLetter a b = true) v w

/-- The text consists of the name in any letter case, a colon and white space. -/
def IsHeading (name cs : List Char) : Prop :=
  ∃ written after, cs = written ++ ':' :: after ∧ SameLetters name written ∧ Text.AllBlank after

/-- The line consists of white space, the name in any letter case, a colon and white space. -/
def HoldsHeading (name : List Char) (l : Line) : Prop :=
  ∃ before cs, l = before ++ cs ∧ Text.AllBlank before ∧ IsHeading name cs

theorem sameLetters_refl (w : List Char) : SameLetters w w := by
  induction w with
  | nil => exact .nil
  | cons a w ih => exact .cons (Text.sameLetter_of_lowerChar_eq rfl) ih

theorem sameLetters_of_dropWord? {w cs r : List Char} (h : Text.dropWord? w cs = some r) :
    ∃ written, cs = written ++ r ∧ SameLetters w written := by
  fun_induction Text.dropWord? w cs with
  | case1 cs =>
    cases h
    exact ⟨[], rfl, .nil⟩
  | case2 => cases h
  | case3 a w c cs hsame ih =>
    obtain ⟨written, rfl, hwritten⟩ := ih h
    exact ⟨c :: written, rfl, .cons hsame hwritten⟩
  | case4 => cases h

theorem dropWord?_of_sameLetters {w written : List Char} (h : SameLetters w written)
    (r : List Char) : Text.dropWord? w (written ++ r) = some r := by
  induction h with
  | nil => rfl
  | cons hsame _ ih => rw [List.cons_append, Text.dropWord?, if_pos hsame, ih]

theorem isColonOnly_iff {cs : List Char} :
    isColonOnly cs = true ↔ ∃ after, cs = ':' :: after ∧ Text.AllBlank after := by
  unfold isColonOnly
  split
  · simp [Text.AllBlank]
  · rename_i hcolon
    simp only [Bool.false_eq_true, false_iff]
    rintro ⟨after, rfl, -⟩
    exact hcolon after rfl

/-- A text is a heading exactly if it consists of one of the names and a colon. -/
theorem headingAt?_isSome_iff {cs : List Char} :
    (headingAt? known cs).isSome = true ↔ ∃ name ∈ known, IsHeading name cs := by
  unfold headingAt?
  rw [List.findSome?_isSome_iff]
  refine exists_congr fun name => and_congr_right fun _ => ?_
  constructor
  · intro h
    split at h
    · rename_i r hr
      split at h
      · rename_i hcolon
        obtain ⟨written, rfl, hwritten⟩ := sameLetters_of_dropWord? hr
        obtain ⟨after, rfl, hafter⟩ := isColonOnly_iff.mp hcolon
        exact ⟨written, after, rfl, hwritten, hafter⟩
      · cases h
    · cases h
  · rintro ⟨written, after, rfl, hwritten, hafter⟩
    rw [dropWord?_of_sameLetters hwritten]
    simp only [isColonOnly_iff.mpr ⟨after, rfl, hafter⟩, if_true, Option.isSome_some]

theorem holdsHeading_nil_iff {name : List Char} : HoldsHeading name [] ↔ IsHeading name [] := by
  constructor
  · rintro ⟨before, cs, heq, -, h⟩
    obtain ⟨rfl, rfl⟩ := List.append_eq_nil_iff.mp heq.symm
    exact h
  · intro h
    exact ⟨[], [], rfl, List.forall_mem_nil _, h⟩

theorem holdsHeading_cons_iff {name cs : List Char} {c : Char} :
    HoldsHeading name (c :: cs)
      ↔ IsHeading name (c :: cs) ∨ (Text.isBlank c = true ∧ HoldsHeading name cs) := by
  constructor
  · rintro ⟨before, ds, heq, hbefore, h⟩
    cases before with
    | nil =>
      rw [List.nil_append] at heq
      exact .inl (heq ▸ h)
    | cons b before =>
      obtain ⟨rfl, rfl⟩ := List.cons.inj heq
      obtain ⟨hc, hbefore⟩ := List.forall_mem_cons.mp hbefore
      exact .inr ⟨hc, before, ds, rfl, hbefore, h⟩
  · rintro (h | ⟨hc, before, ds, rfl, hbefore, h⟩)
    · exact ⟨[], c :: cs, rfl, List.forall_mem_nil _, h⟩
    · exact ⟨c :: before, ds, rfl, List.forall_mem_cons.mpr ⟨hc, hbefore⟩, h⟩

/-- A line is the heading of a section exactly if it holds one of the names. -/
theorem sectionName?_isSome_iff :
    (sectionName? known l).isSome = true ↔ ∃ name ∈ known, HoldsHeading name l := by
  induction l with
  | nil =>
    simp only [holdsHeading_nil_iff]
    exact headingAt?_isSome_iff
  | cons c cs ih =>
    simp only [holdsHeading_cons_iff]
    rw [sectionName?]
    cases hc : Text.isBlank c with
    | true =>
      simp only [if_true, Option.orElse_eq_orElse, Option.orElse_eq_or, Option.isSome_or,
        Bool.or_eq_true, ih, headingAt?_isSome_iff, true_and, and_or_left, exists_or]
      exact or_comm
    | false =>
      simp only [Bool.false_eq_true, if_false, false_and, or_false]
      exact headingAt?_isSome_iff

/-! ## Further headings -/

theorem headingAt?_append {cs : List Char} (h : ∀ name ∈ more, ¬ IsHeading name cs) :
    headingAt? (known ++ more) cs = headingAt? known cs := by
  have hnone : headingAt? more cs = none := by
    rw [← Option.not_isSome_iff_eq_none, headingAt?_isSome_iff]
    rintro ⟨name, hname, hheading⟩
    exact h name hname hheading
  rw [headingAt?] at hnone
  rw [headingAt?, List.findSome?_append, hnone, Option.or_none, ← headingAt?]

/-- Names that a line does not hold do not change what is read from it. -/
theorem sectionName?_append (h : ∀ name ∈ more, ¬ HoldsHeading name l) :
    sectionName? (known ++ more) l = sectionName? known l := by
  induction l with
  | nil => exact headingAt?_append fun name hname => holdsHeading_nil_iff.not.mp (h name hname)
  | cons c cs ih =>
    have hhere : ∀ name ∈ more, ¬ IsHeading name (c :: cs) :=
      fun name hname hheading => h name hname (holdsHeading_cons_iff.mpr (.inl hheading))
    rw [sectionName?, sectionName?, headingAt?_append hhere]
    split
    · rename_i hc
      rw [ih fun name hname hheading => h name hname (holdsHeading_cons_iff.mpr (.inr ⟨hc, hheading⟩))]
    · rfl

theorem heading?_append (h : ∀ name ∈ more, ¬ HoldsHeading name l) :
    heading? (known ++ more) l = heading? known l := by
  rw [heading?, heading?, sectionName?_append h]

section Congruence

variable {known' : List (List Char)}

theorem splitBlocks_congr (h : ∀ l ∈ ls, heading? known l = heading? known' l) :
    splitBlocks known ls = splitBlocks known' ls := by
  induction ls with
  | nil => rfl
  | cons l ls ih =>
    obtain ⟨hl, hls⟩ := List.forall_mem_cons.mp h
    rw [splitBlocks, splitBlocks, ih hls, hl]

theorem splitSummary_congr (h : ∀ l ∈ ls, heading? known l = heading? known' l) :
    splitSummary known ls = splitSummary known' ls := by
  induction ls with
  | nil => rfl
  | cons l ls ih =>
    obtain ⟨hl, hls⟩ := List.forall_mem_cons.mp h
    rw [splitSummary, splitSummary, ih hls, hl]

theorem mem_of_mem_splitSummary (h : l ∈ (splitSummary known ls).2) : l ∈ ls := by
  fun_induction splitSummary known ls with
  | case1 => exact h
  | case2 m ls => exact List.mem_cons_of_mem m h
  | case3 => exact h
  | case4 m ls _ _ summary rest hsplit ih =>
    rw [hsplit] at ih
    exact List.mem_cons_of_mem m (ih h)

theorem addSections_congr (h : ∀ l ∈ ls, heading? known l = heading? known' l) (d : Docstring) :
    addSections known d ls = addSections known' d ls := by
  simp only [addSections, sectionsOf, responsesOf, splitBlocks_congr h]

end Congruence

/-! ## Further kinds -/

variable {kinds : List CustomKind}

/-- The line sets the kind of the text to one that the project defines. -/
def NamesKind (kinds : List CustomKind) (l : Line) : Prop :=
  ∃ value, wordDirective? "Type" l = some value
    ∧ ∃ kind ∈ kinds, kind.name = String.ofList (Text.lower value)

/-- The headings that the project defines. -/
def customHeadings (kinds : List CustomKind) : List (List Char) :=
  ((kinds.flatMap (·.sections)).filterMap customHeading?).map String.toList

theorem headingsWith_eq (kinds : List CustomKind) :
    headingsWith kinds = headingsWith [] ++ customHeadings kinds := by
  simp [headingsWith, customHeadings]

/-- A line that names no kind of the project sets the kind as if the project defined none. -/
theorem kindOfLine?_eq (h : ¬ NamesKind kinds l) : kindOfLine? kinds l = kindOfLine? [] l := by
  unfold kindOfLine?
  cases hvalue : wordDirective? "Type" l with
  | none => rfl
  | some value =>
    have hnone : kinds.any (·.name == String.ofList (Text.lower value)) = false := by
      rw [List.any_eq_false]
      intro kind hkind hname
      exact h ⟨value, hvalue, kind, hkind, eq_of_beq hname⟩
    simp only [Option.bind_eq_bind, Option.bind_some, hnone, List.any_nil, Bool.false_eq_true,
      if_false]

theorem takeFirst_congr {α : Type} {read read' : Line → Option α} (h : ∀ l ∈ ls, read l = read' l) :
    takeFirst read ls = takeFirst read' ls := by
  induction ls with
  | nil => rfl
  | cons l ls ih =>
    obtain ⟨hl, hls⟩ := List.forall_mem_cons.mp h
    rw [takeFirst, takeFirst, ih hls, hl]

/-- A text that neither holds a heading nor names a kind that the project defines is read as if
    the project defined none. -/
theorem parse_conservative (kinds : List CustomKind) (hint : Option Kind) (text : String)
    (hheadings : ∀ l ∈ dedentedLines text.toList, ∀ name ∈ customHeadings kinds,
      ¬ HoldsHeading name l)
    (hkinds : ∀ l ∈ dedentedLines text.toList, ¬ NamesKind kinds l) :
    parse kinds hint text = parse [] hint text := by
  have hbody : Body.ofLines kinds (dedentedLines text.toList)
      = Body.ofLines [] (dedentedLines text.toList) := by
    rw [Body.ofLines, Body.ofLines, takeFirst_congr fun l hl => kindOfLine?_eq (hkinds l hl)]
  have hlines : ∀ l ∈ (Body.ofLines [] (dedentedLines text.toList)).lines,
      heading? (headingsWith kinds) l = heading? (headingsWith []) l := by
    intro l hl
    rw [Body.ofLines_lines] at hl
    rw [headingsWith_eq]
    exact heading?_append (hheadings l ((eraseFirsts_sublist _ _).subset hl))
  rw [parse, parse]
  split
  · rfl
  · dsimp only
    rw [hbody, splitSummary_congr hlines]
    exact addSections_congr (fun l hl => hlines l (mem_of_mem_splitSummary hl)) _

/-- Recipes, with a section of their own. -/
def recipe : CustomKind where
  name := "recipe"
  sections := [⟨.str "Steps", .str "list"⟩]

/-- The name of the kind and the heading of its section stand here, though not in their places. -/
def pancakes : String :=
  "Make pancakes: a recipe.\n\nType: api\nSteps: mix, bake.\n\nArgs:\n    eggs (int): How many.\n"

theorem parse_pancakes :
    (∀ l ∈ dedentedLines pancakes.toList, ∀ name ∈ customHeadings [recipe], ¬ HoldsHeading name l)
      ∧ (∀ l ∈ dedentedLines pancakes.toList, ¬ NamesKind [recipe] l)
      ∧ parse [recipe] none pancakes = parse [] none pancakes := by
  have hheadings : ∀ l ∈ dedentedLines pancakes.toList, ∀ name ∈ customHeadings [recipe],
      ¬ HoldsHeading name l := by
    have hnone : ∀ l ∈ dedentedLines pancakes.toList,
        (sectionName? (customHeadings [recipe]) l).isSome = false := by decide +kernel
    intro l hl name hname h
    have hsome := sectionName?_isSome_iff.mpr ⟨name, hname, h⟩
    rw [hnone l hl] at hsome
    cases hsome
  have hkinds : ∀ l ∈ dedentedLines pancakes.toList, ¬ NamesKind [recipe] l := by
    have hnone : ∀ l ∈ dedentedLines pancakes.toList, ∀ value ∈ wordDirective? "Type" l,
        "recipe" ≠ String.ofList (Text.lower value) := by decide +kernel
    rintro l hl ⟨value, hvalue, kind, hkind, hname⟩
    rw [List.mem_singleton.mp hkind] at hname
    exact hnone l hl value hvalue hname
  exact ⟨hheadings, hkinds, parse_conservative [recipe] none pancakes hheadings hkinds⟩

/-! ## Using a kind -/

/-- A line that consists of a word, a colon and a value is a directive. -/
theorem wordDirective?_of_strip {word : String} {value : Line} (hne : value ≠ [])
    (hvalue : value.all Text.isWord = true)
    (hl : Text.strip l = word.toList ++ ':' :: ' ' :: value) :
    wordDirective? word l = some value := by
  obtain ⟨b, hb, hcut⟩ := Text.exists_stripEnd_append (Text.stripStart l)
  have hline : Text.stripStart l = word.toList ++ ':' :: ' ' :: (value ++ b) := by
    rw [hcut]
    exact (congrArg (· ++ b) hl).trans (by simp)
  have hafter : afterWord? word l = some (' ' :: (value ++ b)) := by
    rw [afterWord?, hline, dropWord?_of_sameLetters (sameLetters_refl _)]
    rfl
  have hstrip : Text.strip (' ' :: (value ++ b)) = value := by
    have hblank : ∀ c ∈ value, Text.isBlank c = false := fun c hc =>
      not_isBlank_of_isWord (List.all_eq_true.mp hvalue c hc)
    calc Text.strip (' ' :: (value ++ b))
        = Text.strip (value ++ b) :=
          Text.strip_allBlank_append (a := [' ']) (List.forall_mem_singleton.mpr rfl) _
      _ = Text.strip value := Text.strip_append_allBlank hb value
      _ = value := Text.strip_eq_self (fun c hc => hblank c (List.mem_of_mem_head? hc))
          fun c hc => hblank c (List.mem_of_mem_getLast? hc)
  simpa [wordDirective?, hafter, hstrip, hne] using hvalue

theorem kindOfLine?_of_directive (kinds : List CustomKind) {value : Line}
    (hl : wordDirective? "Type" l = some value)
    (hbuiltIn : Kind.ofName? (String.ofList (Text.lower value)) = none) :
    kindOfLine? kinds l =
      if kinds.any (·.name == String.ofList (Text.lower value)) then some .custom else none := by
  simp [kindOfLine?, hl, hbuiltIn]

theorem kindOfLine?_eq_none (hl : wordDirective? "Type" l = none) : kindOfLine? kinds l = none := by
  simp [kindOfLine?, hl]

/-- A line that is no directive for a known kind stays, whatever its word for the kind. -/
theorem directiveTests_of_typeLine (hl : (wordDirective? "Type" l).isSome = true)
    (hkind : kindOfLine? kinds l = none) : ∀ p ∈ directiveTests kinds, p l = false := by
  have hword := afterWord?_isSome_of_wordDirective? hl
  have hother (w : String) (hdiffer : Text.differ "Type".toList w.toList = true) :
      afterWord? w l = none := afterWord?_eq_none_of_differ hdiffer hword
  simp [directiveTests, hkind, wordDirective?, textDirective?, hother "Method" (by decide),
    hother "Path" (by decide), hother "Trigger" (by decide)]

theorem find?_zipIdx_append {p : Line → Bool} {before after : List Line}
    (hbefore : ∀ m ∈ before, p m = false) (hl : p l = true) :
    (before ++ l :: after).zipIdx.find? (fun m => p m.1) = some (l, before.length) := by
  have hnone : before.zipIdx.find? (fun m => p m.1) = none :=
    List.find?_eq_none.mpr fun m hm => by simp [hbefore m.1 (List.fst_mem_of_mem_zipIdx hm)]
  simp [List.zipIdx_append, List.find?_append, hnone, hl]

/-- The text is of a kind that the project defines, and the line is none of those that its
    summary, its description and its sections are read from. -/
def SetsCustomKind (kinds : List CustomKind) (hint : Option Kind) (text : String) (l : Placed) :
    Prop :=
  (parse kinds hint text).kind = .custom ∧ ∀ r, Roles.Of kinds hint text r → l ∉ r.remaining

section FirstDirective

variable {hint : Option Kind} {text : String} {before after : List Line}
  (hlines : dedentedLines text.toList = before ++ l :: after)
include hlines

theorem mem_zipIdx_dedentedLines : (l, before.length) ∈ (dedentedLines text.toList).zipIdx := by
  rw [hlines, List.zipIdx_append]
  simp

theorem isEmpty_eq_false_of_line (hne : l ≠ []) : text.isEmpty = false := by
  rw [← Bool.not_eq_true, String.isEmpty_iff]
  rintro rfl
  have hmem : l ∈ dedentedLines "".toList := by rw [hlines]; simp
  exact hne (List.mem_singleton.mp hmem)

/-- The first line that sets a known kind is taken out. -/
theorem setsCustomKind_of_first (hl : kindOfLine? kinds l = some .custom)
    (hfirst : ∀ m ∈ before, kindOfLine? kinds m = none) :
    SetsCustomKind kinds hint text (l, before.length) := by
  have hne : l ≠ [] := by
    rintro rfl
    cases hl
  constructor
  · have hnone : before.findSome? (kindOfLine? kinds) = none :=
      List.findSome?_eq_none_iff.mpr hfirst
    rw [kind_parse_eq kinds hint (isEmpty_eq_false_of_line hlines hne), hlines,
      List.findSome?_append, hnone, List.findSome?_cons_of_isSome (by rw [hl]; rfl), hl]
    rfl
  · intro r hr hmem
    refine (hr.mem_remaining_iff (mem_zipIdx_dedentedLines hlines)).mp hmem ?_
    refine hr.mem_directives_iff.mpr ⟨_, List.mem_cons_self, ?_⟩
    rw [hlines]
    exact find?_zipIdx_append (p := fun m => (kindOfLine? kinds m).isSome)
      (fun m hm => by rw [hfirst m hm]; rfl) (by rw [hl]; rfl)

/-- A line that is no directive stays in the text. -/
theorem not_setsCustomKind (hl : ∀ p ∈ directiveTests kinds, p l = false) :
    ¬ SetsCustomKind kinds hint text (l, before.length) := by
  rintro ⟨-, hgone⟩
  obtain ⟨r, hr⟩ := exists_rolesOf kinds hint text
  refine hgone r hr ((hr.mem_remaining_iff (mem_zipIdx_dedentedLines hlines)).mpr fun hmem => ?_)
  obtain ⟨p, hp, hfind⟩ := hr.mem_directives_iff.mp hmem
  have hpl := List.find?_some hfind
  rw [hl p hp] at hpl
  cases hpl

end FirstDirective

/-- A line that names a kind of the project, and is the first to name any kind, makes the text
    one of the project's kinds exactly if one of them has the name in lower case. So every kind
    with a name in lower case can be used. -/
theorem setsCustomKind_iff (kinds : List CustomKind) (hint : Option Kind) {text : String}
    {kind : CustomKind} (hkind : kind ∈ kinds) (hne : kind.name.toList ≠ [])
    (hword : kind.name.toList.all Text.isWord = true)
    (hbuiltIn : Kind.ofName? (String.ofList (Text.lower kind.name.toList)) = none)
    {before after : List Line} (hlines : dedentedLines text.toList = before ++ l :: after)
    (hl : Text.strip l = "Type: ".toList ++ kind.name.toList)
    (hfirst : ∀ m ∈ before, wordDirective? "Type" m = none) :
    (SetsCustomKind kinds hint text (l, before.length) ↔
        ∃ other ∈ kinds, other.name = String.ofList (Text.lower kind.name.toList)) ∧
      (Text.lower kind.name.toList = kind.name.toList →
        SetsCustomKind kinds hint text (l, before.length)) := by
  have hdirective : wordDirective? "Type" l = some kind.name.toList :=
    wordDirective?_of_strip hne hword hl
  have hread := kindOfLine?_of_directive kinds hdirective hbuiltIn
  have hiff : SetsCustomKind kinds hint text (l, before.length) ↔
      ∃ other ∈ kinds, other.name = String.ofList (Text.lower kind.name.toList) := by
    cases hany : kinds.any (·.name == String.ofList (Text.lower kind.name.toList)) with
    | true =>
      rw [hany] at hread
      refine iff_of_true ?_ (by simpa using hany)
      exact setsCustomKind_of_first hlines hread fun m hm => kindOfLine?_eq_none (hfirst m hm)
    | false =>
      rw [hany] at hread
      refine iff_of_false (not_setsCustomKind hlines ?_) (by simpa using hany)
      exact directiveTests_of_typeLine (by rw [hdirective]; rfl) hread
  refine ⟨hiff, fun hlower => hiff.mpr ⟨kind, hkind, ?_⟩⟩
  rw [hlower, String.ofList_toList]

/-- Commands, with a name that has capital letters. -/
def cliCommand : CustomKind where
  name := "CliCommand"

/-- A name with capital letters sets no kind, and the line stays in the description. -/
theorem cliCommand_unusable :
    ¬ SetsCustomKind [cliCommand] none "Deploy.\n\nType: CliCommand"
      ("Type: CliCommand".toList, 2) := by
  have hlines : dedentedLines "Deploy.\n\nType: CliCommand".toList =
      ["Deploy.".toList, []] ++ "Type: CliCommand".toList :: [] := by decide +kernel
  have hiff := (setsCustomKind_iff [cliCommand] none List.mem_cons_self (by decide) (by decide)
    (by decide) hlines (by decide) (by decide)).1
  intro h
  obtain ⟨other, hother, hname⟩ := hiff.mp h
  rw [List.mem_singleton.mp hother] at hname
  exact absurd hname (by decide)

end Docsmith.Docstring
