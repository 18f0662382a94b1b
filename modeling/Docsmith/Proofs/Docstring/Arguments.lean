-- SUMMARY: The arguments of a documentation text are the items of its last section of arguments.
import Docsmith.Docstring.Parse

/-!
# Documented arguments

The arguments of a documentation text are those that the last of its sections of
arguments lists, one for each item line, under the name that the line gives. They
depend neither on the hint nor on the other sections.
-/

namespace Docsmith.Docstring

/-! ## Names of items -/

/-- The names that the item lines among some lines give. -/
def itemNames (ls : List Line) : List String := (items ls).map fun i => String.ofList i.name

theorem names_argsOf (ls : List Line) : (argsOf ls).map Arg.name = itemNames ls := by
  induction ls with
  | nil => rfl
  | cons l ls ih =>
    simp only [argsOf, entries, itemNames, items, List.filterMap_cons] at ih ⊢
    cases Item.ofLine? l with
    | none => exact ih
    | some item => exact congrArg (String.ofList item.name :: ·) ih

/-! ## The section of arguments -/

/-- The section lists arguments. -/
def Section.isArgs (s : Section) : Bool :=
  ["args", "arguments"].contains (String.ofList (Text.lower s.name))

theorem args_addSection (d : Docstring) (s : Section) :
    (addSection d s).args = if s.isArgs then argsOf s.lines else d.args := by
  by_cases h : s.isArgs = true
  · rw [if_pos h, addSection]
    exact congrArg Docstring.args (if_pos h)
  · rw [if_neg h]
    fun_cases addSection d s
    case case1 hargs => exact absurd hargs h
    all_goals rfl

/-- Of several sections of arguments the last one counts. -/
theorem args_foldl_addSection (ss : List Section) (d : Docstring) :
    (ss.foldl addSection d).args
      = ((ss.filter Section.isArgs).getLast?.map (argsOf ·.lines)).getD d.args := by
  induction ss generalizing d with
  | nil => rfl
  | cons s ss ih =>
    rw [List.foldl_cons, ih, args_addSection, List.filter_cons]
    split
    · rw [List.getLast?_cons]
      cases (ss.filter Section.isArgs).getLast? <;> rfl
    · rfl

/-- The lines of the last section of arguments. -/
def lastArgs (ss : List Section) : List Line :=
  ((ss.filter Section.isArgs).getLast?.map Section.lines).getD []

theorem args_addSections (known : List (List Char)) {d : Docstring} (hd : d.args = [])
    (ls : List Line) : (addSections known d ls).args = argsOf (lastArgs (sectionsOf known ls)) := by
  refine (args_foldl_addSection (sectionsOf known ls) d).trans ?_
  rw [hd, lastArgs]
  cases ((sectionsOf known ls).filter Section.isArgs).getLast? <;> rfl

/-- The lines of the section of arguments of a text, after its directives are taken out. -/
def argumentLines (kinds : List CustomKind) (text : String) : List Line :=
  if text.isEmpty then []
  else
    let body := Body.ofLines kinds (dedentedLines text.toList)
    lastArgs (sectionsOf (headingsWith kinds) (splitSummary (headingsWith kinds) body.lines).2)

theorem args_parse (kinds : List CustomKind) (hint : Option Kind) (text : String) :
    (parse kinds hint text).args = argsOf (argumentLines kinds text) := by
  unfold parse argumentLines
  split
  · rfl
  · exact args_addSections (headingsWith kinds) rfl _

end Docsmith.Docstring
