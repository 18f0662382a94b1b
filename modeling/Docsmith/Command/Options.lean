-- SUMMARY: Options and arguments on a command line.

/-!
# Options

Words that start with a hyphen are options, all others are arguments, in any
order. The value of an option follows it as the next word, after an equals sign,
or directly after its letter. After two hyphens all words are arguments.
-/

namespace Docsmith.Command

/-- An option: its name, its letter, and whether it has a value. -/
structure Switch where
  name : String
  letter : Option Char
  hasValue : Bool

/-- The words of a command line, sorted out. -/
structure Words where
  /-- Options with their values, the last ones first. -/
  options : List (String × String) := []
  /-- Arguments, in order. -/
  arguments : List String := []

/-- The value of an option; the last one counts. -/
def Words.value? (w : Words) (name : String) : Option String :=
  (w.options.find? (·.1 == name)).map (·.2)

/-- The option is there. -/
def Words.has (w : Words) (name : String) : Bool := (w.value? name).isSome

/-- What an option word gives: options with values, and the name of one whose value is the
    next word. -/
structure Reading where
  options : List (String × String)
  pending : Option String := none

/-- Read letters that follow a single hyphen. -/
def readLetters? (known : List Switch) (found : List (String × String)) : List Char → Option Reading
  | [] => some { options := found }
  | c :: cs => match known.find? (·.letter == some c) with
    | none => none
    | some o =>
      if !o.hasValue then readLetters? known ((o.name, "") :: found) cs
      else if cs.isEmpty then some { options := found, pending := some o.name }
      else some { options := (o.name, String.ofList cs) :: found }

/-- Read what follows two hyphens. -/
def readName? (known : List Switch) (cs : List Char) : Option Reading :=
  let name := String.ofList (cs.takeWhile (· != '='))
  match known.find? (·.name == name), cs.dropWhile (· != '=') with
  | none, _ => none
  | some o, _ :: value =>
    if o.hasValue then some { options := [(name, String.ofList value)] } else none
  | some o, [] =>
    if o.hasValue then some { options := [], pending := some name }
    else some { options := [(name, "")] }

/-- Sort out words; `pending` is the option whose value is the next word, and `plain` says
    that all words are arguments. -/
def sortOut? (known : List Switch) (w : Words) (plain : Bool) (pending : Option String) :
    List String → Option Words
  | [] => if pending.isSome then none else some { w with arguments := w.arguments.reverse }
  | word :: words => match pending with
    | some name => sortOut? known { w with options := (name, word) :: w.options } plain none words
    | none =>
      let argument := { w with arguments := word :: w.arguments }
      if plain then sortOut? known argument true none words
      else match word.toList with
        | ['-', '-'] => sortOut? known w true none words
        | '-' :: '-' :: cs => match readName? known cs with
          | some r => sortOut? known { w with options := r.options ++ w.options } false r.pending words
          | none => none
        | '-' :: c :: cs => match readLetters? known [] (c :: cs) with
          | some r => sortOut? known { w with options := r.options ++ w.options } false r.pending words
          | none => none
        | _ => sortOut? known argument false none words

/-- Sort out the words of a command; `none` if an option is unknown or lacks its value. -/
def words? (known : List Switch) (words : List String) : Option Words :=
  sortOut? known {} false none words

end Docsmith.Command
