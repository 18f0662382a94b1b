-- SUMMARY: Why a request has no answer.
import Docsmith.Source.Printer.Expr
import Docsmith.Source.Token
import Docsmith.Value.Text

/-!
# Faults

Everything that can go wrong in this library, by cause. `Fault.message` gives
the wording for the causes that have one.
-/

namespace Docsmith

/-- Why a request has no answer. -/
inductive Fault where
  /-- A dictionary has no entry under the key. -/
  | missingKey (key : Value)
  /-- A value is of a kind that the operation does not take. -/
  | wrongKind
  /-- A value of another kind was asked for a part that it does not have. -/
  | noMember
  /-- Something has no part of this name. -/
  | unknownMember (owner : String) (name : String)
  /-- A position outside of a sequence. -/
  | badPosition
  /-- A number too large for the operation. -/
  | tooLarge
  /-- A text is not the numeral of a whole number. -/
  | notANumeral (text : Value)
  /-- A number that is not a number has no whole part. -/
  | noWholePart
  /-- No kind of documentation has this name. -/
  | unknownKind (value : Value)
  /-- An expression has no canonical text. -/
  | unprintable (why : Source.PrintFault)
  /-- A source text is no program. -/
  | notAProgram (why : Source.Fault)
  /-- A text is not JSON. -/
  | notJson
  /-- The bytes of a file are not UTF-8. -/
  | notUtf8
  /-- A probe of a measurement could not be run. -/
  | probeFailed

/-- An answer, or why there is none. -/
abbrev Answer := Except Fault

/-- A step after another one succeeds exactly if both do. -/
theorem bind_eq_ok {ε α β : Type} {x : Except ε α} {f : α → Except ε β} {b : β} :
    (x >>= f) = .ok b ↔ ∃ a, x = .ok a ∧ f a = .ok b := by
  cases x with
  | ok a => simp [bind, Except.bind]
  | error e => simp [bind, Except.bind]

/-- The wording of a fault, for the causes that have one. -/
def Fault.message : Fault → Option String
  | .missingKey key => some key.display
  | .unknownMember owner name => some (owner ++ " has no attribute " ++ Value.quote name)
  | .notANumeral text => some ("invalid literal for int() with base 10: "
      ++ String.ofList (text.display.toList.take 200))
  | .noWholePart => some "cannot convert float NaN to integer"
  | .unknownKind v => some (v.display ++ " is not a valid DocType")
  | .unprintable .backslashInField =>
    some "Unable to avoid backslash in f-string expression part"
  | .unprintable .strayPart => some "Unexpected node inside JoinedStr"
  | .notAProgram .nulByte => some "source code string cannot contain null bytes"
  | _ => none

end Docsmith
