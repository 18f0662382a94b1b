-- SUMMARY: The text of a value.
import Docsmith.Text.Quoted
import Docsmith.Value.Basic

/-!
# Texts of values

A value is shown the way the documented language writes it (`Value.display`). As
text inside other text, a text stands for itself (`Value.text`).
-/

namespace Docsmith.Value

/-- The quoted form of a text. -/
def quote (s : String) : String := String.ofList (Text.quoted s.toList)

mutual

/-- The value as the documented language writes it. -/
def display : Value → String
  | .none => "None"
  | .bool b => if b then "True" else "False"
  | .int n => toString n
  | .float x => Decimal.number.write x
  | .imaginary x => Decimal.component.write x ++ "j"
  | .str s => quote s
  | .bytes bs => String.ofList (Text.quotedBytes bs)
  | .ellipsis => "Ellipsis"
  | .list xs => "[" ++ ", ".intercalate (displayItems xs) ++ "]"
  | .tuple [x] => "(" ++ x.display ++ ",)"
  | .tuple xs => "(" ++ ", ".intercalate (displayItems xs) ++ ")"
  | .dict es => "\x7b" ++ ", ".intercalate (displayEntries es) ++ "\x7d"

/-- The items of a sequence as the documented language writes them. -/
def displayItems : List Value → List String
  | [] => []
  | x :: xs => x.display :: displayItems xs

/-- The entries of a dictionary as the documented language writes them. -/
def displayEntries : List (Value × Value) → List String
  | [] => []
  | (k, v) :: es => (k.display ++ ": " ++ v.display) :: displayEntries es

end

/-- The value as text: a text stands for itself. -/
def text : Value → String
  | .str s => s
  | v => v.display

end Docsmith.Value
