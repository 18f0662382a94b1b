-- SUMMARY: The value that a literal expression denotes, and the literal of a value.
import Docsmith.Fault
import Docsmith.Source.Tree

/-!
# What literals denote

`Expr.value` reads constants, sequences, dictionaries and negated numbers; an
expression of any other form counts as a missing value. `Value.literal` goes the
other way.
-/

namespace Docsmith

/-- The negation of a number; other values have none. -/
def Value.negated : Value → Value
  | .int n => .int (-n)
  | .bool b => .int (if b then -1 else 0)
  | .float x => .float (-x)
  | _ => .none

namespace Source

/-- The value that a constant denotes. -/
def Constant.value : Constant → Value
  | .none => .none
  | .bool b => .bool b
  | .int n => .int n
  | .float x => .float x
  | .imaginary x => .imaginary x
  | .str s _ => .str s
  | .bytes bs => .bytes bs
  | .ellipsis => .ellipsis

mutual

/-- The value that an expression denotes, if it is a literal; otherwise a missing value. -/
def Expr.value : Expr → Answer Value
  | .constant c => .ok c.value
  | .list elts => do return .list (← Expr.values elts)
  | .tuple elts => do return .tuple (← Expr.values elts)
  | .dict items => do return .dict (← DictItem.addAll items [])
  | .unary .minus operand => do return (← operand.value).negated
  | _ => .ok .none

/-- The values of several expressions. -/
def Expr.values : List Expr → Answer (List Value)
  | [] => .ok []
  | e :: es => do
    let v ← e.value
    return v :: (← Expr.values es)

/-- Put the entries of a dictionary display into a dictionary. Mappings to copy are passed
    over. -/
def DictItem.addAll : List DictItem → Entries → Answer Entries
  | [], found => .ok found
  | .spread _ :: items, found => DictItem.addAll items found
  | .pair k v :: items, found => do
    let key ← k.value
    let val ← v.value
    if key.isKey then DictItem.addAll items (found.put key val) else throw .wrongKind

end

end Source

open Source

/-- The constant of a whole number, with a minus sign in front of a negative one. -/
def Value.wholeLiteral : Int → Expr
  | .ofNat n => .constant (.int n)
  | .negSucc n => .unary .minus (.constant (.int (n + 1)))

mutual

/-- The literal expression that denotes a value. -/
def Value.literal : Value → Expr
  | .none => .constant .none
  | .bool b => .constant (.bool b)
  | .int n => Value.wholeLiteral n
  | .float x => if x < 0.0 then .unary .minus (.constant (.float (-x))) else .constant (.float x)
  | .imaginary x => .constant (.imaginary x)
  | .str s => .constant (.str s false)
  | .bytes bs => .constant (.bytes bs)
  | .ellipsis => .constant .ellipsis
  | .list xs => .list (Value.literals xs)
  | .tuple xs => .tuple (Value.literals xs)
  | .dict es => .dict (Value.literalItems es)

/-- The literals of several values. -/
def Value.literals : List Value → List Expr
  | [] => []
  | x :: xs => x.literal :: Value.literals xs

/-- The entries of a dictionary as literals. -/
def Value.literalItems : List (Value × Value) → List DictItem
  | [] => []
  | (k, v) :: es => .pair k.literal v.literal :: Value.literalItems es

end

end Docsmith
