-- SUMMARY: Documentation data: values, their equality, truth and look-up.
import Docsmith.Decimal.Shortest

/-!
# Documentation data

Literals in a source file, settings and finished documentation are all values: scalars,
sequences and dictionaries. A dictionary keeps the order in which its keys came
in. Numbers are equal when they denote the same number, whatever their kind, and
a truth value counts as the number one or zero.
-/

namespace Docsmith

/-- A piece of documentation data. -/
inductive Value where
  | none
  | bool (b : Bool)
  | int (n : Int)
  | float (x : Float)
  | imaginary (x : Float)
  | str (s : String)
  | bytes (bs : List UInt8)
  | ellipsis
  | list (items : List Value)
  | tuple (items : List Value)
  | dict (entries : List (Value × Value))

instance : Inhabited Value := ⟨.none⟩

/-- Things under keys, in the order in which the keys came. -/
abbrev Keyed (β : Type) := List (Value × β)

/-- The entries of a dictionary, in order. -/
abbrev Entries := Keyed Value

/-! ## Numbers -/

/-- The floating-point number denotes the integer. -/
def Decimal.isInteger (x : Float) (n : Int) : Bool :=
  if x.isNaN || x.isInf then false
  else
    let (neg, v) := Decimal.ofBits x.toBits
    let (num, den) := v.fraction
    let signed : Int := if neg then -num else num
    signed == n * den

/-- The whole number that a number denotes when the fraction is cut off; infinities and
    NaN have none. -/
def Decimal.truncate? (x : Float) : Option Int :=
  if x.isNaN || x.isInf then none
  else
    let (neg, v) := Decimal.ofBits x.toBits
    let (num, den) := v.fraction
    let whole : Int := num / den
    some (if neg then -whole else whole)

namespace Value

/-- The integer that a value is; truth values count as one and zero. -/
def integer? : Value → Option Int
  | .int n => some n
  | .bool b => some (if b then 1 else 0)
  | _ => Option.none

/-- Two scalars are equal. -/
def sameScalar : Value → Value → Bool
  | .none, .none => true
  | .ellipsis, .ellipsis => true
  | .str s, .str t => s == t
  | .bytes bs, .bytes cs => bs == cs
  | .float x, .float y => x == y
  | .float x, b => (b.integer?.map (Decimal.isInteger x)).getD (match b with
      | .imaginary y => x == 0.0 && y == 0.0
      | _ => false)
  | a, .float y => (a.integer?.map (Decimal.isInteger y)).getD (match a with
      | .imaginary x => x == 0.0 && y == 0.0
      | _ => false)
  | .imaginary x, .imaginary y => x == y
  | .imaginary x, b => b.integer? == some 0 && x == 0.0
  | a, .imaginary y => a.integer? == some 0 && y == 0.0
  | a, b => match a.integer?, b.integer? with
    | some m, some n => m == n
    | _, _ => false

mutual

/-- Two values are equal. -/
def same : Value → Value → Bool
  | .list xs, .list ys => sameItems xs ys
  | .tuple xs, .tuple ys => sameItems xs ys
  | .dict xs, .dict ys => xs.length == ys.length && sameEntries xs ys
  | .list _, _ => false
  | .tuple _, _ => false
  | .dict _, _ => false
  | a, b => sameScalar a b

/-- Two sequences have equal items. -/
def sameItems : List Value → List Value → Bool
  | [], [] => true
  | x :: xs, y :: ys => x.same y && sameItems xs ys
  | _, _ => false

/-- Every entry of the first dictionary occurs in the second. -/
def sameEntries : List (Value × Value) → List (Value × Value) → Bool
  | [], _ => true
  | (k, v) :: xs, ys => ys.any (fun e => k.same e.1 && v.same e.2) && sameEntries xs ys

end

instance : BEq Value := ⟨same⟩

/-! ## Truth and keys -/

/-- Empty, zero and missing values are false, all others true. -/
def isTrue : Value → Bool
  | .none => false
  | .bool b => b
  | .int n => n != 0
  | .float x => x != 0.0
  | .imaginary x => x != 0.0
  | .str s => !s.isEmpty
  | .bytes bs => !bs.isEmpty
  | .ellipsis => true
  | .list xs => !xs.isEmpty
  | .tuple xs => !xs.isEmpty
  | .dict es => !es.isEmpty

mutual

/-- The value may be the key of an entry: it holds no list and no dictionary. -/
def isKey : Value → Bool
  | .list _ => false
  | .dict _ => false
  | .tuple xs => areKeys xs
  | _ => true

/-- All values may be keys. -/
def areKeys : List Value → Bool
  | [] => true
  | x :: xs => x.isKey && areKeys xs

end

/-- The value is a text. -/
def isStr : Value → Bool
  | .str _ => true
  | _ => false

/-- The value is a dictionary. -/
def isDict : Value → Bool
  | .dict _ => true
  | _ => false

/-- The value is missing. -/
def isNone : Value → Bool
  | .none => true
  | _ => false

/-- A list of texts. -/
def texts (ss : List String) : Value := .list (ss.map .str)

/-- A dictionary whose keys are texts. -/
def object (fields : List (String × Value)) : Value := .dict (fields.map fun (k, v) => (.str k, v))

end Value

/-! ## Dictionaries -/

namespace Keyed

/-- What is under a key. -/
def get? (es : Keyed β) (key : Value) : Option β := (es.find? fun e => e.1.same key).map (·.2)

/-- Put something under a key: an equal key keeps its place, a new one goes to the end. -/
def put : Keyed β → Value → β → Keyed β
  | [], key, b => [(key, b)]
  | (k, old) :: es, key, b => if k.same key then (k, b) :: es else (k, old) :: put es key b

end Keyed

namespace Entries

/-- The value under a key. -/
abbrev get? (es : Entries) (key : Value) : Option Value := Keyed.get? es key

/-- Put a value under a key. -/
abbrev put (es : Entries) (key v : Value) : Entries := Keyed.put es key v

/-- The value under a text. -/
def getText? : Entries → String → Option Value
  | [], _ => none
  | (.str k, v) :: es, key => if k == key then some v else getText? es key
  | _ :: es, key => getText? es key

/-- Put a value under a text. -/
def putText (es : Entries) (key : String) (v : Value) : Entries := es.put (.str key) v

/-- The entries without those under a text. -/
def dropText (es : Entries) (key : String) : Entries :=
  es.filter fun e => !e.1.same (.str key)

end Entries

end Docsmith
