-- SUMMARY: Results of benchmarks and their fingerprints.
import Docsmith.Decimal.Round
import Docsmith.Digest.Sha256
import Docsmith.Project.Path
import Docsmith.Text.Order
import Docsmith.Value.Text

/-!
# Results and fingerprints

A benchmark returns a result, and a fingerprint tells results apart. It is the
digest of a canonical text in which a sequence shows its size and its items,
a set the sorted fingerprints of its items, and a dictionary its entries in the order of
the fingerprints of their keys. Floating-point numbers count with six
significant digits, so that small errors of rounding leave no mark.
-/

namespace Docsmith.Bench

/-- What a benchmark returns. A `kind` is the name of the result's type. -/
inductive Result where
  | none
  | bool (b : Bool)
  | int (n : Int)
  | float (x : Float)
  | complex (re im : Float)
  | text (kind : String) (s : String)
  | bytes (kind : String) (bs : List UInt8)
  | sequence (kind : String) (items : List Result)
  | set (kind : String) (items : List Result)
  | dict (kind : String) (entries : List (Result × Result))
  | array (shape : List Nat) (layout : String) (items : List Result)
  | object (kind : String) (shown : String)

instance : Inhabited Result := ⟨.none⟩

namespace Result

/-- The name of the type of a result. -/
def kind : Result → String
  | .none => "NoneType"
  | .bool _ => "bool"
  | .int _ => "int"
  | .float _ => "float"
  | .complex _ _ => "complex"
  | .text k _ => k
  | .bytes k _ => k
  | .sequence k _ => k
  | .set k _ => k
  | .dict k _ => k
  | .array _ _ _ => "ndarray"
  | .object k _ => k

/-! ## Objects -/

mutual

/-- A value as a result. -/
def ofValue : Value → Result
  | .none => .none
  | .bool b => .bool b
  | .int n => .int n
  | .float x => .float x
  | .imaginary x => .complex 0.0 x
  | .str s => .text "str" s
  | .bytes bs => .bytes "bytes" bs
  | .ellipsis => .object "ellipsis" "Ellipsis"
  | .list xs => .sequence "list" (ofValues xs)
  | .tuple xs => .sequence "tuple" (ofValues xs)
  | .dict es => .dict "dict" (ofEntries es)

/-- Values as results. -/
def ofValues : List Value → List Result
  | [] => []
  | x :: xs => ofValue x :: ofValues xs

/-- Entries of a dictionary as results. -/
def ofEntries : List (Value × Value) → List (Result × Result)
  | [] => []
  | (k, v) :: es => (ofValue k, ofValue v) :: ofEntries es

end

/-- A fraction in lowest terms. -/
def fraction (num den : Int) : Result :=
  let g : Int := Nat.gcd num.natAbs den.natAbs
  let sign : Int := if den < 0 then -1 else 1
  .object "Fraction"
    ("Fraction(" ++ toString (sign * num / g) ++ ", " ++ toString (sign * den / g) ++ ")")

/-- A path. -/
def path (p : Path) : Result :=
  .object "PosixPath" ("PosixPath(" ++ Value.quote p.text ++ ")")

/-- A decimal number as it is written. -/
def decimal (text : String) : Result := .object "Decimal" ("Decimal(" ++ Value.quote text ++ ")")

/-- A day. -/
def date (year month day : Int) : Result :=
  .object "date" ("datetime.date(" ++ ", ".intercalate ([year, month, day].map toString) ++ ")")

/-- A span of time, with its parts carried over into days. -/
def duration (days seconds micros : Int) : Result :=
  let micros' := Int.fmod micros 1000000
  let seconds := seconds + Int.fdiv micros 1000000
  let seconds' := Int.fmod seconds 86400
  let days := days + Int.fdiv seconds 86400
  let parts := [("days", days), ("seconds", seconds'), ("microseconds", micros')].filter (·.2 != 0)
  let shown := if parts.isEmpty then ["0"] else parts.map fun (k, n) => k ++ "=" ++ toString n
  .object "timedelta" ("datetime.timedelta(" ++ ", ".intercalate shown ++ ")")

/-- A universally unique identifier with its hyphens. -/
def identifier (digits : String) : Result :=
  let ds := digits.toList.map Char.toLower
  let part (start size : Nat) : String := String.ofList ((ds.drop start).take size)
  .object "UUID" ("UUID(" ++ Value.quote ("-".intercalate
    [part 0 8, part 8 4, part 12 4, part 16 4, part 20 12]) ++ ")")

/-- The code for how an array lays out elements of a type: their kind and their size in bytes. -/
def layoutOf (element : String) : String :=
  (([("float64", "<f8"), ("float32", "<f4"), ("float16", "<f2"), ("int64", "<i8"), ("int32", "<i4"),
    ("int16", "<i2"), ("int8", "|i1"), ("uint64", "<u8"), ("uint32", "<u4"), ("uint16", "<u2"),
    ("uint8", "|u1"), ("bool", "|b1")] : List (String × String)).lookup element).getD element

/-- The sizes of nested lists of equal sizes, from the outside in. -/
def shapeOf : Nat → Value → List Nat
  | fuel + 1, .list xs => xs.length :: (xs.head?.map (shapeOf fuel)).getD []
  | _, _ => []

mutual

/-- The numbers in nested lists. -/
def flattened : Value → List Value
  | .list xs => flattenedItems xs
  | v => [v]

/-- The numbers in nested lists, one after the other. -/
def flattenedItems : List Value → List Value
  | [] => []
  | x :: xs => flattened x ++ flattenedItems xs

end

/-- An array of numbers of a type. -/
def arrayOf (element : String) (data : Value) : Result :=
  let item : Value → Result
    | .int n => if element.startsWith "float" then .float (Float.ofInt n) else .int n
    | v => ofValue v
  .array (shapeOf 32 data) (layoutOf element) ((flattened data).map item)

/-! ## Fingerprints -/

/-- The bytes of a text. -/
def utf8 (s : String) : List UInt8 := s.toUTF8.toList

/-- A floating-point number with six significant digits. -/
def shortFloat (x : Float) : String := Decimal.number.write (Decimal.roundSignificant 6 x)

/-- The shape of an array: its sizes in parentheses. -/
def shapeText (shape : List Nat) : String := (Value.tuple (shape.map fun n => .int (Int.ofNat n))).display

/-- Entries of a dictionary in the order of the fingerprints of their keys. -/
def byFingerprint (entries : List (String × List UInt8)) : List UInt8 :=
  (entries.mergeSort fun a b => a.1 ≤ b.1).flatMap (·.2)

mutual

/-- The canonical text of a result. -/
def canonical : Result → List UInt8
  | .none => utf8 "None"
  | .bool b => utf8 (if b then "True" else "False")
  | .int n => utf8 (toString n)
  | .float x => utf8 (shortFloat x)
  | .complex re im => utf8 ("c" ++ shortFloat re ++ shortFloat im)
  | .text _ s => utf8 ("s" ++ s)
  | .bytes _ bs => utf8 "b" ++ bs
  | .sequence _ items => utf8 ("L" ++ toString items.length) ++ canonicalItems items
  | .set _ items =>
    utf8 ("S" ++ toString items.length)
      ++ utf8 (String.join (Text.sorted (fingerprints items)))
  | .dict _ entries => utf8 ("D" ++ toString entries.length) ++ byFingerprint (canonicalEntries entries)
  | .array shape layout items => utf8 ("A" ++ shapeText shape ++ layout) ++ canonicalItems items
  | .object _ shown => utf8 shown

/-- The canonical texts of results, one after the other. -/
def canonicalItems : List Result → List UInt8
  | [] => []
  | x :: xs => canonical x ++ canonicalItems xs

/-- The fingerprints of results. -/
def fingerprints : List Result → List String
  | [] => []
  | x :: xs => Digest.hexOfBytes (canonical x) :: fingerprints xs

/-- The fingerprints of the keys with the canonical texts of the entries. -/
def canonicalEntries : List (Result × Result) → List (String × List UInt8)
  | [] => []
  | (k, v) :: es =>
    (Digest.hexOfBytes (canonical k), canonical k ++ canonical v) :: canonicalEntries es

end

/-- The fingerprint of a result. -/
def fingerprint (r : Result) : String := Digest.hexOfBytes r.canonical

end Result

end Docsmith.Bench
