-- SUMMARY: The shortest decimal that reads back as a given binary floating-point number.

/-!
# Shortest decimals

A finite binary floating-point number is `m · 2^q`. The reals that round to it
form an interval, closed exactly when `m` is even. `Scaled.shortest` looks for
the coarsest decimal grid with a point in that interval and takes the point
nearest to the number. The search is done in exact integer arithmetic.
-/

namespace Docsmith.Decimal

/-- The nonnegative number `m · 2^q`. `edge` marks the least significand of its binade,
    below which the gap to the next number is only half as wide. -/
structure Scaled where
  m : Nat
  q : Int
  edge : Bool

/-- Sign and magnitude of a binary64 word that is neither infinite nor a NaN. -/
def ofBits (bits : UInt64) : Bool × Scaled :=
  let n := bits.toNat
  let frac : Nat := n % Nat.pow 2 52
  let e : Nat := n / Nat.pow 2 52 % Nat.pow 2 11
  (n / Nat.pow 2 63 == 1,
    if e == 0 then ⟨frac, -1074, false⟩
    else ⟨frac + Nat.pow 2 52, (e : Int) - 1075, frac == 0 && 1 < e⟩)

/-- The number as a fraction of two naturals. -/
def Scaled.fraction (v : Scaled) : Nat × Nat :=
  (v.m * Nat.pow 2 v.q.toNat, Nat.pow 2 (-v.q).toNat)

/-- The power of ten `k` with `10^(k-1) ≤ v < 10^k`, for a positive number. -/
def Scaled.magnitude (v : Scaled) : Int :=
  let (num, den) := v.fraction
  let below (k : Int) : Bool := num * Nat.pow 10 (-k).toNat < den * Nat.pow 10 k.toNat
  let guess := Int.fdiv ((Nat.log2 v.m + v.q) * 30103) 100000 + 1
  if !below guess then guess + 1
  else if below (guess - 1) then guess - 1
  else guess

/-- A point `digits · 10^exponent` of a decimal grid. -/
structure Point where
  digits : Nat
  exponent : Int

/-- The point of the grid with unit `10^e` that is nearest to `v` among those that round
    to `v`; of two equally near ones, the one with the even last digit. -/
def Scaled.onGrid? (v : Scaled) (e : Int) : Option Point :=
  let a := Nat.pow 2 (v.q - 2).toNat * Nat.pow 10 (-e).toNat
  let b := Nat.pow 2 (2 - v.q).toNat * Nat.pow 10 e.toNat
  let lo := (4 * v.m - if v.edge then 1 else 2) * a
  let hi := (4 * v.m + 2) * a
  let inside (d : Nat) : Bool :=
    if v.m % 2 == 0 then lo ≤ d * b && d * b ≤ hi else lo < d * b && d * b < hi
  let d := 4 * v.m * a / b
  match inside d, inside (d + 1) with
  | false, false => none
  | true, false => some ⟨d, e⟩
  | false, true => some ⟨d + 1, e⟩
  | true, true =>
    let down := 4 * v.m * a - d * b
    let up := (d + 1) * b - 4 * v.m * a
    if down < up || (down == up && d % 2 == 0) then some ⟨d, e⟩ else some ⟨d + 1, e⟩

/-- Search grids of `n`, `n + 1`, … digits. -/
def Scaled.shortestFrom (v : Scaled) (k : Int) : Nat → Nat → Point
  | 0, n => ⟨4 * v.m, k - n⟩
  | fuel + 1, n =>
    match v.onGrid? (k - n) with
    | some p => p
    | none => v.shortestFrom k fuel (n + 1)

/-- The shortest decimal that rounds to a positive number; seventeen digits always do. -/
def Scaled.shortest (v : Scaled) : Point := v.shortestFrom v.magnitude 18 1

/-- How a number is written: the largest point position that is still written without an
    exponent, the smallest, and whether a whole number shows a fraction. -/
structure Style where
  maxPoint : Int
  minPoint : Int
  showFraction : Bool

/-- Digits with a point after `point` digits, or with an exponent of at least two digits. -/
def Style.layout (s : Style) (digits : List Char) (point : Int) : List Char :=
  if s.minPoint < point && point ≤ s.maxPoint then
    if point ≤ 0 then '0' :: '.' :: (List.replicate (-point).toNat '0' ++ digits)
    else
      let n := point.toNat
      let whole := digits.take n ++ List.replicate (n - digits.length) '0'
      match digits.drop n with
      | [] => if s.showFraction then whole ++ ['.', '0'] else whole
      | frac => whole ++ '.' :: frac
  else
    let e := point - 1
    let ds := Nat.toDigits 10 e.natAbs
    let exponent := (if e < 0 then '-' else '+') :: (if ds.length < 2 then '0' :: ds else ds)
    match digits with
    | [] => []
    | [d] => d :: 'e' :: exponent
    | d :: ds => d :: '.' :: ds ++ 'e' :: exponent

/-- The decimal digits of a point without trailing zeros, and the position of the point. -/
def Point.parts (p : Point) : List Char × Int :=
  let ds := Nat.toDigits 10 p.digits
  let kept := (ds.reverse.dropWhile (· == '0')).reverse
  (kept, ds.length + p.exponent)

/-- Write a binary64 number in a style. -/
def Style.write (s : Style) (x : Float) : String :=
  let bits := x.toBits
  if x.isNaN then "nan"
  else if x.isInf then (if x < 0 then "-inf" else "inf")
  else
    let (neg, v) := ofBits bits
    let (digits, point) := if v.m == 0 then (['0'], 1) else v.shortest.parts
    String.ofList ((if neg then ['-'] else []) ++ s.layout digits point)

/-- Numbers are written without an exponent while the point stands after at most sixteen
    digits and before at most three zeros, and a whole number shows its fraction. -/
def number : Style := ⟨16, -4, true⟩

/-- As `number`, but a whole number shows no fraction: the parts of a complex number. -/
def component : Style := ⟨16, -4, false⟩

end Docsmith.Decimal
