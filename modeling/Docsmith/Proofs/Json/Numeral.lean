-- SUMMARY: The numbers that are written in JSON texts are read back whole.
import Docsmith.Json.Read
import Docsmith.Json.Write
import Mathlib.Data.List.TakeWhile

/-!
# Numerals

A written number is a JSON numeral: whole digits without a leading zero, perhaps
a fraction, perhaps an exponent. The reader takes exactly the numeral off a text,
provided that what follows does not go on with a number.
-/

namespace Docsmith.Json

/-- All characters are decimal digits. -/
def AreDigits (ds : List Char) : Prop := ∀ c ∈ ds, c.isDigit = true

/-- The text does not go on with a number. -/
def EndsNumber (rest : List Char) : Prop :=
  ∀ c ∈ rest.head?, c.isDigit = false ∧ c ≠ '.' ∧ c ≠ 'e' ∧ c ≠ 'E'

/-- Whole digits, fraction and exponent of a JSON numeral. -/
structure IsNumeral (whole frac exp : List Char) : Prop where
  whole : whole = ['0'] ∨ ∃ d ds, whole = d :: ds ∧ d ≠ '0' ∧ AreDigits (d :: ds)
  frac : frac = [] ∨ ∃ ds, frac = '.' :: ds ∧ ds ≠ [] ∧ AreDigits ds
  exp : exp = [] ∨ ∃ sign ds, exp = 'e' :: sign :: ds ∧ (sign = '+' ∨ sign = '-') ∧ ds ≠ [] ∧
    AreDigits ds

/-- The number that a numeral stands for: an integer unless it has a fraction or an exponent. -/
def numeralValue (neg : Bool) (whole frac exp : List Char) : Value :=
  if frac.isEmpty && exp.isEmpty then
    let n : Int := Decimal.digitsValue whole
    .int (if neg then -n else n)
  else
    let x := (Decimal.Numeral.ofChars (whole ++ frac ++ exp)).value
    .float (if neg then -x else x)

/-! ## Reading a numeral -/

theorem digits_append {ds rest : List Char} (hds : AreDigits ds)
    (hrest : ∀ c ∈ rest.head?, c.isDigit = false) : digits (ds ++ rest) = (ds, rest) := by
  have htake : rest.takeWhile Char.isDigit = [] := by
    cases rest with
    | nil => rfl
    | cons c cs => simp [hrest c (by simp)]
  have hdrop : rest.dropWhile Char.isDigit = rest := by
    cases rest with
    | nil => rfl
    | cons c cs => simp [hrest c (by simp)]
  simp [digits, List.takeWhile_append_of_pos hds, List.dropWhile_append_of_pos hds, htake, hdrop]

theorem exponent_append {exp rest : List Char}
    (hexp : exp = [] ∨ ∃ sign ds, exp = 'e' :: sign :: ds ∧ (sign = '+' ∨ sign = '-') ∧ ds ≠ [] ∧
      AreDigits ds)
    (hrest : EndsNumber rest) : exponent (exp ++ rest) = (exp, rest) := by
  obtain rfl | ⟨sign, ds, rfl, hsign, hne, hds⟩ := hexp
  · cases rest with
    | nil => rfl
    | cons c cs =>
      have hc := hrest c (by simp)
      simp [exponent, hc.2.2]
  · have hd := digits_append hds fun c hc => (hrest c hc).1
    obtain rfl | rfl := hsign <;> simp [exponent, hd, hne]

theorem fraction_append {frac rest : List Char}
    (hfrac : frac = [] ∨ ∃ ds, frac = '.' :: ds ∧ ds ≠ [] ∧ AreDigits ds)
    (hrest : ∀ c ∈ rest.head?, c.isDigit = false ∧ c ≠ '.') :
    fraction (frac ++ rest) = (frac, rest) := by
  obtain rfl | ⟨ds, rfl, hne, hds⟩ := hfrac
  · cases rest with
    | nil => rfl
    | cons c cs =>
      have hc := hrest c (by simp)
      simp [fraction, hc.2]
  · have hd := digits_append hds fun c hc => (hrest c hc).1
    simp [fraction, hd, hne]

theorem number?_numeral {whole frac exp rest : List Char} (h : IsNumeral whole frac exp)
    (hrest : EndsNumber rest) (neg : Bool) :
    number? neg (whole ++ frac ++ exp ++ rest) = some (numeralValue neg whole frac exp, rest) := by
  have hexp := exponent_append h.exp hrest
  have hexpHead : ∀ c ∈ (exp ++ rest).head?, c.isDigit = false ∧ c ≠ '.' := by
    obtain rfl | ⟨sign, ds, rfl, -, -, -⟩ := h.exp
    · exact fun c hc => ⟨(hrest c hc).1, (hrest c hc).2.1⟩
    · simp
  have hfrac := fraction_append h.frac hexpHead
  have hfracHead : ∀ c ∈ (frac ++ (exp ++ rest)).head?, c.isDigit = false := by
    obtain rfl | ⟨ds, rfl, -, -⟩ := h.frac
    · exact fun c hc => (hexpHead c hc).1
    · simp
  obtain rfl | ⟨d, ds, rfl, hd, hds⟩ := h.whole
  · simp [number?, hfrac, hexp, numeralValue]
    split <;> rfl
  · have hdigits := digits_append hds hfracHead
    simp only [List.cons_append] at hdigits
    simp [number?, hdigits, hd, hfrac, hexp, numeralValue]
    split <;> rfl

/-! ## Integers -/

theorem toDigits_areDigits (n : Nat) : AreDigits (Nat.toDigits 10 n) :=
  fun _ hc => Nat.isDigit_of_mem_toDigits (by decide) (by decide) hc

/-- The digits of a positive number start with a digit that is not zero. -/
theorem toDigits_eq_cons {n : Nat} (h : n ≠ 0) :
    ∃ d ds, Nat.toDigits 10 n = d :: ds ∧ d ≠ '0' := by
  induction n using Nat.strongRecOn with
  | ind n ih =>
    rw [Nat.toDigits_eq_if (by decide)]
    split
    · rename_i hlt
      have hdigit : ∀ m < 10, m ≠ 0 → Nat.digitChar m ≠ '0' := by decide
      exact ⟨_, _, rfl, hdigit n hlt h⟩
    · rename_i hge
      obtain ⟨d, ds, hd, hne⟩ := ih (n / 10) (by omega) (by omega)
      exact ⟨d, _, by rw [hd]; rfl, hne⟩

theorem toDigits_isNumeral (n : Nat) : IsNumeral (Nat.toDigits 10 n) [] [] where
  whole := by
    by_cases h : n = 0
    · subst h
      exact .inl (by decide)
    · obtain ⟨d, ds, hd, hne⟩ := toDigits_eq_cons h
      exact .inr ⟨d, ds, hd, hne, hd ▸ toDigits_areDigits n⟩
  frac := .inl rfl
  exp := .inl rfl

theorem digitsValue_toDigits (n : Nat) : Decimal.digitsValue (Nat.toDigits 10 n) = n := by
  simpa [Decimal.digitsValue, Nat.ofDigitChars_eq_foldl] using
    Nat.ofDigitChars_ten_toDigits (n := n)

/-! ## Floating-point numbers -/

/-- A grid point that rounds to a positive number is not zero. -/
theorem onGrid?_digits_ne_zero {v : Decimal.Scaled} (hv : v.m ≠ 0) {e : Int} {p : Decimal.Point}
    (h : v.onGrid? e = some p) : p.digits ≠ 0 := by
  simp only [Decimal.Scaled.onGrid?] at h
  -- The lower end of the interval is positive, so zero is outside of it.
  have hpower (b n : Nat) (hb : 0 < b) : 0 < Nat.pow b n := Nat.pow_pos hb
  have hpos : 0 < (4 * v.m - if v.edge then 1 else 2) *
      (Nat.pow 2 (v.q - 2).toNat * Nat.pow 10 (-e).toNat) := by
    refine Nat.mul_pos (by split <;> omega) (Nat.mul_pos (hpower 2 _ ?_) (hpower 10 _ ?_)) <;>
      decide
  generalize (4 * v.m - if v.edge then 1 else 2) *
    (Nat.pow 2 (v.q - 2).toNat * Nat.pow 10 (-e).toNat) = lo at h hpos
  intro hp
  split at h
  · cases h
  · rename_i hin _
    cases h
    simp only at hp
    rw [hp] at hin
    simp at hin
    omega
  · cases h
    simp at hp
  · rename_i hin _
    split at h
    · cases h
      simp only at hp
      rw [hp] at hin
      simp at hin
      omega
    · cases h
      simp at hp

theorem shortestFrom_digits_ne_zero {v : Decimal.Scaled} (hv : v.m ≠ 0) (k : Int) (fuel n : Nat) :
    (v.shortestFrom k fuel n).digits ≠ 0 := by
  induction fuel generalizing n with
  | zero => simp [Decimal.Scaled.shortestFrom]; omega
  | succ fuel ih =>
    simp only [Decimal.Scaled.shortestFrom]
    split
    · rename_i p hp
      exact onGrid?_digits_ne_zero hv hp
    · exact ih (n + 1)

/-- The digits of a point of a decimal grid start with one that is not zero. -/
theorem parts_eq_cons {p : Decimal.Point} (hp : p.digits ≠ 0) :
    AreDigits p.parts.1 ∧ ∃ d rest, p.parts.1 = d :: rest ∧ d ≠ '0' := by
  obtain ⟨d, ds, hds, hd⟩ := toDigits_eq_cons hp
  have hall := toDigits_areDigits p.digits
  -- Only zeros at the end are dropped, so what is kept is a prefix that holds the first digit.
  have hkept : p.parts.1 <+: Nat.toDigits 10 p.digits := by
    have := List.dropWhile_suffix (· == '0') (l := (Nat.toDigits 10 p.digits).reverse)
    simpa [Decimal.Point.parts] using List.reverse_prefix.mpr this
  refine ⟨fun c hc => hall c (hkept.subset hc), ?_⟩
  obtain ⟨rest, hrest⟩ := hkept
  cases hparts : p.parts.1 with
  | nil =>
    have hzero : ∀ c ∈ Nat.toDigits 10 p.digits, c = '0' := by
      simpa [Decimal.Point.parts, List.dropWhile_eq_nil_iff] using hparts
    exact absurd (hzero d (by simp [hds])) hd
  | cons c cs =>
    rw [hparts, hds] at hrest
    obtain ⟨rfl, -⟩ := List.cons.inj hrest
    exact ⟨c, cs, rfl, hd⟩

/-- The digits of an exponent: at least two. -/
def exponentDigits (n : Nat) : List Char :=
  if (Nat.toDigits 10 n).length < 2 then '0' :: Nat.toDigits 10 n else Nat.toDigits 10 n

theorem exponentDigits_ne_nil (n : Nat) : exponentDigits n ≠ [] := by
  unfold exponentDigits
  split
  · simp
  · exact Nat.toDigits_ne_nil

theorem exponentDigits_areDigits (n : Nat) : AreDigits (exponentDigits n) := by
  intro c hc
  have hds := toDigits_areDigits n
  unfold exponentDigits at hc
  split at hc
  · obtain rfl | hc := List.mem_cons.mp hc
    · decide
    · exact hds c hc
  · exact hds c hc

/-- Digits and the place of the point: a zero in front is a zero alone. -/
def AreLeading (ds : List Char) (point : Int) : Prop :=
  ds = ['0'] ∧ point = 1 ∨ ∃ d rest, ds = d :: rest ∧ d ≠ '0'

theorem areDigits_zeros (n : Nat) : AreDigits (List.replicate n '0') := by
  intro c hc
  rw [List.eq_of_mem_replicate hc]
  decide

theorem areDigits_append {ds es : List Char} (hds : AreDigits ds) (hes : AreDigits es) :
    AreDigits (ds ++ es) := fun c hc => (List.mem_append.mp hc).elim (hds c) (hes c)

/-- A whole part of leading digits is a numeral with any fraction. -/
theorem isNumeral_point {whole frac : List Char}
    (hwhole : whole = ['0'] ∨ ∃ d ds, whole = d :: ds ∧ d ≠ '0' ∧ AreDigits (d :: ds))
    (hne : frac ≠ []) (hfrac : AreDigits frac) : IsNumeral whole ('.' :: frac) [] :=
  ⟨hwhole, .inr ⟨frac, rfl, hne, hfrac⟩, .inl rfl⟩

theorem isNumeral_digit {d : Char} (hd : d.isDigit = true) : IsNumeral [d] [] [] := by
  refine ⟨?_, .inl rfl, .inl rfl⟩
  by_cases hzero : d = '0'
  · exact .inl (by rw [hzero])
  · exact .inr ⟨d, [], rfl, hzero, by simpa [AreDigits] using hd⟩

theorem IsNumeral.exponent {whole frac : List Char} {sign : Char} (h : IsNumeral whole frac [])
    (hsign : sign = '+' ∨ sign = '-') (n : Nat) :
    IsNumeral whole frac ('e' :: sign :: exponentDigits n) :=
  ⟨h.whole, h.frac,
    .inr ⟨sign, _, rfl, hsign, exponentDigits_ne_nil n, exponentDigits_areDigits n⟩⟩

/-- The digits before the point, filled up with zeros, start with the first digit. -/
theorem take_append_zeros_leading {ds : List Char} {n : Nat} (hall : AreDigits ds)
    (hlead : AreLeading ds (n + 1)) :
    let whole := ds.take (n + 1) ++ List.replicate (n + 1 - ds.length) '0'
    whole = ['0'] ∨ ∃ d ds, whole = d :: ds ∧ d ≠ '0' ∧ AreDigits (d :: ds) := by
  intro whole
  have hdigits : AreDigits whole :=
    areDigits_append (fun c hc => hall c (List.mem_of_mem_take hc)) (areDigits_zeros _)
  obtain ⟨rfl, hn⟩ | ⟨d, rest, rfl, hd⟩ := hlead
  · obtain rfl : n = 0 := by omega
    exact .inl rfl
  · exact .inr ⟨d, _, rfl, hd, hdigits⟩

/-- Digits written in the style of numbers are a numeral. -/
theorem layout_isNumeral {ds : List Char} {point : Int} (hall : AreDigits ds)
    (hlead : AreLeading ds point) :
    ∃ whole frac exp, IsNumeral whole frac exp ∧
      Decimal.number.layout ds point = whole ++ frac ++ exp := by
  have hne : ds ≠ [] := by
    obtain ⟨rfl, -⟩ | ⟨d, rest, rfl, -⟩ := hlead <;> simp
  simp only [Decimal.Style.layout]
  split
  · split
    · have hfrac := areDigits_append (areDigits_zeros (-point).toNat) hall
      exact ⟨['0'], _, [], isNumeral_point (.inl rfl) (by simp [hne]) hfrac, by simp⟩
    · obtain ⟨n, rfl⟩ : ∃ n : Nat, point = n + 1 := ⟨(point - 1).toNat, by omega⟩
      have hwhole := take_append_zeros_leading hall hlead
      rw [Int.toNat_natCast_add_one]
      split
      · exact ⟨_, _, [], isNumeral_point hwhole (List.cons_ne_nil '0' []) (areDigits_zeros 1),
          by simp [Decimal.number]⟩
      · rename_i hdrop
        have hfrac : AreDigits (ds.drop (n + 1)) := fun c hc => hall c (List.mem_of_mem_drop hc)
        exact ⟨_, _, [], isNumeral_point hwhole hdrop hfrac, by simp⟩
  · have hsign : (if point - 1 < 0 then '-' else '+') = '+'
        ∨ (if point - 1 < 0 then '-' else '+') = '-' := by
      split <;> simp
    split
    · exact absurd rfl hne
    · rename_i d
      have hone := isNumeral_digit (hall d List.mem_cons_self)
      exact ⟨[d], [], _, hone.exponent hsign _, rfl⟩
    · rename_i d rest hrest
      have hone := isNumeral_digit (hall d List.mem_cons_self)
      have hfrac : AreDigits rest := fun c hc => hall c (List.mem_cons_of_mem d hc)
      have hpoint := isNumeral_point hone.whole hrest hfrac
      exact ⟨[d], '.' :: rest, _, hpoint.exponent hsign _, rfl⟩

/-! ## Scalars -/

/-- The sign in front of a number. -/
def sign (neg : Bool) : List Char := if neg then ['-'] else []

theorem scalar?_numeral {whole frac exp rest : List Char} (h : IsNumeral whole frac exp)
    (hrest : EndsNumber rest) (neg : Bool) :
    scalar? (sign neg ++ (whole ++ frac ++ exp) ++ rest)
      = some (numeralValue neg whole frac exp, rest) := by
  have hnumber := number?_numeral h hrest neg
  -- The first digit is none of the letters that a word starts with.
  obtain ⟨d, ds, hwhole, hd⟩ : ∃ d ds, whole = d :: ds ∧ d.isDigit = true := by
    obtain rfl | ⟨d, ds, rfl, -, hds⟩ := h.whole
    · exact ⟨'0', [], rfl, by decide⟩
    · exact ⟨d, ds, rfl, hds d List.mem_cons_self⟩
  have hne : ∀ c : Char, c.isDigit = false → c ≠ d := by
    rintro c hc rfl
    simp [hd] at hc
  subst hwhole
  cases neg with
  | false =>
    simp only [List.cons_append] at hnumber
    have hminus : d ≠ '-' := (hne '-' rfl).symm
    simp [scalar?, sign, Text.dropExact?, hne 'n' rfl, hne 't' rfl, hne 'f' rfl, hne 'N' rfl,
      hne 'I' rfl, hne '-' rfl]
    split
    · rename_i heq
      exact absurd (List.cons.inj heq).1 hminus
    · simpa using hnumber
  | true =>
    simp [scalar?, sign, Text.dropExact?, hne 'I' rfl]
    simpa using hnumber

theorem scalar?_int (n : Int) (rest : List Char) (hrest : EndsNumber rest) :
    scalar? ((toString n).toList ++ rest) = some (.int n, rest) := by
  have h := fun m neg => scalar?_numeral (toDigits_isNumeral m) hrest neg
  rw [Int.toString_eq_repr, Int.repr_eq_if]
  split
  · rename_i hn
    have := h n.toNat false
    simp [sign, numeralValue, digitsValue_toDigits] at this
    simp [this]
    omega
  · rename_i hn
    have := h (-n).toNat true
    simp [sign, numeralValue, digitsValue_toDigits] at this
    simp [this]
    omega

/-- What is read from the text of a floating-point number. -/
def floatBack (x : Float) : Value := ((scalar? (number x).toList).map (·.1)).getD .none

theorem scalar?_number (x : Float) (rest : List Char) (hrest : EndsNumber rest) :
    scalar? ((number x).toList ++ rest) = some (floatBack x, rest) := by
  suffices h : ∃ v, ∀ rest, EndsNumber rest →
      scalar? ((number x).toList ++ rest) = some (v, rest) by
    obtain ⟨v, hv⟩ := h
    have hnil := hv [] (by simp [EndsNumber])
    rw [List.append_nil] at hnil
    simp [hv rest hrest, floatBack, hnil]
  unfold number
  split
  · exact ⟨_, fun rest _ => by simp [scalar?, Text.dropExact?]; rfl⟩
  · split
    · split
      · exact ⟨_, fun rest _ => by simp [scalar?, Text.dropExact?]; rfl⟩
      · exact ⟨_, fun rest _ => by simp [scalar?, Text.dropExact?]; rfl⟩
    · rename_i hnan hinf
      obtain ⟨ds, point, heq, hall, hlead⟩ : ∃ ds point,
          (if (Decimal.ofBits x.toBits).2.m = 0 then (['0'], 1)
            else (Decimal.ofBits x.toBits).2.shortest.parts) = (ds, point) ∧
          AreDigits ds ∧ AreLeading ds point := by
        split
        · exact ⟨['0'], 1, rfl, by simp [AreDigits], .inl ⟨rfl, rfl⟩⟩
        · rename_i hm
          have hparts := parts_eq_cons
            (shortestFrom_digits_ne_zero hm (Decimal.ofBits x.toBits).2.magnitude 18 1)
          exact ⟨_, _, rfl, hparts.1, .inr hparts.2⟩
      obtain ⟨whole, frac, exp, hnum, hlayout⟩ := layout_isNumeral hall hlead
      refine ⟨numeralValue (Decimal.ofBits x.toBits).1 whole frac exp, fun rest hrest => ?_⟩
      have hwrite : (Decimal.number.write x).toList =
          sign (Decimal.ofBits x.toBits).1 ++ (whole ++ frac ++ exp) := by
        simp only [Decimal.Style.write, hnan, hinf, Bool.false_eq_true, ↓reduceIte, beq_iff_eq,
          heq, hlayout, String.toList_ofList]
        rfl
      rw [hwrite]
      exact scalar?_numeral hnum hrest (Decimal.ofBits x.toBits).1

end Docsmith.Json
