-- SUMMARY: A written JSON text is read back.
import Docsmith.Proofs.Json.Numeral
import Docsmith.Proofs.Value.Keyed

/-!
# Written JSON is read back

Whatever `wide` writes can be read, and `readBack` says what comes out: sequences
become lists, keys become texts, a value that JSON does not know becomes its own
text, and a floating-point number what its text stands for. A value that is built
from texts, truth values, lists and dictionaries with different texts as keys comes back as it was.
-/

namespace Docsmith.Json

/-! ## Strings -/

theorem hexDigit?_digitChar : ∀ d < 16, hexDigit? (Nat.digitChar d) = some d := by decide

theorem hexPadded_control : ∀ n < 32,
    Text.hexPadded 4 n = ['0', '0', Nat.digitChar (n / 16), Nat.digitChar (n % 16)] := by decide

theorem escape?_control {c : Char} (h : c.toNat < 32) (r : List Char) :
    escape? ('u' :: (Text.hexPadded 4 c.toNat ++ r)) = some (c, r) := by
  have hhigh := hexDigit?_digitChar (c.toNat / 16) (by omega)
  have hlow := hexDigit?_digitChar (c.toNat % 16) (by omega)
  have hzero : hexDigit? '0' = some 0 := by decide
  have hval : c.toNat / 16 * 16 + c.toNat % 16 = c.toNat := by omega
  have hhex : hex4? (Text.hexPadded 4 c.toNat ++ r) = some (c.toNat, r) := by
    rw [hexPadded_control _ h]
    simp [hex4?, hzero, hhigh, hlow, hval]
  have hhighHalf : ¬ 0xD800 ≤ c.toNat := by omega
  have hlowHalf : ¬ 0xDC00 ≤ c.toNat := by omega
  simp [escape?, hhex, hhighHalf, hlowHalf]

theorem stringRest_plain {c : Char} (hq : c ≠ '"') (hb : c ≠ '\\') (hc : ¬ c.toNat < 32)
    (start fuel : Nat) (out r : List Char) :
    stringRest start (fuel + 1) out (c :: r) = stringRest start fuel (c :: out) r := by
  rw [stringRest]
  · rw [if_neg hc]
  · simpa using hq
  · simpa using hb

/-- A character of a string is read back at the cost of one unit of fuel. -/
theorem stringRest_char (start fuel : Nat) (out : List Char) (c : Char) (r : List Char) :
    stringRest start (fuel + 1) out (char false c ++ r) = stringRest start fuel (c :: out) r := by
  fun_cases char false c with
  | case8 _ _ _ _ _ _ _ h => simp [stringRest, escape?_control h]
  | case9 hq hb _ _ _ _ _ h =>
    exact stringRest_plain (by simpa using hq) (by simpa using hb) h start fuel out r
  | _ => simp_all [stringRest, escape?]

theorem stringRest_chars (start : Nat) (s : List Char) (fuel : Nat) (out r : List Char)
    (hfuel : s.length < fuel) :
    stringRest start fuel out (s.flatMap (char false) ++ '"' :: r)
      = .ok (String.ofList (out.reverse ++ s), r) := by
  induction s generalizing fuel out with
  | nil =>
    obtain ⟨fuel, rfl⟩ := Nat.exists_eq_add_one_of_ne_zero (Nat.ne_of_gt hfuel)
    simp [stringRest]
  | cons c cs ih =>
    obtain ⟨fuel, rfl⟩ := Nat.exists_eq_add_one_of_ne_zero (Nat.ne_of_gt (Nat.zero_lt_of_lt hfuel))
    rw [List.flatMap_cons, List.append_assoc, stringRest_char,
      ih fuel (c :: out) (by simpa using hfuel)]
    simp

theorem char_ne_nil (c : Char) : char false c ≠ [] := by
  fun_cases char false c <;> simp_all

theorem length_le_length_flatMap_char (s : List Char) :
    s.length ≤ (s.flatMap (char false)).length := by
  induction s with
  | nil => exact Nat.le_refl 0
  | cons c cs ih =>
    have hc := List.length_pos_iff.mpr (char_ne_nil c)
    rw [List.flatMap_cons, List.length_append, List.length_cons]
    omega

/-- The text of a string, taken apart. -/
theorem toList_string (s : String) :
    (string false s).toList = '"' :: (s.toList.flatMap (char false) ++ ['"']) := by
  simp [string]

theorem stringRest_string (start : Nat) (s : String) (r : List Char) :
    stringRest start ((s.toList.flatMap (char false) ++ '"' :: r).length + 1) []
      (s.toList.flatMap (char false) ++ '"' :: r) = .ok (s, r) := by
  have hlen := length_le_length_flatMap_char s.toList
  have hfuel : s.toList.length < (s.toList.flatMap (char false) ++ '"' :: r).length + 1 := by
    rw [List.length_append]
    omega
  rw [stringRest_chars start s.toList _ [] r hfuel]
  simp

/-! ## What is read back -/

mutual

/-- What a value becomes when it is written and read back. -/
def readBack : Value → Value
  | .none => .none
  | .bool b => .bool b
  | .int n => .int n
  | .float x => floatBack x
  | .str s => .str s
  | .list xs => .list (readBackItems xs)
  | .tuple xs => .list (readBackItems xs)
  | .dict es => .dict (readBackEntries [] es)
  | v => .str v.display

/-- What items become when they are written and read back. -/
def readBackItems : List Value → List Value
  | [] => []
  | x :: xs => readBack x :: readBackItems xs

/-- What entries become, put one after the other to those found before. -/
def readBackEntries (found : Entries) : List (Value × Value) → Entries
  | [] => found
  | (k, v) :: es => readBackEntries (found.putText ((name? k).getD "") (readBack v)) es

end

theorem readBackItems_eq_map (xs : List Value) : readBackItems xs = xs.map readBack := by
  induction xs with
  | nil => rfl
  | cons x xs ih => simp [readBackItems, ih]

/-! ## Layout -/

/-- The line break and the blanks in front of a member. -/
def pad (k : Nat) : List Char := '\n' :: List.replicate (2 * k) ' '

/-- The text of members between their brackets. -/
def joined (level : Nat) (ts : List String) : List Char :=
  List.intercalate (',' :: pad level) (ts.map String.toList)

theorem joined_singleton (level : Nat) (t : String) : joined level [t] = t.toList := by
  simp [joined]

theorem joined_cons_cons (level : Nat) (t u : String) (us : List String) :
    joined level (t :: u :: us) = t.toList ++ (',' :: (pad level ++ joined level (u :: us))) := by
  simp [joined]

theorem toList_group (level : Nat) (opening closing t : String) (ts : List String) :
    (wide.group level opening closing (t :: ts)).toList
      = opening.toList ++ (pad (level + 1) ++ (joined (level + 1) (t :: ts)
        ++ (pad level ++ closing.toList))) := by
  simp [Layout.group, wide, pad, joined]

theorem toList_member (name t : String) :
    (string wide.ascii name ++ wide.colon ++ t).toList
      = (string false name).toList ++ (':' :: ' ' :: t.toList) := by
  simp [wide]

theorem skip_cons {c : Char} (h : isSpace c = false) (r : List Char) : skip (c :: r) = c :: r := by
  simp [skip, h]

theorem skip_pad (k : Nat) (r : List Char) : skip (pad k ++ r) = skip r := by
  have hall : ∀ c ∈ pad k, isSpace c = true := by
    intro c hc
    obtain rfl | hc := List.mem_cons.mp hc
    · decide
    · rw [List.eq_of_mem_replicate hc]
      decide
  rw [skip, List.dropWhile_append_of_pos hall, skip]

theorem endsNumber_pad (k : Nat) (r : List Char) : EndsNumber (pad k ++ r) := by
  simp [EndsNumber, pad]

theorem endsNumber_comma (r : List Char) : EndsNumber (',' :: r) := by
  simp [EndsNumber]

/-! ## Values -/

theorem scalar?_eq_none {c : Char} (h : c = '"' ∨ c = '[' ∨ c = '\x7b') (r : List Char) :
    scalar? (c :: r) = none := by
  obtain rfl | rfl | rfl := h <;> simp [scalar?, Text.dropExact?, number?, digits]

theorem value_scalar {cs rest : List Char} {v : Value} (h : scalar? cs = some (v, rest))
    (fuel : Nat) : value (fuel + 1) cs = .ok (v, rest) := by
  rw [value.eq_def]
  dsimp only
  split
  · simp [scalar?_eq_none] at h
  · simp [scalar?_eq_none] at h
  · simp [scalar?_eq_none] at h
  · rw [h]

theorem value_string (s : String) (fuel : Nat) (rest : List Char) :
    value (fuel + 1) ((string false s).toList ++ rest) = .ok (.str s, rest) := by
  have hstring := stringRest_string
    ('"' :: (s.toList.flatMap (char false) ++ '"' :: rest)).length s rest
  simp only [toList_string, List.cons_append, List.append_assoc, List.nil_append, value, hstring]
  rfl

theorem memberName_string (s : String) (rest : List Char) :
    memberName ((string false s).toList ++ (':' :: rest)) = .ok (s, skip rest) := by
  have hstring := stringRest_string
    ('"' :: (s.toList.flatMap (char false) ++ '"' :: ':' :: rest)).length s (':' :: rest)
  simp only [toList_string, List.cons_append, List.append_assoc, List.nil_append, memberName,
    hstring]
  rfl

/-- The first character of a written value. -/
def StartsValue (cs : List Char) : Prop :=
  ∃ c r, cs = c :: r ∧ isSpace c = false ∧ c ≠ ']' ∧ c ≠ '\x7d'

theorem startsValue_append {cs : List Char} (h : StartsValue cs) (rest : List Char) :
    StartsValue (cs ++ rest) := by
  obtain ⟨c, r, rfl, hc⟩ := h
  exact ⟨c, r ++ rest, rfl, hc⟩

theorem skip_of_startsValue {cs : List Char} (h : StartsValue cs) : skip cs = cs := by
  obtain ⟨c, r, rfl, hc, -⟩ := h
  exact skip_cons hc r

theorem startsValue_string (s : String) : StartsValue (string false s).toList :=
  ⟨'"', _, toList_string s, by decide, by decide, by decide⟩

theorem startsValue_of_scalar? {cs : List Char} {found : Value × List Char}
    (h : scalar? cs = some found) : StartsValue cs := by
  cases cs with
  | nil => simp [scalar?, Text.dropExact?, number?, digits] at h
  | cons c r =>
    refine ⟨c, r, rfl, ?_, ?_, ?_⟩
    · refine Bool.eq_false_iff.mpr fun hc => ?_
      simp only [isSpace, Bool.or_eq_true, beq_iff_eq] at hc
      obtain ((rfl | rfl) | rfl) | rfl := hc <;>
        simp [scalar?, Text.dropExact?, number?, digits] at h
    · rintro rfl
      simp [scalar?, Text.dropExact?, number?, digits] at h
    · rintro rfl
      simp [scalar?, Text.dropExact?, number?, digits] at h

theorem startsValue_group (level : Nat) {opening : String} (closing : String) (ts : List String)
    (h : opening = "[" ∨ opening = "\x7b") :
    StartsValue (wide.group level opening closing ts).toList := by
  have hopening : StartsValue opening.toList := by
    obtain rfl | rfl := h <;> exact ⟨_, _, rfl, by decide, by decide, by decide⟩
  cases ts with
  | nil => simpa [Layout.group] using startsValue_append hopening closing.toList
  | cons t ts =>
    rw [toList_group]
    exact startsValue_append hopening _

theorem startsValue_write? {level : Nat} {v : Value} {t : String}
    (h : write? wide level v = some t) :
    StartsValue t.toList := by
  cases v with
  | none =>
    cases h
    exact ⟨_, _, rfl, by decide, by decide, by decide⟩
  | bool b =>
    cases h
    cases b <;> exact ⟨_, _, rfl, by decide, by decide, by decide⟩
  | int n =>
    cases h
    exact startsValue_of_scalar? (by simpa using scalar?_int n [] (by simp [EndsNumber]))
  | float x =>
    cases h
    exact startsValue_of_scalar? (by simpa using scalar?_number x [] (by simp [EndsNumber]))
  | list xs | tuple xs =>
    simp only [write?, Option.bind_eq_bind, Option.bind_eq_some_iff] at h
    obtain ⟨ts, -, h⟩ := h
    cases h
    exact startsValue_group level "]" ts (.inl rfl)
  | dict es =>
    simp only [write?, Option.bind_eq_bind, Option.bind_eq_some_iff] at h
    obtain ⟨ts, -, h⟩ := h
    cases h
    exact startsValue_group level "\x7d" ts (.inr rfl)
  | str s | bytes bs | imaginary x | ellipsis =>
    simp only [write?, wide, reduceIte, Option.some.injEq] at h
    subst h
    exact startsValue_string _

/-! ## Steps through arrays and objects -/

theorem value_openList {body : List Char} (h : StartsValue body) (fuel k : Nat) :
    value (fuel + 1) ('[' :: (pad k ++ body)) = items fuel [] body := by
  obtain ⟨c, r, rfl, hspace, hclose, -⟩ := h
  simp only [value, skip_pad, skip_cons hspace]
  split
  · rename_i heq
    exact absurd (List.cons.inj heq).1 hclose
  · rfl

theorem value_openDict {body : List Char} (h : StartsValue body) (fuel k : Nat) :
    value (fuel + 1) ('\x7b' :: (pad k ++ body)) = members fuel [] body := by
  obtain ⟨c, r, rfl, hspace, -, hclose⟩ := h
  simp only [value, skip_pad, skip_cons hspace]
  split
  · rename_i heq
    exact absurd (List.cons.inj heq).1 hclose
  · rfl

theorem items_last {fuel k : Nat} {cs rest : List Char} {v : Value}
    (h : value fuel cs = .ok (v, pad k ++ ']' :: rest)) (found : List Value) :
    items (fuel + 1) found cs = .ok (.list (v :: found).reverse, rest) := by
  simp only [items, h, bind, Except.bind, skip_pad, skip_cons (c := ']') rfl]

theorem items_more {fuel k : Nat} {cs next : List Char} {v : Value}
    (h : value fuel cs = .ok (v, ',' :: (pad k ++ next))) (hnext : StartsValue next)
    (found : List Value) :
    items (fuel + 1) found cs = items fuel (v :: found) next := by
  simp only [items, h, bind, Except.bind, skip_cons (c := ',') rfl, skip_pad,
    skip_of_startsValue hnext]

theorem members_last {fuel k : Nat} {name : String} {cs rest : List Char} {v : Value}
    (h : value fuel cs = .ok (v, pad k ++ '\x7d' :: rest)) (hcs : StartsValue cs)
    (found : Entries) :
    members (fuel + 1) found ((string false name).toList ++ (':' :: ' ' :: cs))
      = .ok (.dict (found.putText name v), rest) := by
  have hskip : skip (' ' :: cs) = cs := skip_of_startsValue hcs
  simp only [members, memberName_string, hskip, h, bind, Except.bind, skip_pad,
    skip_cons (c := '\x7d') rfl]

theorem members_more {fuel k : Nat} (name : String) {cs next : List Char} {v : Value}
    (h : value fuel cs = .ok (v, ',' :: (pad k ++ next))) (hcs : StartsValue cs)
    (hnext : StartsValue next) (found : Entries) :
    members (fuel + 1) found ((string false name).toList ++ (':' :: ' ' :: cs))
      = members fuel (found.putText name v) next := by
  have hskip : skip (' ' :: cs) = cs := skip_of_startsValue hcs
  simp only [members, memberName_string, hskip, h, bind, Except.bind, skip_cons (c := ',') rfl,
    skip_pad, skip_of_startsValue hnext]

theorem startsValue_joined {t : String} (h : StartsValue t.toList) (level : Nat)
    (ts : List String) : StartsValue (joined level (t :: ts)) := by
  cases ts with
  | nil => rwa [joined_singleton]
  | cons u us =>
    rw [joined_cons_cons]
    exact startsValue_append h _

theorem startsValue_writeItems? {level : Nat} {xs : List Value} {t : String} {ts : List String}
    (h : writeItems? wide level xs = some (t :: ts)) : StartsValue (joined level (t :: ts)) := by
  cases xs with
  | nil => cases h
  | cons x xs =>
    simp only [writeItems?, Option.bind_eq_bind, Option.bind_eq_some_iff] at h
    obtain ⟨_, ht, _, -, h⟩ := h
    cases h
    exact startsValue_joined (startsValue_write? ht) level ts

theorem startsValue_writeEntries? {level : Nat} {es : List (Value × Value)} {t : String}
    {ts : List String} (h : writeEntries? wide level es = some (t :: ts)) :
    StartsValue (joined level (t :: ts)) := by
  match es with
  | [] => cases h
  | e :: es =>
    simp only [writeEntries?, Option.bind_eq_bind, Option.bind_eq_some_iff] at h
    obtain ⟨name, -, text, -, _, -, h⟩ := h
    cases h
    refine startsValue_joined ?_ level ts
    rw [toList_member]
    exact startsValue_append (startsValue_string name) _

theorem readBackItems_of_writeItems?_nil {level : Nat} {xs : List Value}
    (h : writeItems? wide level xs = some []) : readBackItems xs = [] := by
  cases xs with
  | nil => rfl
  | cons x xs => simp [writeItems?, Option.bind_eq_some_iff] at h

theorem readBackEntries_of_writeEntries?_nil {level : Nat} {es : List (Value × Value)}
    (h : writeEntries? wide level es = some []) (found : Entries) :
    readBackEntries found es = found := by
  match es with
  | [] => rfl
  | e :: es => simp [writeEntries?, Option.bind_eq_some_iff] at h

/-- An array is read if its items are. -/
theorem value_list {level fuel : Nat} {xs : List Value} {ts : List String} {rest : List Char}
    (h : writeItems? wide (level + 1) xs = some ts)
    (hitems : ∀ t us, ts = t :: us → items fuel [] (joined (level + 1) (t :: us)
      ++ (pad level ++ ']' :: rest)) = .ok (.list (readBackItems xs), rest)) :
    value (fuel + 1) ((wide.group level "[" "]" ts).toList ++ rest)
      = .ok (.list (readBackItems xs), rest) := by
  cases ts with
  | nil =>
    rw [readBackItems_of_writeItems?_nil h]
    simp [Layout.group, value, skip_cons (c := ']') rfl]
  | cons t us =>
    have hstart := startsValue_append (startsValue_writeItems? h) (pad level ++ ']' :: rest)
    have hopen := value_openList hstart fuel (level + 1)
    simpa [toList_group] using hopen.trans (hitems t us rfl)

/-- An object is read if its members are. -/
theorem value_dict {level fuel : Nat} {es : List (Value × Value)} {ts : List String}
    {rest : List Char} (h : writeEntries? wide (level + 1) es = some ts)
    (hmembers : ∀ t us, ts = t :: us → members fuel [] (joined (level + 1) (t :: us)
      ++ (pad level ++ '\x7d' :: rest)) = .ok (.dict (readBackEntries [] es), rest)) :
    value (fuel + 1) ((wide.group level "\x7b" "\x7d" ts).toList ++ rest)
      = .ok (.dict (readBackEntries [] es), rest) := by
  cases ts with
  | nil =>
    rw [readBackEntries_of_writeEntries?_nil h]
    simp [Layout.group, value, skip_cons (c := '\x7d') rfl]
  | cons t us =>
    have hstart := startsValue_append (startsValue_writeEntries? h) (pad level ++ '\x7d' :: rest)
    have hopen := value_openDict hstart fuel (level + 1)
    simpa [toList_group] using hopen.trans (hmembers t us rfl)

mutual

/-- A written value is taken off the front of a text. -/
theorem value_write? (level : Nat) (v : Value) {t : String} (h : write? wide level v = some t)
    (fuel : Nat) (rest : List Char) (hfuel : t.toList.length < fuel) (hrest : EndsNumber rest) :
    value fuel (t.toList ++ rest) = .ok (readBack v, rest) := by
  obtain ⟨fuel, rfl⟩ := Nat.exists_eq_add_one_of_ne_zero (Nat.ne_of_gt (Nat.zero_lt_of_lt hfuel))
  cases v with
  | none =>
    cases h
    exact value_scalar (by simp [scalar?, Text.dropExact?]; rfl) fuel
  | bool b =>
    cases h
    cases b <;> exact value_scalar (by simp [scalar?, Text.dropExact?, readBack]) fuel
  | int n =>
    cases h
    exact value_scalar (scalar?_int n rest hrest) fuel
  | float x =>
    cases h
    exact value_scalar (scalar?_number x rest hrest) fuel
  | list xs | tuple xs =>
    simp only [write?, Option.bind_eq_bind, Option.bind_eq_some_iff] at h
    obtain ⟨ts, hts, h⟩ := h
    cases h
    refine value_list hts fun t us heq => ?_
    subst heq
    simp only [toList_group, List.length_append] at hfuel
    exact items_writeItems? (level + 1) xs hts fuel [] level rest (by simp at hfuel; omega)
  | dict es =>
    simp only [write?, Option.bind_eq_bind, Option.bind_eq_some_iff] at h
    obtain ⟨ts, hts, h⟩ := h
    cases h
    refine value_dict hts fun t us heq => ?_
    subst heq
    simp only [toList_group, List.length_append] at hfuel
    exact members_writeEntries? (level + 1) es hts fuel [] level rest (by simp at hfuel; omega)
  | str s | bytes bs | imaginary x | ellipsis =>
    simp only [write?, wide, reduceIte, Option.some.injEq] at h
    subst h
    exact value_string _ fuel rest

theorem items_writeItems? (level : Nat) (xs : List Value) {t : String} {ts : List String}
    (h : writeItems? wide level xs = some (t :: ts)) (fuel : Nat) (found : List Value)
    (close : Nat) (rest : List Char) (hfuel : (joined level (t :: ts)).length + 1 < fuel) :
    items fuel found (joined level (t :: ts) ++ (pad close ++ ']' :: rest))
      = .ok (.list (found.reverse ++ readBackItems xs), rest) := by
  obtain ⟨fuel, rfl⟩ := Nat.exists_eq_add_one_of_ne_zero (Nat.ne_of_gt (Nat.zero_lt_of_lt hfuel))
  cases xs with
  | nil => cases h
  | cons x xs =>
    simp only [writeItems?, Option.bind_eq_bind, Option.bind_eq_some_iff] at h
    obtain ⟨_, ht, _, hts, h⟩ := h
    cases h
    cases ts with
    | nil =>
      rw [joined_singleton] at hfuel ⊢
      have hvalue := value_write? level x ht fuel (pad close ++ ']' :: rest) (by omega)
        (endsNumber_pad _ _)
      rw [items_last hvalue found, readBackItems, readBackItems_of_writeItems?_nil hts]
      simp
    | cons u us =>
      rw [joined_cons_cons] at hfuel ⊢
      simp only [List.length_append, List.length_cons] at hfuel
      have hvalue := value_write? level x ht fuel
        (',' :: (pad level ++ (joined level (u :: us) ++ (pad close ++ ']' :: rest)))) (by omega)
        (endsNumber_comma _)
      have hmore := items_more hvalue (startsValue_append (startsValue_writeItems? hts) _) found
      have hitems := items_writeItems? level xs hts fuel (readBack x :: found) close rest (by omega)
      simpa [readBackItems] using hmore.trans hitems

theorem members_writeEntries? (level : Nat) (es : List (Value × Value)) {t : String}
    {ts : List String} (h : writeEntries? wide level es = some (t :: ts)) (fuel : Nat)
    (found : Entries) (close : Nat) (rest : List Char)
    (hfuel : (joined level (t :: ts)).length + 1 < fuel) :
    members fuel found (joined level (t :: ts) ++ (pad close ++ '\x7d' :: rest))
      = .ok (.dict (readBackEntries found es), rest) := by
  obtain ⟨fuel, rfl⟩ := Nat.exists_eq_add_one_of_ne_zero (Nat.ne_of_gt (Nat.zero_lt_of_lt hfuel))
  match es with
  | [] => cases h
  | (k, v) :: es =>
    simp only [writeEntries?, Option.bind_eq_bind, Option.bind_eq_some_iff] at h
    obtain ⟨name, hname, text, htext, _, hts, h⟩ := h
    cases h
    have hstart := startsValue_write? htext
    cases ts with
    | nil =>
      rw [joined_singleton, toList_member] at hfuel ⊢
      simp only [List.length_append, List.length_cons] at hfuel
      have hvalue := value_write? level v htext fuel (pad close ++ '\x7d' :: rest) (by omega)
        (endsNumber_pad _ _)
      rw [List.append_assoc, List.cons_append, List.cons_append,
        members_last hvalue (startsValue_append hstart _) found, readBackEntries, hname,
        readBackEntries_of_writeEntries?_nil hts]
      rfl
    | cons u us =>
      rw [joined_cons_cons, toList_member] at hfuel ⊢
      simp only [List.length_append, List.length_cons] at hfuel
      have hvalue := value_write? level v htext fuel
        (',' :: (pad level ++ (joined level (u :: us) ++ (pad close ++ '\x7d' :: rest)))) (by omega)
        (endsNumber_comma _)
      have hmore := members_more name hvalue (startsValue_append hstart _)
        (startsValue_append (startsValue_writeEntries? hts) _) found
      have hmembers := members_writeEntries? level es hts fuel
        (found.putText name (readBack v)) close rest (by omega)
      simpa [readBackEntries, hname] using hmore.trans hmembers

end

/-- Whatever is written one member to a line can be read. -/
theorem parse?_text? {v : Value} {text : String} (h : wide.text? v = some text) :
    parse? text = some (readBack v) := by
  have hskip := skip_of_startsValue (startsValue_write? h)
  have hvalue := value_write? 0 v h (text.toList.length + 1) [] (by omega) (by simp [EndsNumber])
  rw [List.append_nil] at hvalue
  simp only [parse?, read, hskip, hvalue, bind, Except.bind]
  rfl

/-! ## Objects -/

/-- New keys go to the end, in order. -/
theorem readBackEntries_append {found es : Entries} (h : Keyed.HasTextKeys (found ++ es)) :
    readBackEntries found es = found ++ es.map fun e => (e.1, readBack e.2) := by
  induction es generalizing found with
  | nil => simp [readBackEntries]
  | cons e es ih =>
    obtain ⟨k, v⟩ := e
    obtain ⟨key, rfl⟩ := h.texts k (by simp)
    have hnew : Value.str key ∉ found.map (·.1) := by
      intro hmem
      have hnodup := h.nodup
      rw [List.map_append] at hnodup
      exact List.disjoint_of_nodup_append hnodup hmem (by simp)
    have hput := Entries.putText_of_getText?_eq_none (Entries.getText?_eq_none_iff.mpr hnew)
      (readBack v)
    have hkeys : Keyed.HasTextKeys ((found ++ [(.str key, readBack v)]) ++ es) :=
      h.of_keys_eq (by simp)
    rw [readBackEntries, name?, Option.getD_some, hput, ih hkeys]
    simp

theorem readBack_dict {es : Entries} (h : Keyed.HasTextKeys es) :
    readBack (.dict es) = .dict (es.map fun e => (e.1, readBack e.2)) := by
  have hread : readBackEntries [] es = [] ++ es.map fun e => (e.1, readBack e.2) :=
    readBackEntries_append h
  rw [readBack, hread, List.nil_append]

theorem readBack_object {fields : List (String × Value)} (h : (fields.map (·.1)).Nodup) :
    readBack (.object fields) = .object (fields.map fun f => (f.1, readBack f.2)) := by
  rw [Value.object, readBack_dict (Keyed.hasTextKeys_ofFields h)]
  simp [Value.object]

theorem readBack_list (xs : List Value) : readBack (.list xs) = .list (xs.map readBack) := by
  rw [readBack, readBackItems_eq_map]

/-- A list of values that are read back as they are is itself read back as it is. -/
theorem readBack_list_eq_self {xs : List Value} (h : ∀ x ∈ xs, readBack x = x) :
    readBack (.list xs) = .list xs := by
  rw [readBack_list, List.map_congr_left h, List.map_id']

theorem readBack_object_eq_self {fields : List (String × Value)} (hnodup : (fields.map (·.1)).Nodup)
    (h : ∀ f ∈ fields, readBack f.2 = f.2) : readBack (.object fields) = .object fields := by
  have hfields : ∀ f ∈ fields, (f.1, readBack f.2) = f := fun f hf => by rw [h f hf]
  rw [readBack_object hnodup, List.map_congr_left hfields, List.map_id']

end Docsmith.Json
