-- SUMMARY: Laws of looking up and putting things under texts.
import Docsmith.Value.Access
import Mathlib.Data.List.Nodup

/-!
# Things under texts

A value equals a text only if it is that text. Putting under a text changes
what is found under it and nothing else. Where every key is a text that stands
once, the list is a map from texts.
-/

namespace Docsmith

theorem Value.same_str_iff {v : Value} {t : String} : v.same (.str t) = true ↔ v = .str t := by
  cases v <;> simp [Value.same, Value.sameScalar, Value.integer?]

@[simp] theorem Value.str_same_str (s t : String) : (Value.str s).same (.str t) = (s == t) := by
  simp [Value.same, Value.sameScalar]

/-! ## Finding and putting -/

namespace Keyed

variable {β : Type}

@[simp] theorem get?_nil (key : Value) : get? ([] : Keyed β) key = none := rfl

theorem get?_cons (k : Value) (b : β) (es : Keyed β) (key : Value) :
    get? ((k, b) :: es) key = if k.same key then some b else get? es key := by
  by_cases h : k.same key <;> simp [get?, h]

@[simp] theorem get?_put_self (es : Keyed β) (key : String) (b : β) :
    (es.put (.str key) b).get? (.str key) = some b := by
  induction es with
  | nil => simp [put, get?_cons]
  | cons e es ih =>
    obtain ⟨k, old⟩ := e
    rw [put]
    split
    · rename_i h
      rw [get?_cons, if_pos h]
    · rename_i h
      rw [get?_cons, if_neg h, ih]

theorem get?_put_of_ne {key other : String} (h : key ≠ other) (es : Keyed β) (b : β) :
    (es.put (.str key) b).get? (.str other) = es.get? (.str other) := by
  induction es with
  | nil => simp [put, get?_cons, h]
  | cons e es ih =>
    obtain ⟨k, old⟩ := e
    rw [put]
    split
    · rename_i hk
      rw [Value.same_str_iff] at hk
      subst hk
      simp [get?_cons, h]
    · rw [get?_cons, get?_cons, ih]

theorem get?_eq_none_iff {es : Keyed β} {key : String} :
    es.get? (.str key) = none ↔ Value.str key ∉ es.map (·.1) := by
  induction es with
  | nil => simp
  | cons e es ih =>
    obtain ⟨k, b⟩ := e
    rw [get?_cons]
    split
    · rename_i h
      simp [Value.same_str_iff.mp h]
    · rename_i h
      have hk : Value.str key ≠ k := fun hk => h (Value.same_str_iff.mpr hk.symm)
      simp [ih, hk]

/-- What is found under a text is one of the things. -/
theorem mem_of_get?_eq_some {es : Keyed β} {key : String} {b : β}
    (h : es.get? (.str key) = some b) : (.str key, b) ∈ es := by
  induction es with
  | nil => cases h
  | cons e es ih =>
    obtain ⟨k, c⟩ := e
    rw [get?_cons] at h
    split at h
    · rename_i hk
      rw [Value.same_str_iff] at hk
      cases h
      exact hk ▸ List.mem_cons_self
    · exact List.mem_cons_of_mem _ (ih h)

theorem put_of_get?_eq_none {es : Keyed β} {key : Value} (h : es.get? key = none) (b : β) :
    es.put key b = es ++ [(key, b)] := by
  induction es with
  | nil => rfl
  | cons e es ih =>
    obtain ⟨k, old⟩ := e
    rw [get?_cons] at h
    split at h
    · cases h
    · rename_i hk
      simp [put, hk, ih h]

theorem keys_put_of_mem {es : Keyed β} {key : String} (h : .str key ∈ es.map (·.1)) (b : β) :
    (es.put (.str key) b).map (·.1) = es.map (·.1) := by
  induction es with
  | nil => cases h
  | cons e es ih =>
    obtain ⟨k, old⟩ := e
    rw [put]
    split
    · rfl
    · rename_i hk
      have hne : Value.str key ≠ k := fun heq => hk (Value.same_str_iff.mpr heq.symm)
      obtain heq | hmem := List.mem_cons.mp h
      · exact absurd heq hne
      · simpa using ih hmem

/-- What is there after putting was there, or was put. -/
theorem mem_put {es : Keyed β} {key : String} {b : β} {e : Value × β}
    (h : e ∈ es.put (.str key) b) : e ∈ es ∨ e = (.str key, b) := by
  induction es with
  | nil => exact .inr (List.mem_singleton.mp h)
  | cons d es ih =>
    obtain ⟨k, old⟩ := d
    rw [put] at h
    split at h
    · rename_i hk
      rw [Value.same_str_iff] at hk
      subst hk
      obtain rfl | hmem := List.mem_cons.mp h
      · exact .inr rfl
      · exact .inl (List.mem_cons_of_mem _ hmem)
    · obtain rfl | hmem := List.mem_cons.mp h
      · exact .inl List.mem_cons_self
      · exact (ih hmem).imp_left (List.mem_cons_of_mem _)

/-! ## Maps from texts -/

/-- The keys are texts, each of them once. -/
structure HasTextKeys (es : Keyed β) : Prop where
  texts : ∀ key ∈ es.map (·.1), ∃ k, key = .str k
  nodup : (es.map (·.1)).Nodup

theorem hasTextKeys_nil : HasTextKeys ([] : Keyed β) := ⟨by simp, by simp⟩

theorem HasTextKeys.of_keys_eq {γ : Type} {es : Keyed β} {fs : Keyed γ} (h : HasTextKeys es)
    (hkeys : fs.map (·.1) = es.map (·.1)) : HasTextKeys fs :=
  ⟨by rw [hkeys]; exact h.texts, by rw [hkeys]; exact h.nodup⟩

theorem HasTextKeys.put {es : Keyed β} (h : HasTextKeys es) (key : String) (b : β) :
    HasTextKeys (es.put (.str key) b) := by
  by_cases hmem : .str key ∈ es.map (·.1)
  · exact h.of_keys_eq (keys_put_of_mem hmem b)
  · rw [put_of_get?_eq_none (get?_eq_none_iff.mpr hmem)]
    have hkeys : (es ++ [(Value.str key, b)]).map (·.1) = es.map (·.1) ++ [.str key] := by
      simp
    refine ⟨fun k hk => ?_, ?_⟩
    · rw [hkeys] at hk
      obtain hk | hk := List.mem_append.mp hk
      · exact h.texts k hk
      · exact ⟨key, List.mem_singleton.mp hk⟩
    · rw [hkeys, ← List.concat_eq_append]
      exact h.nodup.concat hmem

theorem HasTextKeys.get?_of_mem {es : Keyed β} (h : HasTextKeys es) {key : String} {b : β}
    (hmem : (.str key, b) ∈ es) : es.get? (.str key) = some b := by
  obtain ⟨texts, nodup⟩ := h
  induction es with
  | nil => cases hmem
  | cons e es ih =>
    obtain ⟨k, c⟩ := e
    obtain ⟨hk, hnodup⟩ := List.nodup_cons.mp nodup
    obtain heq | hlater := List.mem_cons.mp hmem
    · cases heq
      simp [get?_cons]
    · have hne : ¬ k.same (.str key) = true := by
        rw [Value.same_str_iff]
        rintro rfl
        exact hk (List.mem_map.mpr ⟨_, hlater, rfl⟩)
      rw [get?_cons, if_neg hne]
      exact ih hlater (fun q hq => texts q (List.mem_cons_of_mem k hq)) hnodup

theorem hasTextKeys_ofFields {fields : List (String × β)} (h : (fields.map (·.1)).Nodup) :
    HasTextKeys (fields.map fun (k, b) => (.str k, b)) := by
  have hkeys : (fields.map fun (k, b) => (Value.str k, b)).map (·.1)
      = (fields.map (·.1)).map .str := by
    simp
  refine ⟨fun key hkey => ?_, ?_⟩
  · rw [hkeys] at hkey
    obtain ⟨k, -, rfl⟩ := List.mem_map.mp hkey
    exact ⟨k, rfl⟩
  · rw [hkeys]
    exact h.map fun _ _ heq => Value.str.inj heq

/-- A map from texts to things with a property. -/
structure IsMapTo (P : β → Prop) (es : Keyed β) : Prop where
  keys : HasTextKeys es
  all : ∀ e ∈ es, P e.2

theorem isMapTo_nil (P : β → Prop) : IsMapTo P ([] : Keyed β) := ⟨hasTextKeys_nil, by simp⟩

theorem IsMapTo.put {P : β → Prop} {es : Keyed β} (h : IsMapTo P es) (key : String) {b : β}
    (hb : P b) : IsMapTo P (es.put (.str key) b) := by
  refine ⟨h.keys.put key b, fun e he => ?_⟩
  obtain he | rfl := mem_put he
  · exact h.all e he
  · exact hb

theorem IsMapTo.of_get? {P : β → Prop} {es : Keyed β} (h : IsMapTo P es) {key : String} {b : β}
    (hb : es.get? (.str key) = some b) : P b :=
  h.all _ (mem_of_get?_eq_some hb)

end Keyed

/-! ## Dictionaries -/

namespace Entries

theorem getText?_eq_get? (es : Entries) (key : String) : es.getText? key = es.get? (.str key) := by
  induction es with
  | nil => rfl
  | cons e es ih =>
    obtain ⟨k, v⟩ := e
    rw [get?, Keyed.get?_cons]
    cases k with
    | str s => simp [getText?, ih]
    | _ => simp [getText?, Value.same, Value.sameScalar, Value.integer?, ih]

theorem getText?_cons (k v : Value) (es : Entries) (key : String) :
    getText? ((k, v) :: es) key = if k.same (.str key) then some v else getText? es key := by
  rw [getText?_eq_get?, get?, Keyed.get?_cons, getText?_eq_get?]

@[simp] theorem getText?_putText_same (es : Entries) (key : String) (v : Value) :
    (es.putText key v).getText? key = some v := by
  rw [getText?_eq_get?]
  exact Keyed.get?_put_self es key v

theorem getText?_putText_ne {key other : String} (h : key ≠ other) (es : Entries) (v : Value) :
    (es.putText key v).getText? other = es.getText? other := by
  rw [getText?_eq_get?, getText?_eq_get?]
  exact Keyed.get?_put_of_ne h es v

theorem getText?_eq_none_iff {es : Entries} {key : String} :
    es.getText? key = none ↔ Value.str key ∉ es.map (·.1) := by
  rw [getText?_eq_get?]
  exact Keyed.get?_eq_none_iff

theorem putText_of_getText?_eq_none {es : Entries} {key : String} (h : es.getText? key = none)
    (v : Value) : es.putText key v = es ++ [(.str key, v)] := by
  rw [getText?_eq_get?] at h
  exact Keyed.put_of_get?_eq_none h v

/-- Changing the values of entries changes the values that are found. -/
theorem getText?_mapValues (f : Value → Value) (es : Entries) (key : String) :
    getText? (es.map fun e => (e.1, f e.2)) key = (getText? es key).map f := by
  induction es with
  | nil => rfl
  | cons e es ih =>
    obtain ⟨k, v⟩ := e
    rw [List.map_cons, getText?_cons, getText?_cons]
    split
    · rfl
    · exact ih

end Entries

end Docsmith
