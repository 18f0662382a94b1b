-- SUMMARY: Laws of sorting texts, and things by texts.
import Docsmith.Text.Order
import Docsmith.Value.Order
import Mathlib.Data.List.Induction
import Mathlib.Data.List.Nodup

/-!
# Sorting by texts

Sorting gives the same things in increasing order. Values that are texts are
sorted as the texts are, and things whose keys are texts can always be sorted.
-/

namespace Docsmith

variable {α : Type}

/-! ## Texts -/

namespace Text

/-- The order of things by their texts. -/
def textLe (text : α → String) (a b : α) : Bool := !decide (text b < text a)

theorem textLe_iff {text : α → String} {a b : α} : textLe text a b = true ↔ text a ≤ text b := by
  unfold textLe
  rw [Bool.not_eq_true', decide_eq_false_iff_not]
  exact String.not_lt

theorem textLe_trans (text : α → String) (a b c : α) (hab : textLe text a b = true)
    (hbc : textLe text b c = true) : textLe text a c = true := by
  rw [textLe_iff] at hab hbc ⊢
  exact String.le_trans hab hbc

theorem textLe_total (text : α → String) (a b : α) :
    (textLe text a b || textLe text b a) = true := by
  rw [Bool.or_eq_true, textLe_iff, textLe_iff]
  exact String.le_total (text a) (text b)

theorem pairwise_mergeSort_textLe (text : α → String) (items : List α) :
    (items.mergeSort (textLe text)).Pairwise fun a b => text a ≤ text b := by
  have hpairs : (items.mergeSort (textLe text)).Pairwise fun a b => textLe text a b = true :=
    List.pairwise_mergeSort (textLe_trans text) (textLe_total text) items
  exact hpairs.imp textLe_iff.mp

theorem perm_sorted (ts : List String) : (sorted ts).Perm ts := List.mergeSort_perm ts _

theorem pairwise_sorted (ts : List String) : (sorted ts).Pairwise (· ≤ ·) :=
  pairwise_mergeSort_textLe id ts

theorem eraseDups_concat (ts : List String) (t : String) :
    (ts ++ [t]).eraseDups = ts.eraseDups ++ if t ∈ ts then [] else [t] := by
  rw [List.eraseDups_append]
  by_cases h : t ∈ ts <;> simp [List.removeAll, List.eraseDups_cons, h]

theorem nodup_eraseDups (ts : List String) : ts.eraseDups.Nodup := by
  induction ts using List.reverseRecOn with
  | nil => exact List.nodup_nil
  | append_singleton ts t ih =>
    rw [eraseDups_concat]
    split
    · rwa [List.append_nil]
    · rename_i h
      rw [← List.concat_eq_append]
      exact ih.concat fun hmem => h (List.mem_eraseDups.mp hmem)

theorem pairwise_lt_sorted {ts : List String} (h : ts.Nodup) : (sorted ts).Pairwise (· < ·) := by
  have hnodup : (sorted ts).Nodup := (perm_sorted ts).nodup_iff.mpr h
  apply ((pairwise_sorted ts).and hnodup).imp
  rintro a b ⟨hle, hne⟩
  by_contra hlt
  exact hne (String.le_antisymm hle (String.not_lt.mp hlt))

theorem pairwise_sortedDistinct (ts : List String) : (sortedDistinct ts).Pairwise (· < ·) :=
  pairwise_lt_sorted (nodup_eraseDups ts)

theorem mem_sortedDistinct {ts : List String} {t : String} : t ∈ sortedDistinct ts ↔ t ∈ ts := by
  rw [sortedDistinct, (perm_sorted _).mem_iff, List.mem_eraseDups]

end Text

/-! ## Values -/

namespace Value

/-- Things are sorted by their keys as by the texts that these are. -/
theorem sortedBy_texts {key : α → Value} {text : α → String} {items : List α}
    (h : ∀ a ∈ items, key a = .str (text a)) :
    sortedBy key items = .ok (items.mergeSort (Text.textLe text)) := by
  have hall : items.all (fun a => (key a).text?.isSome) = true := by
    rw [List.all_eq_true]
    intro a ha
    rw [h a ha]
    rfl
  have hsame : items.mergeSort (Text.textLe fun a => (key a).text?.getD "")
      = items.mergeSort (Text.textLe text) := by
    have hmap : (items.mergeSort (Text.textLe fun a => (key a).text?.getD "")).map id
        = (items.map id).mergeSort (Text.textLe text) := by
      apply List.map_mergeSort
      intro a ha b hb
      simp only [Text.textLe, h a ha, h b hb]
      rfl
    rwa [List.map_id, List.map_id] at hmap
  unfold sortedBy
  split
  · rename_i hshort
    congr 1
    symm
    apply List.mergeSort_of_pairwise
    match items, hshort with
    | [], _ => exact List.Pairwise.nil
    | [a], _ => exact List.pairwise_singleton _ a
  · exact congrArg Except.ok hsame

theorem sorted_texts (ts : List String) :
    sorted (ts.map .str) = .ok ((Text.sorted ts).map .str) := by
  have htexts : ∀ v ∈ ts.map Value.str, id v = .str (v.text?.getD "") := by
    intro v hv
    obtain ⟨t, -, rfl⟩ := List.mem_map.mp hv
    rfl
  rw [sorted, sortedBy_texts htexts, Text.sorted]
  congr 1
  symm
  apply List.map_mergeSort
  intro a _ b _
  rfl

end Value

end Docsmith
