-- SUMMARY: When values are equal: plain scalars, lists and objects.
import Docsmith.Proofs.Value.Keyed
import Mathlib.Data.List.Perm.Subperm

/-!
# Equal values

Plain scalars are equal only if they are the same. Objects are equal if the one
has every field of the other and they are of one size, in whatever order the
fields stand. Objects that are put together from groups of fields are equal
group by group, as long as the groups have no keys in common.
-/

namespace Docsmith.Value

/-! ## Scalars and lists -/

/-- Missing, a truth value or a text. -/
def IsPlain : Value → Prop
  | .none | .bool _ | .str _ => True
  | _ => False

@[simp] theorem int_same_int (m n : Int) : (Value.int m).same (.int n) = (m == n) := by
  simp [same, sameScalar, integer?]

@[simp] theorem bool_same_bool (a b : Bool) : (Value.bool a).same (.bool b) = (a == b) := by
  cases a <;> cases b <;> rfl

theorem same_iff_of_isPlain {v w : Value} (hv : v.IsPlain) (hw : w.IsPlain) :
    v.same w = true ↔ v = w := by
  cases v with
  | none => cases w <;> simp [same, sameScalar, integer?, IsPlain] at hw ⊢
  | bool a =>
    cases w with
    | bool b => simp
    | none => simp [same, sameScalar, integer?]
    | str t => simp [same, sameScalar, integer?]
    | _ => exact hw.elim
  | str s => cases w <;> simp [same, sameScalar, integer?, IsPlain] at hw ⊢
  | _ => exact hv.elim

theorem same_list_map_iff {α : Type} {data : α → Value} {P : α → Prop}
    (h : ∀ {a b}, P a → P b → ((data a).same (data b) = true ↔ a = b)) {as bs : List α}
    (has : ∀ a ∈ as, P a) (hbs : ∀ b ∈ bs, P b) :
    (Value.list (as.map data)).same (.list (bs.map data)) = true ↔ as = bs := by
  simp only [same]
  induction as generalizing bs with
  | nil => cases bs <;> simp [sameItems]
  | cons a as ih =>
    cases bs with
    | nil => simp [sameItems]
    | cons b bs =>
      obtain ⟨ha, has⟩ := List.forall_mem_cons.mp has
      obtain ⟨hb, hbs⟩ := List.forall_mem_cons.mp hbs
      rw [List.map_cons, List.map_cons, sameItems, Bool.and_eq_true, h ha hb, ih has hbs,
        List.cons.injEq]

theorem same_texts_iff (ss ts : List String) : (texts ss).same (texts ts) = true ↔ ss = ts := by
  apply same_list_map_iff (P := fun _ => True)
  · simp
  · simp
  · simp

/-! ## Objects -/

/-- Every field of the first list has one of the same name and an equal value in the second. -/
def Matches (fs gs : List (String × Value)) : Prop :=
  ∀ f ∈ fs, ∃ g ∈ gs, f.1 = g.1 ∧ f.2.same g.2 = true

variable {fs gs fs' gs' : List (String × Value)}

theorem same_object_iff :
    (object fs).same (object gs) = true ↔ fs.length = gs.length ∧ Matches fs gs := by
  have hobject (fs : List (String × Value)) : object fs = .dict (fs.map fun f => (.str f.1, f.2)) :=
    rfl
  have hentries : sameEntries (fs.map fun f => (.str f.1, f.2)) (gs.map fun f => (.str f.1, f.2))
      = true ↔ Matches fs gs := by
    induction fs with
    | nil => simp [sameEntries, Matches]
    | cons f fs ih =>
      rw [List.map_cons, sameEntries, Bool.and_eq_true, ih, Matches, Matches, List.forall_mem_cons]
      simp
  rw [hobject, hobject, same, Bool.and_eq_true, hentries]
  simp

@[simp] theorem same_object_nil : (object []).same (object []) = true := rfl

theorem Matches.length_le (h : Matches fs gs) (hnodup : (fs.map (·.1)).Nodup) :
    fs.length ≤ gs.length := by
  have hkeys : fs.map (·.1) ⊆ gs.map (·.1) := by
    intro k hk
    obtain ⟨f, hf, rfl⟩ := List.mem_map.mp hk
    obtain ⟨g, hg, hkey, -⟩ := h f hf
    exact hkey ▸ List.mem_map_of_mem hg
  simpa using (hnodup.subperm hkeys).length_le

/-- Fields are matched group by group if the groups have no names in common. -/
theorem matches_append_iff (h : ∀ f ∈ fs, ∀ g ∈ gs', f.1 ≠ g.1) (h' : ∀ f ∈ fs', ∀ g ∈ gs, f.1 ≠ g.1) :
    Matches (fs ++ fs') (gs ++ gs') ↔ Matches fs gs ∧ Matches fs' gs' := by
  constructor
  · intro hmatches
    constructor
    · intro f hf
      obtain ⟨g, hg, hkey, hsame⟩ := hmatches f (List.mem_append_left _ hf)
      obtain hg | hg := List.mem_append.mp hg
      · exact ⟨g, hg, hkey, hsame⟩
      · exact absurd hkey (h f hf g hg)
    · intro f hf
      obtain ⟨g, hg, hkey, hsame⟩ := hmatches f (List.mem_append_right _ hf)
      obtain hg | hg := List.mem_append.mp hg
      · exact absurd hkey (h' f hf g hg)
      · exact ⟨g, hg, hkey, hsame⟩
  · rintro ⟨hmatches, hmatches'⟩ f hf
    obtain hf | hf := List.mem_append.mp hf
    · obtain ⟨g, hg, hfield⟩ := hmatches f hf
      exact ⟨g, List.mem_append_left _ hg, hfield⟩
    · obtain ⟨g, hg, hfield⟩ := hmatches' f hf
      exact ⟨g, List.mem_append_right _ hg, hfield⟩

/-- Objects that start with fields of the same name. -/
theorem same_object_cons {k : String} {v w : Value} (hfs : k ∉ fs.map (·.1))
    (hgs : k ∉ gs.map (·.1)) : (object ((k, v) :: fs)).same (object ((k, w) :: gs)) = true
      ↔ v.same w = true ∧ (object fs).same (object gs) = true := by
  have hkey : ∀ f ∈ [(k, v)], ∀ g ∈ gs, f.1 ≠ g.1 := by
    rintro f hf g hg heq
    obtain rfl := List.mem_singleton.mp hf
    exact hgs (List.mem_map.mpr ⟨g, hg, heq.symm⟩)
  have hkey' : ∀ f ∈ fs, ∀ g ∈ [(k, w)], f.1 ≠ g.1 := by
    rintro f hf g hg heq
    obtain rfl := List.mem_singleton.mp hg
    exact hfs (List.mem_map.mpr ⟨f, hf, heq⟩)
  have hhead : Matches [(k, v)] [(k, w)] ↔ v.same w = true := by
    simp [Matches]
  have hmatches := matches_append_iff hkey hkey'
  rw [List.singleton_append, List.singleton_append, hhead] at hmatches
  rw [same_object_iff, same_object_iff, hmatches, List.length_cons, List.length_cons,
    Nat.add_right_cancel_iff]
  exact and_left_comm

/-- Objects of two groups of fields, with names from two lists that have none in common. -/
theorem same_object_append {ks ls : List String} (hnames : (ks ++ ls).Nodup)
    (hfs : (fs.map (·.1)).Sublist ks) (hgs : (gs.map (·.1)).Sublist ks)
    (hfs' : (fs'.map (·.1)).Sublist ls) (hgs' : (gs'.map (·.1)).Sublist ls) :
    (object (fs ++ fs')).same (object (gs ++ gs')) = true
      ↔ (object fs).same (object gs) = true ∧ (object fs').same (object gs') = true := by
  obtain ⟨hks, hls, hdisjoint⟩ := List.nodup_append.mp hnames
  have hne : ∀ f ∈ fs, ∀ g ∈ gs', f.1 ≠ g.1 := fun f hf g hg =>
    hdisjoint _ (hfs.subset (List.mem_map_of_mem hf)) _ (hgs'.subset (List.mem_map_of_mem hg))
  have hne' : ∀ f ∈ fs', ∀ g ∈ gs, f.1 ≠ g.1 := fun f hf g hg heq =>
    hdisjoint _ (hgs.subset (List.mem_map_of_mem hg)) _ (hfs'.subset (List.mem_map_of_mem hf))
      heq.symm
  rw [same_object_iff, same_object_iff, same_object_iff, matches_append_iff hne hne',
    List.length_append, List.length_append]
  constructor
  · rintro ⟨hlength, hmatches, hmatches'⟩
    have hle := hmatches.length_le (hks.sublist hfs)
    have hle' := hmatches'.length_le (hls.sublist hfs')
    exact ⟨⟨by omega, hmatches⟩, ⟨by omega, hmatches'⟩⟩
  · rintro ⟨⟨hlength, hmatches⟩, ⟨hlength', hmatches'⟩⟩
    exact ⟨by omega, hmatches, hmatches'⟩

/-- Objects whose fields are only there under a condition. -/
theorem same_object_ite {p q : Prop} [Decidable p] [Decidable q] (hfs : fs ≠ []) (hgs : gs ≠ []) :
    (object (if p then fs else [])).same (object (if q then gs else [])) = true
      ↔ (p ↔ q) ∧ (p → (object fs).same (object gs) = true) := by
  by_cases hp : p <;> by_cases hq : q
  · simp [hp, hq]
  · simp [hp, hq, same_object_iff, hfs]
  · simp [hp, hq, same_object_iff, Nat.ne_of_lt (List.length_pos_iff.mpr hgs)]
  · simp [hp, hq]

theorem names_ite_sublist {p : Prop} [Decidable p] {ks : List String}
    (h : fs.map (·.1) = ks) : ((if p then fs else []).map (·.1)).Sublist ks := by
  split
  · exact h ▸ List.Sublist.refl _
  · exact List.nil_sublist ks

/-- Objects of texts are equal if they have the same fields in some order. -/
theorem same_object_texts {ss ts : List (String × String)} (hnodup : (ss.map (·.1)).Nodup) :
    (object (ss.map fun (k, t) => (k, .str t))).same (object (ts.map fun (k, t) => (k, .str t)))
      = true ↔ ss.Perm ts := by
  have hmatches : Matches (ss.map fun (k, t) => (k, .str t)) (ts.map fun (k, t) => (k, .str t))
      ↔ ss ⊆ ts := by
    constructor
    · rintro h ⟨k, t⟩ hmem
      obtain ⟨g, hg, hkey, hsame⟩ := h (k, .str t) (List.mem_map_of_mem hmem)
      obtain ⟨⟨l, u⟩, hmem', rfl⟩ := List.mem_map.mp hg
      obtain rfl : k = l := hkey
      obtain rfl : t = u := by simpa using hsame
      exact hmem'
    · intro h f hf
      obtain ⟨⟨k, t⟩, hmem, rfl⟩ := List.mem_map.mp hf
      exact ⟨_, List.mem_map_of_mem (h hmem), rfl, by simp⟩
  rw [same_object_iff, hmatches, List.length_map, List.length_map]
  constructor
  · rintro ⟨hlength, hsubset⟩
    exact ((hnodup.of_map _).subperm hsubset).perm_of_length_le (Nat.le_of_eq hlength.symm)
  · intro h
    exact ⟨h.length_eq, h.subset⟩

end Docsmith.Value
