-- SUMMARY: Equality of JSON values is reflexive and symmetric.
import Docsmith.Proofs.Value.Keyed
import Mathlib.Data.List.Perm.Subperm

/-!
# Equality of JSON values

JSON data is made of scalars, lists, and dictionaries under distinct texts; its
numbers are numbers. Every such value equals itself, and two of them are equal
whichever comes first.
-/

namespace Docsmith.Value

/-! ## Floating-point numbers -/

open Float.Model (UnpackedFloat)

theorem swap_compare (u v : UnpackedFloat) : (u.compare v).map Ordering.swap = v.compare u := by
  have hsize (e f : Int) (m n : Nat) :
      ((compare e f).then (compare m n)).swap = (compare f e).then (compare n m) := by
    rw [Ordering.swap_then, Int.compare_swap, Nat.compare_swap]
  cases u with
  | notANumber => cases v <;> rfl
  | infinity s =>
    cases v with
    | infinity t => cases s <;> cases t <;> rfl
    | _ => cases s <;> rfl
  | zero s =>
    cases v with
    | infinity t => cases t <;> rfl
    | finite t m e hm => cases t <;> rfl
    | _ => rfl
  | finite s m e hm =>
    cases v with
    | notANumber => rfl
    | infinity t => cases s <;> cases t <;> rfl
    | zero t => cases s <;> rfl
    | finite t n f hn =>
      cases s <;> cases t
      · exact congrArg (some ·.swap) (hsize e f m n)
      · rfl
      · rfl
      · exact congrArg some (hsize e f m n)

theorem compare_self {u : UnpackedFloat} (h : u.isNaN = false) : u.compare u = some .eq := by
  cases u with
  | notANumber => cases h
  | infinity s => cases s <;> rfl
  | zero s => rfl
  | finite s m e hm =>
    have hsize : (compare e e).then (compare m m) = .eq := by simp
    cases s
    · exact congrArg (some ·.swap) hsize
    · exact congrArg some hsize

theorem float_beq_comm (x y : Float) : (x == y) = (y == x) := by
  have hcompare := swap_compare x.toModel.unpack y.toModel.unpack
  show (x.toModel.unpack.compare y.toModel.unpack == some .eq)
    = (y.toModel.unpack.compare x.toModel.unpack == some .eq)
  rw [← hcompare]
  cases x.toModel.unpack.compare y.toModel.unpack with
  | none => rfl
  | some o => cases o <;> rfl

theorem float_beq_self {x : Float} (h : x.isNaN = false) : (x == x) = true := by
  show (x.toModel.unpack.compare x.toModel.unpack == some .eq) = true
  rw [compare_self h]
  rfl

/-! ## JSON values -/

/-- A value that JSON data may hold. -/
inductive IsJson : Value → Prop
  | none : IsJson .none
  | bool (b : Bool) : IsJson (.bool b)
  | int (n : Int) : IsJson (.int n)
  | float {x : Float} : x.isNaN = false → IsJson (.float x)
  | str (s : String) : IsJson (.str s)
  | list {xs : List Value} : (∀ x ∈ xs, IsJson x) → IsJson (.list xs)
  | dict {es : Entries} : Keyed.HasTextKeys es → (∀ e ∈ es, IsJson e.2) → IsJson (.dict es)

/-- A value in the form of JSON data, in which floating-point numbers may also be no numbers. -/
inductive HasJsonForm : Value → Prop
  | none : HasJsonForm .none
  | bool (b : Bool) : HasJsonForm (.bool b)
  | int (n : Int) : HasJsonForm (.int n)
  | float (x : Float) : HasJsonForm (.float x)
  | str (s : String) : HasJsonForm (.str s)
  | list {xs : List Value} : (∀ x ∈ xs, HasJsonForm x) → HasJsonForm (.list xs)
  | dict {es : Entries} : Keyed.HasTextKeys es → (∀ e ∈ es, HasJsonForm e.2) → HasJsonForm (.dict es)

theorem IsJson.hasJsonForm {v : Value} (h : v.IsJson) : v.HasJsonForm := by
  induction h with
  | none => exact .none
  | bool b => exact .bool b
  | int n => exact .int n
  | float _ => exact .float _
  | str s => exact .str s
  | list _ ih => exact .list ih
  | dict hkeys _ ih => exact .dict hkeys ih

theorem sameItems_self {xs : List Value} (h : ∀ x ∈ xs, x.same x = true) :
    sameItems xs xs = true := by
  induction xs with
  | nil => rfl
  | cons x xs ih =>
    obtain ⟨hx, hxs⟩ := List.forall_mem_cons.mp h
    rw [sameItems, hx, ih hxs]
    rfl

theorem sameEntries_iff {es fs : Entries} :
    sameEntries es fs = true ↔ ∀ e ∈ es, ∃ f ∈ fs, e.1.same f.1 = true ∧ e.2.same f.2 = true := by
  induction es with
  | nil => simp [sameEntries]
  | cons e es ih =>
    obtain ⟨k, v⟩ := e
    rw [sameEntries, Bool.and_eq_true, ih, List.forall_mem_cons]
    simp

theorem IsJson.same_self {v : Value} (h : v.IsJson) : v.same v = true := by
  induction h with
  | none => rfl
  | bool b => cases b <;> rfl
  | int n => simp [same, sameScalar, integer?]
  | float hx => exact float_beq_self hx
  | str s => simp
  | list _ ih => exact sameItems_self ih
  | @dict es hkeys _ ih =>
    rw [same, Bool.and_eq_true, sameEntries_iff]
    refine ⟨beq_self_eq_true es.length, fun e he => ⟨e, he, ?_, ih e he⟩⟩
    obtain ⟨k, hk⟩ := hkeys.texts e.1 (List.mem_map_of_mem he)
    rw [hk]
    simp

theorem sameItems_comm {xs ys : List Value} (h : ∀ x ∈ xs, ∀ y ∈ ys, x.same y = y.same x) :
    sameItems xs ys = sameItems ys xs := by
  induction xs generalizing ys with
  | nil => cases ys <;> rfl
  | cons x xs ih =>
    cases ys with
    | nil => rfl
    | cons y ys =>
      rw [sameItems, sameItems, h x List.mem_cons_self y List.mem_cons_self]
      congr 1
      exact ih fun a ha b hb => h a (List.mem_cons_of_mem x ha) b (List.mem_cons_of_mem y hb)

/-- Of two dictionaries of one size, each holds the entries of the other if one does. -/
theorem sameEntries_symm {es fs : Entries} (hes : Keyed.HasTextKeys es) (hfs : Keyed.HasTextKeys fs)
    (hvalues : ∀ e ∈ es, ∀ f ∈ fs, e.2.same f.2 = f.2.same e.2) (hlength : es.length = fs.length)
    (h : sameEntries es fs = true) : sameEntries fs es = true := by
  rw [sameEntries_iff] at h ⊢
  -- every entry is matched by one under the same key
  have hmatch : ∀ e ∈ es, ∃ f ∈ fs, f.1 = e.1 ∧ e.2.same f.2 = true := by
    intro e he
    obtain ⟨f, hf, hkey, hvalue⟩ := h e he
    obtain ⟨k, hk⟩ := hfs.texts f.1 (List.mem_map_of_mem hf)
    rw [hk, same_str_iff] at hkey
    exact ⟨f, hf, hk.trans hkey.symm, hvalue⟩
  have hkeys : es.map (·.1) ⊆ fs.map (·.1) := by
    intro k hk
    obtain ⟨e, he, rfl⟩ := List.mem_map.mp hk
    obtain ⟨f, hf, hkey, -⟩ := hmatch e he
    exact hkey ▸ List.mem_map_of_mem hf
  have hperm : (es.map (·.1)).Perm (fs.map (·.1)) :=
    (hes.nodup.subperm hkeys).perm_of_length_le (by simp [hlength])
  intro f hf
  obtain ⟨e, he, hkey⟩ := List.mem_map.mp (hperm.mem_iff.mpr (List.mem_map_of_mem hf))
  obtain ⟨f', hf', hkey', hvalue⟩ := hmatch e he
  obtain rfl : f' = f := List.inj_on_of_nodup_map hfs.nodup hf' hf (hkey'.trans hkey)
  obtain ⟨k, hk⟩ := hes.texts e.1 (List.mem_map_of_mem he)
  refine ⟨e, he, ?_, (hvalues e he f' hf').symm.trans hvalue⟩
  rw [hkey', hk]
  simp

theorem HasJsonForm.same_comm {v w : Value} (hv : v.HasJsonForm) (hw : w.HasJsonForm) :
    v.same w = w.same v := by
  induction hv generalizing w with
  | @list xs _ ih =>
    cases hw with
    | list hys =>
      rw [same, same]
      exact sameItems_comm fun x hx y hy => ih x hx (hys y hy)
    | _ => simp [same, sameScalar, integer?]
  | @dict es hes _ ih =>
    cases hw with
    | @dict fs hfs hvalues =>
      have hcomm : ∀ e ∈ es, ∀ f ∈ fs, e.2.same f.2 = f.2.same e.2 :=
        fun e he f hf => ih e he (hvalues f hf)
      rw [same, same, Bool.eq_iff_iff, Bool.and_eq_true, Bool.and_eq_true, beq_iff_eq, beq_iff_eq]
      constructor
      · rintro ⟨hlength, h⟩
        exact ⟨hlength.symm, sameEntries_symm hes hfs hcomm hlength h⟩
      · rintro ⟨hlength, h⟩
        exact ⟨hlength.symm, sameEntries_symm hfs hes
          (fun f hf e he => (hcomm e he f hf).symm) hlength h⟩
    | _ => simp [same, sameScalar, integer?]
  | float x =>
    cases hw with
    | float y => exact float_beq_comm x y
    | bool b => cases b <;> rfl
    | _ => simp [same, sameScalar, integer?]
  | bool b =>
    cases hw with
    | float y => cases b <;> rfl
    | _ => simp [same, sameScalar, integer?, eq_comm]
  | _ => cases hw <;> simp [same, sameScalar, integer?, eq_comm]

end Docsmith.Value
