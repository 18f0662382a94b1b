-- SUMMARY: When a sequence of steps has an answer.
import Docsmith.Fault
import Mathlib.Data.List.Forall2

/-!
# Answers

A step that is made for every item of a list has an answer exactly if it has one
for each item, and the answers are listed in the order of the items. What is said
about an answer can be decided by computing it.
-/

namespace Docsmith

variable {ε α β : Type}

/-! ## Having an answer -/

/-- There is an answer. -/
def HasAnswer (x : Except ε α) : Prop := ∃ a, x = .ok a

instance decidableExistsOk {x : Except ε α} {P : α → Prop} [DecidablePred P] :
    Decidable (∃ a, x = .ok a ∧ P a) :=
  match x with
  | .ok a => decidable_of_iff (P a) (by simp)
  | .error _ => .isFalse (by simp)

instance decidableForallOk {x : Except ε α} {P : α → Prop} [DecidablePred P] :
    Decidable (∀ a, x = .ok a → P a) :=
  match x with
  | .ok a => decidable_of_iff (P a) (by simp)
  | .error _ => .isTrue (by simp)

instance {x : Except ε α} : Decidable (HasAnswer x) :=
  match x with
  | .ok a => .isTrue ⟨a, rfl⟩
  | .error _ => .isFalse nofun

@[simp]
theorem hasAnswer_ok (a : α) : HasAnswer (.ok a : Except ε α) := ⟨a, rfl⟩

@[simp]
theorem hasAnswer_pure (a : α) : HasAnswer (pure a : Except ε α) := ⟨a, rfl⟩

@[simp]
theorem not_hasAnswer_error (e : ε) : ¬ HasAnswer (.error e : Except ε α) := nofun

theorem hasAnswer_bind {x : Except ε α} {f : α → Except ε β} :
    HasAnswer (x >>= f) ↔ ∃ a, x = .ok a ∧ HasAnswer (f a) := by
  cases x with
  | ok a => simp [bind, Except.bind]
  | error e => simp [bind, Except.bind]

@[simp]
theorem hasAnswer_bind_pure {x : Except ε α} {g : α → β} :
    HasAnswer (x >>= fun a => pure (g a)) ↔ HasAnswer x := by
  rw [hasAnswer_bind]
  exact exists_congr fun a => and_iff_left (hasAnswer_pure (g a))

/-- Two steps of which the second does not hang on what the first gave. -/
theorem hasAnswer_bind_iff_and {x : Except ε α} {f : α → Except ε β} {Q : Prop}
    (h : ∀ a, HasAnswer (f a) ↔ Q) : HasAnswer (x >>= f) ↔ HasAnswer x ∧ Q := by
  rw [hasAnswer_bind]
  simp only [h]
  exact exists_and_right

/-! ## Properties of an answer -/

/-- There is an answer, and it has a property. -/
def Gives (P : α → Prop) (x : Except ε α) : Prop := ∃ a, x = .ok a ∧ P a

theorem Gives.pure {P : α → Prop} {a : α} (h : P a) : Gives P (pure a : Except ε α) := ⟨a, rfl, h⟩

theorem Gives.bind {P : α → Prop} {Q : β → Prop} {x : Except ε α} {f : α → Except ε β}
    (hx : Gives P x) (hf : ∀ a, P a → Gives Q (f a)) : Gives Q (x >>= f) := by
  obtain ⟨a, rfl, ha⟩ := hx
  exact hf a ha

theorem Gives.map {P : α → Prop} {Q : β → Prop} {x : Except ε α} {f : α → β} (hx : Gives P x)
    (hf : ∀ a, P a → Q (f a)) : Gives Q (f <$> x) := by
  obtain ⟨a, rfl, ha⟩ := hx
  exact ⟨f a, rfl, hf a ha⟩

/-- If there is an answer, it has a property. -/
def Ensures (P : α → Prop) (x : Except ε α) : Prop := ∀ a, x = .ok a → P a

theorem Ensures.pure {P : α → Prop} {a : α} (h : P a) : Ensures P (pure a : Except ε α) := by
  intro b hb
  obtain rfl := Except.ok.inj hb
  exact h

theorem Ensures.bind {P : α → Prop} {Q : β → Prop} {x : Except ε α} {f : α → Except ε β}
    (hx : Ensures P x) (hf : ∀ a, P a → Ensures Q (f a)) : Ensures Q (x >>= f) := by
  intro b hb
  obtain ⟨a, ha, hb⟩ := bind_eq_ok.mp hb
  exact hf a (hx a ha) b hb

/-- The property does not hang on what the first step gave. -/
theorem ensures_bind {Q : β → Prop} {x : Except ε α} {f : α → Except ε β}
    (hf : ∀ a, Ensures Q (f a)) : Ensures Q (x >>= f) :=
  Ensures.bind (P := fun _ => True) (fun _ _ => trivial) fun a _ => hf a

/-! ## Lists -/

theorem mapM_eq_ok {f : α → Except ε β} {xs : List α} {ys : List β} :
    xs.mapM f = .ok ys ↔ List.Forall₂ (fun x y => f x = .ok y) xs ys := by
  induction xs generalizing ys with
  | nil => simp [pure, Except.pure, eq_comm]
  | cons x xs ih =>
    simp only [List.mapM_cons, bind_eq_ok, ih, List.forall₂_cons_left_iff]
    simp [pure, Except.pure, eq_comm]

/-- A step that always gives an answer, made for each item of a list. -/
theorem mapM_map_eq_ok {γ : Type} {f : β → Except ε γ} {item : α → β} {g : α → γ}
    (h : ∀ a, f (item a) = .ok (g a)) (xs : List α) : (xs.map item).mapM f = .ok (xs.map g) := by
  apply mapM_eq_ok.mpr
  rw [List.forall₂_map_left_iff, List.forall₂_map_right_iff]
  exact List.forall₂_same.mpr fun a _ => h a

theorem mem_mapM {f : α → Except ε β} {xs : List α} {ys : List β} (h : xs.mapM f = .ok ys)
    {y : β} : y ∈ ys ↔ ∃ x ∈ xs, f x = .ok y := by
  replace h := mapM_eq_ok.mp h
  induction h with
  | nil => simp
  | cons hhead _ ih =>
    simp only [List.mem_cons, ih, exists_eq_or_imp, hhead, Except.ok.injEq]
    rw [eq_comm]

theorem hasAnswer_mapM {f : α → Except ε β} {xs : List α} :
    HasAnswer (xs.mapM f) ↔ ∀ x ∈ xs, HasAnswer (f x) := by
  induction xs with
  | nil => simp [pure, Except.pure]
  | cons x xs ih =>
    rw [List.mapM_cons, List.forall_mem_cons, ← ih]
    exact hasAnswer_bind_iff_and fun y => hasAnswer_bind_pure

end Docsmith
