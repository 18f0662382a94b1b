-- SUMMARY: Laws of putting files into a tree and looking them up.
import Docsmith.Project.FileTree

/-!
# Putting and looking up

Names other than two points lead down a tree. What is put at a place is found
there, and everything else beside it is found as before. The bytes of a text
file are read back as the text.
-/

namespace Docsmith.FileTree

/-! ## Entries of a folder -/

theorem find?_putEntry (p q : String) (t : FileTree) (es : List (String × FileTree)) :
    (putEntry p t es).find? (fun e => e.1 == q)
      = if p = q then some (p, t) else es.find? (fun e => e.1 == q) := by
  induction es with
  | nil => by_cases h : p = q <;> simp [putEntry, h]
  | cons e es ih =>
    obtain ⟨n, u⟩ := e
    rw [putEntry]
    split
    · rename_i hn
      rw [beq_iff_eq] at hn
      subst hn
      by_cases h : n = q <;> simp [h]
    · rename_i hn
      split
      · by_cases h : p = q <;> simp [h]
      · rw [List.find?_cons, ih]
        by_cases h : p = q
        · subst h
          simp [hn]
        · simp [h, List.find?_cons]

theorem entry?_put_self (t : FileTree) (p : String) (ps : List String) (new : FileTree) :
    entry? p (t.put (p :: ps) new) = some (put ((t.entry? p).getD empty) ps new) := by
  simp [put, entry?, entries, find?_putEntry]

theorem entry?_put_of_ne {p q : String} (h : p ≠ q) (t : FileTree) (ps : List String)
    (new : FileTree) : entry? q (t.put (p :: ps) new) = t.entry? q := by
  simp [put, entry?, entries, find?_putEntry, h]

/-! ## Places -/

theorem lookupFrom_cons {p : String} (h : p ≠ "..") (back : List FileTree) (t : FileTree)
    (ps : List String) :
    lookupFrom back t (p :: ps) = (t.entry? p).bind fun u => lookupFrom (t :: back) u ps := by
  rw [lookupFrom.eq_def]
  split
  · rename_i heq
    cases heq
  · rename_i heq
    exact absurd (List.cons.inj heq).1 h
  · rename_i heq
    obtain ⟨rfl, rfl⟩ := List.cons.inj heq
    cases t with
    | file bs => rfl
    | folder es => cases entry? p (folder es) <;> rfl

/-- Where no step leads back, it does not matter where one came from. -/
theorem lookupFrom_eq_lookup {ps : List String} (h : ".." ∉ ps) (back : List FileTree)
    (t : FileTree) : lookupFrom back t ps = t.lookup ps := by
  rw [lookup]
  induction ps generalizing back t with
  | nil => rfl
  | cons p ps ih =>
    have hp := List.ne_of_not_mem_cons h
    have hps := List.not_mem_of_not_mem_cons h
    rw [lookupFrom_cons hp.symm, lookupFrom_cons hp.symm]
    congr 1
    funext u
    rw [ih hps (t :: back) u, ih hps [t] u]

theorem lookup_cons {p : String} {ps : List String} (h : ".." ∉ p :: ps) (t : FileTree) :
    t.lookup (p :: ps) = (t.entry? p).bind (·.lookup ps) := by
  have hp := List.ne_of_not_mem_cons h
  have hps := List.not_mem_of_not_mem_cons h
  rw [lookup, lookupFrom_cons hp.symm]
  congr 1
  funext u
  exact lookupFrom_eq_lookup hps [t] u

/-- What is in a folder is found through it. -/
theorem lookupFrom_append {q : String} (h : q ≠ "..") (back : List FileTree) (t : FileTree)
    (ps : List String) :
    lookupFrom back t (ps ++ [q]) = (lookupFrom back t ps).bind fun u => u.entry? q := by
  induction ps generalizing back t with
  | nil =>
    rw [List.nil_append, lookupFrom_cons h]
    exact Option.bind_fun_some (t.entry? q)
  | cons p ps ih =>
    by_cases hp : p = ".."
    · subst hp
      cases back with
      | nil => rfl
      | cons u back => exact ih back u
    · rw [List.cons_append, lookupFrom_cons hp, lookupFrom_cons hp]
      cases t.entry? p with
      | none => rfl
      | some u => exact ih (t :: back) u

theorem lookup_append {q : String} (h : q ≠ "..") (t : FileTree) (ps : List String) :
    t.lookup (ps ++ [q]) = (t.lookup ps).bind fun u => u.entry? q :=
  lookupFrom_append h [] t ps

/-- What is put at a place is found there. -/
theorem lookup_put_self {ps : List String} (h : ".." ∉ ps) (t new : FileTree) :
    (t.put ps new).lookup ps = some new := by
  induction ps generalizing t with
  | nil => rfl
  | cons p ps ih =>
    rw [lookup_cons h, entry?_put_self, Option.bind_some, ih (List.not_mem_of_not_mem_cons h)]

theorem lookup_empty {ps : List String} (hne : ps ≠ []) (h : ".." ∉ ps) :
    empty.lookup ps = none := by
  cases ps with
  | nil => exact absurd rfl hne
  | cons p ps => rw [lookup_cons h]; rfl

/-- What is put at a place changes nothing beside it. -/
theorem lookup_put_sibling {ps : List String} {p q : String} (h : ".." ∉ ps ++ [q])
    (hne : p ≠ q) (t new : FileTree) :
    (t.put (ps ++ [p]) new).lookup (ps ++ [q]) = t.lookup (ps ++ [q]) := by
  induction ps generalizing t with
  | nil =>
    rw [List.nil_append] at h
    rw [List.nil_append, List.nil_append, lookup_cons h, lookup_cons h, entry?_put_of_ne hne]
  | cons n ps ih =>
    rw [List.cons_append] at h
    have hps := List.not_mem_of_not_mem_cons h
    rw [List.cons_append, List.cons_append, lookup_cons h, lookup_cons h, entry?_put_self,
      Option.bind_some, ih hps]
    cases t.entry? n with
    | some u => rfl
    | none => exact lookup_empty (by simp) hps

/-- A folder that is made where nothing was holds nothing. -/
theorem lookup_put_empty {ps : List String} {q : String} (h : ".." ∉ ps ++ [q]) {t : FileTree}
    (hnone : t.lookup ps = none) :
    (t.put ps empty).lookup (ps ++ [q]) = t.lookup (ps ++ [q]) := by
  induction ps generalizing t with
  | nil => cases hnone
  | cons n ps ih =>
    rw [List.cons_append] at h
    have hps := List.not_mem_of_not_mem_cons h
    have hnps : ".." ∉ n :: ps := fun hmem => h (List.mem_append_left [q] hmem)
    rw [lookup_cons hnps] at hnone
    rw [List.cons_append, lookup_cons h, lookup_cons h, entry?_put_self, Option.bind_some]
    cases hentry : t.entry? n with
    | some u =>
      rw [hentry] at hnone
      exact ih hps hnone
    | none =>
      cases ps with
      | nil => exact lookup_empty (by simp) hps
      | cons m ps =>
        have htail := lookup_empty (by simp) (List.not_mem_of_not_mem_cons hnps)
        rw [Option.getD_none, Option.bind_none, ih hps htail]
        exact lookup_empty (by simp) hps

/-! ## Text files -/

theorem toList_loop (bs : ByteArray) (i : Nat) (found : List UInt8) :
    ByteArray.toList.loop bs i found = found.reverse ++ bs.data.toList.drop i := by
  fun_induction ByteArray.toList.loop bs i found with
  | case1 i found hi ih =>
    have hlt : i < bs.data.toList.length := by simpa using hi
    have hget : bs.get! i = bs.data.toList[i] := by
      simp [ByteArray.get!, hi]
    rw [ih, List.drop_eq_getElem_cons hlt, hget]
    simp
  | case2 i found hi =>
    have hlen : bs.data.toList.length ≤ i := by simpa using hi
    rw [List.drop_eq_nil_of_le hlen, List.append_nil]

/-- The bytes of a text file are the text in UTF-8. -/
theorem fromUTF8?_toUTF8 (s : String) :
    String.fromUTF8? ⟨s.toUTF8.toList.toArray⟩ = some s := by
  have hbytes : (⟨s.toUTF8.toList.toArray⟩ : ByteArray) = s.toUTF8 := by
    rw [ByteArray.toList, toList_loop]
    rfl
  rw [hbytes]
  simp [String.fromUTF8?, s.isValidUTF8]
  rfl

end Docsmith.FileTree
