-- SUMMARY: All readers of items see the same items.
import Docsmith.Proofs.Docstring.Arguments
import Docsmith.Proofs.Docstring.Item

/-!
# Readers of items

A pass over the lines of a section keeps the items that are complete and the one
that is pending: an item line completes it, any other line but a blank one
continues it. Arguments, settings, headers and event fields have the names that the
pass sees. Arguments, settings and, where the first line is an item line, exceptions
have its descriptions too.
-/

namespace Docsmith.Docstring

variable {l : Line} {ls : List Line} {opens : Line → Option Line}

/-! ## One pass -/

/-- An item that is being read: its name, and the lines of its description so far. -/
structure Pending where
  name : Line
  lines : List Line

/-- The name and the description of a pending item. -/
def Pending.described (p : Pending) : String × String :=
  (String.ofList p.name, String.ofList (Text.strip (Text.joinWith [' '] p.lines)))

/-- What a pass has seen: the items that are complete, and the one that is pending. -/
structure Pass where
  complete : List (String × String) := []
  pending : Option Pending := none

namespace Pass

/-- All items, once no further line follows. -/
def items (s : Pass) : List (String × String) :=
  s.complete ++ s.pending.toList.map Pending.described

/-- Read a line. Where no item is pending, `opens` tells which other lines start one. -/
def step (opens : Line → Option Line) (s : Pass) (l : Line) : Pass :=
  match Item.ofLine? l, s.pending with
  | some i, _ => ⟨s.items, some ⟨i.name, if i.text.isEmpty then [] else [i.text]⟩⟩
  | none, none => { s with pending := (opens l).map fun name => ⟨name, []⟩ }
  | none, some p =>
    if isBlankLine l then s
    else { s with pending := some { p with lines := p.lines ++ [Text.strip l] } }

end Pass

/-- The items that a pass over some lines sees. -/
def seenItems (opens : Line → Option Line) (ls : List Line) : List (String × String) :=
  (ls.foldl (Pass.step opens) {}).items

/-- The name and the description of an item with the lines that continue it. -/
def Entry.described (e : Entry) : String × String :=
  (String.ofList e.item.name, String.ofList e.description)

theorem continuation_cons (h : Item.ofLine? l = none) :
    continuation (l :: ls) = if isBlankLine l then continuation ls else l :: continuation ls := by
  by_cases hblank : isBlankLine l = true <;> simp [continuation, h, hblank]

theorem continuation_cons_item {i : Item} (h : Item.ofLine? l = some i) :
    continuation (l :: ls) = [] := by
  simp [continuation, h]

theorem entries_cons_item {i : Item} (h : Item.ofLine? l = some i) :
    entries (l :: ls) = ⟨i, continuation ls⟩ :: entries ls := by
  rw [entries, h]

theorem entries_cons (h : Item.ofLine? l = none) : entries (l :: ls) = entries ls := by
  rw [entries, h]

/-- A pending item is completed by the lines that continue it; then come the items below. -/
theorem items_foldl_step (ls : List Line) (done : List (String × String)) (p : Pending) :
    (ls.foldl (Pass.step opens) ⟨done, some p⟩).items = done ++
      Pending.described { p with lines := p.lines ++ (continuation ls).map Text.strip } ::
        (entries ls).map Entry.described := by
  -- The induction is over the lines, with the pending item and what came before it general.
  induction ls generalizing done p with
  | nil => simp [Pass.items, continuation, entries]
  | cons l ls ih =>
    rw [List.foldl_cons]
    cases h : Item.ofLine? l with
    | some i =>
      have hstep : Pass.step opens ⟨done, some p⟩ l =
          ⟨done ++ [p.described], some ⟨i.name, if i.text.isEmpty then [] else [i.text]⟩⟩ := by
        simp [Pass.step, Pass.items, h]
      rw [hstep, ih, continuation_cons_item h, entries_cons_item h]
      simp [Entry.described, Entry.description, Pending.described]
    | none =>
      rw [entries_cons h, continuation_cons h]
      by_cases hblank : isBlankLine l = true
      · have hstep : Pass.step opens ⟨done, some p⟩ l = ⟨done, some p⟩ := by
          simp [Pass.step, h, hblank]
        rw [hstep, ih, if_pos hblank]
      · have hstep : Pass.step opens ⟨done, some p⟩ l =
            ⟨done, some { p with lines := p.lines ++ [Text.strip l] }⟩ := by
          simp [Pass.step, h, hblank]
        rw [hstep, ih, if_neg hblank]
        simp

theorem seenItems_cons_item {i : Item} (h : Item.ofLine? l = some i) :
    seenItems opens (l :: ls) = (entries (l :: ls)).map Entry.described := by
  have hstep : Pass.step opens {} l =
      ⟨[], some ⟨i.name, if i.text.isEmpty then [] else [i.text]⟩⟩ := by
    simp [Pass.step, Pass.items, h]
  rw [seenItems, List.foldl_cons, hstep, items_foldl_step, entries_cons_item h]
  rfl

theorem seenItems_cons (h : Item.ofLine? l = none) :
    seenItems opens (l :: ls) = (opens l).elim (seenItems opens ls) fun name =>
      Pending.described ⟨name, (continuation ls).map Text.strip⟩ ::
        (entries ls).map Entry.described := by
  have hstep : Pass.step opens {} l = { pending := (opens l).map fun name => ⟨name, []⟩ } := by
    simp [Pass.step, h]
  rw [seenItems, List.foldl_cons, hstep]
  cases opens l with
  | none => rfl
  | some name => exact items_foldl_step ls [] ⟨name, []⟩

/-! ## The readers -/

/-- A pass in which only item lines start an item sees the items with the lines that continue
    them. -/
theorem seenItems_none (ls : List Line) :
    seenItems (fun _ => none) ls = (entries ls).map Entry.described := by
  induction ls with
  | nil => rfl
  | cons l ls ih =>
    cases h : Item.ofLine? l with
    | some i => exact seenItems_cons_item h
    | none => rw [seenItems_cons h, entries_cons h, ← ih, Option.elim_none]

/-- A pass in which a line with a colon may start the first item sees the exceptions. -/
theorem seenItems_exceptionName (ls : List Line) :
    seenItems exceptionName? ls = (raisesOf ls).map fun r => (r.type, r.description) := by
  induction ls with
  | nil => rfl
  | cons l ls ih =>
    cases h : Item.ofLine? l with
    | some i =>
      rw [seenItems_cons_item h, raisesOf, h]
      simp [Entry.described, Entry.raise]
    | none =>
      rw [seenItems_cons h, raisesOf, h]
      cases exceptionName? l with
      | none => exact ih
      | some name => simp [Pending.described, Entry.described, Entry.raise]

/-- Which lines may start the first item makes no difference where this is an item line, if no
    blank line does. -/
theorem seenItems_eq_of_first (hopens : ∀ l, isBlankLine l = true → opens l = none)
    (hfirst : ls.find? (!isBlankLine ·) = some l) (hitem : (Item.ofLine? l).isSome = true) :
    seenItems opens ls = (entries ls).map Entry.described := by
  induction ls with
  | nil => cases hfirst
  | cons b ls ih =>
    by_cases hblank : isBlankLine b = true
    · rw [List.find?_cons_of_neg (by simp [hblank])] at hfirst
      have hnone := Item.ofLine?_of_isBlankLine hblank
      rw [seenItems_cons hnone, entries_cons hnone, hopens b hblank]
      exact ih hfirst
    · rw [List.find?_cons_of_pos (by simp [hblank])] at hfirst
      obtain rfl := Option.some.inj hfirst
      obtain ⟨i, hi⟩ := Option.isSome_iff_exists.mp hitem
      exact seenItems_cons_item hi

/-- All readers see the items that one pass sees: arguments, settings, headers and event fields
    have their names, arguments and settings also their descriptions, and so do exceptions if the
    first line that is not blank is an item line. -/
theorem readers_see_same_items (ls : List Line) :
    let seen := seenItems (fun _ => none) ls
    (argsOf ls).map Arg.name = seen.map Prod.fst ∧
      (configFieldsOf ls).map ConfigField.name = seen.map Prod.fst ∧
      (headersOf ls).map Header.name = seen.map Prod.fst ∧
      (payloadOf ls).map PayloadField.name = seen.map Prod.fst ∧
      (argsOf ls).map (fun a => (a.name, a.description)) = seen.map (fun s => (s.1, .str s.2)) ∧
      (configFieldsOf ls).map (fun f => (f.name, f.description)) =
        seen.map (fun s => (s.1, .str s.2)) ∧
      ∀ l, ls.find? (!isBlankLine ·) = some l → (Item.ofLine? l).isSome = true →
        (raisesOf ls).map (fun r => (r.type, r.description)) = seen := by
  intro seen
  have hseen : seen = (entries ls).map Entry.described := seenItems_none ls
  have hnames : seen.map Prod.fst = itemNames ls := by
    rw [hseen, ← names_argsOf, argsOf, List.map_map, List.map_map]
    rfl
  rw [hnames]
  refine ⟨names_argsOf ls, ?_, ?_, ?_, ?_, ?_, fun l hfirst hitem => ?_⟩
  · rw [← names_argsOf, argsOf, configFieldsOf, List.map_map, List.map_map]
    rfl
  · rw [headersOf, List.map_map]
    rfl
  · rw [payloadOf, List.map_map]
    rfl
  · rw [hseen, argsOf, List.map_map, List.map_map]
    rfl
  · rw [hseen, configFieldsOf, List.map_map, List.map_map]
    rfl
  · rw [← seenItems_exceptionName, hseen]
    exact seenItems_eq_of_first (fun _ => exceptionName?_of_isBlankLine) hfirst hitem

/-- Two exceptions, the second with a line that continues it. -/
theorem lookupErrors_seen :
    let ls : List Line := ["".toList, "    KeyError: If it is missing.".toList,
      "    ValueError (fatal): If it is".toList, "        malformed.".toList]
    ls.find? (!isBlankLine ·) = some "    KeyError: If it is missing.".toList ∧
      (Item.ofLine? "    KeyError: If it is missing.".toList).isSome = true ∧
      (raisesOf ls).map (fun r => (r.type, r.description)) = seenItems (fun _ => none) ls ∧
      seenItems (fun _ => none) ls =
        [("KeyError", "If it is missing."), ("ValueError", "If it is malformed.")] := by
  intro ls
  have hfirst : ls.find? (!isBlankLine ·) = some "    KeyError: If it is missing.".toList := by
    decide +kernel
  have hitem : (Item.ofLine? "    KeyError: If it is missing.".toList).isSome = true := by
    decide +kernel
  exact ⟨hfirst, hitem, (readers_see_same_items ls).2.2.2.2.2.2 _ hfirst hitem, by decide +kernel⟩

end Docsmith.Docstring
