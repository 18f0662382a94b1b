-- SUMMARY: In which order numbered pages are listed.
import Docsmith.Proofs.Catalog.Enumeration
import Docsmith.Proofs.Docstring.Item
import Docsmith.Proofs.Project.Discovery

/-!
# The order of numbered pages

A page whose file name starts with a number is placed by all digits of the name,
read as one number. This is the number that the name starts with if no digits
follow; otherwise they are appended to it. Pages are listed by their places, and
those of one place by their titles.
-/

namespace Docsmith

/-! ## Sorted lists -/

/-- Of two members of a list one stands before the other. -/
theorem pair_sublist_or {α : Type} {a b : α} {l : List α} (ha : a ∈ l) (hb : b ∈ l) (hne : a ≠ b) :
    [a, b].Sublist l ∨ [b, a].Sublist l := by
  induction l with
  | nil => cases ha
  | cons x l ih =>
    rcases List.mem_cons.mp ha with rfl | hal
    · have hbl := (List.mem_cons.mp hb).resolve_left hne.symm
      exact .inl ((List.singleton_sublist.mpr hbl).cons_cons a)
    · rcases List.mem_cons.mp hb with rfl | hbl
      · exact .inr ((List.singleton_sublist.mpr hal).cons_cons b)
      · exact (ih hal hbl).imp (.cons x) (.cons x)

/-- Sorted pages stand in the order of their places and titles. -/
theorem PageDoc.sublist_mergeSort_iff {p q : PageDoc} {pages : List PageDoc} (hp : p ∈ pages)
    (hq : q ∈ pages) (hne : (p.order, p.title) ≠ (q.order, q.title)) :
    [p, q].Sublist (pages.mergeSort PageDoc.before) ↔
      p.order < q.order ∨ p.order = q.order ∧ p.title < q.title := by
  have hsorted {a b : PageDoc} (h : [a, b].Sublist (pages.mergeSort PageDoc.before)) :
      a.order < b.order ∨ a.order = b.order ∧ a.title ≤ b.title :=
    PageDoc.before_iff.mp (List.pairwise_iff_forall_sublist.mp
      (List.pairwise_mergeSort PageDoc.before_trans PageDoc.before_total pages) h)
  constructor
  · intro h
    refine (hsorted h).imp_right fun ⟨horder, hle⟩ => ⟨horder, ?_⟩
    by_contra hlt
    exact hne (Prod.ext horder (String.le_antisymm hle (String.not_lt.mp hlt)))
  · intro hbefore
    have hpq : p ≠ q := fun heq => hne (by rw [heq])
    refine (pair_sublist_or (List.mem_mergeSort.mpr hp) (List.mem_mergeSort.mpr hq)
      hpq).resolve_right fun h => ?_
    rcases hsorted h with hlt | ⟨horder, hle⟩
    · omega
    · rcases hbefore with hlt | ⟨-, hlt⟩
      · omega
      · exact String.not_lt.mpr hle hlt

/-- Sorting keeps the order of pages of one place and title. -/
theorem PageDoc.sublist_mergeSort_of_eq {p q : PageDoc} {pages : List PageDoc}
    (heq : (p.order, p.title) = (q.order, q.title)) (h : [p, q].Sublist pages) :
    [p, q].Sublist (pages.mergeSort PageDoc.before) := by
  obtain ⟨horder, htitle⟩ := Prod.mk.inj heq
  have hbefore : p.before q = true :=
    PageDoc.before_iff.mpr (.inr ⟨horder, htitle ▸ String.le_refl _⟩)
  exact List.pair_sublist_mergeSort PageDoc.before_trans PageDoc.before_total hbefore h

/-! ## Digits -/

theorem Text.isDigit_of_isDigit {c : Char} (h : c.isDigit = true) : Text.isDigit c = true := by
  simp [Text.isDigit, Text.isDecimal, h]

theorem Text.not_isBlank_of_isDigit {c : Char} (h : Text.isDigit c = true) :
    Text.isBlank c = false :=
  Docstring.not_isBlank_of_class (by decide +kernel) h

theorem Text.ne_of_isDigit {c x : Char} (h : Text.isDigit c = true) (hx : Text.isDigit x = false) :
    c ≠ x := by
  rintro rfl
  rw [h] at hx
  cases hx

namespace Value

variable {cs : List Char}

theorem digitsFrom?_cons {c : Char} (hc : Text.isDigit c = true) (found : Nat) (isOpen : Bool) :
    digitsFrom? found isOpen (c :: cs) =
      (Text.decimalValue? c).bind fun d => digitsFrom? (10 * found + d) false cs := by
  have hne : ¬(c == '_') = true := by
    rw [beq_iff_eq]
    exact Text.ne_of_isDigit hc (by decide)
  rw [digitsFrom?, if_neg hne]
  cases Text.decimalValue? c <;> rfl

/-- Digits are appended to the number that was read before. -/
theorem digitsFrom?_of_digits (h : ∀ c ∈ cs, Text.isDigit c = true) (found : Nat) :
    digitsFrom? found false cs =
      (cs.mapM Text.decimalValue?).map (List.foldl (fun n d => 10 * n + d) found) := by
  induction cs generalizing found with
  | nil => rfl
  | cons c cs ih =>
    obtain ⟨hc, hcs⟩ := List.forall_mem_cons.mp h
    rw [digitsFrom?_cons hc, List.mapM_cons]
    cases Text.decimalValue? c with
    | none => rfl
    | some d =>
      refine (ih hcs _).trans ?_
      cases cs.mapM Text.decimalValue? <;> rfl

theorem digitsFrom?_append {ds : List Char} (h : ∀ c ∈ ds, c.isDigit = true) (found : Nat) :
    digitsFrom? found false (ds ++ cs) =
      digitsFrom? (ds.foldl (fun n c => 10 * n + (c.toNat - 48)) found) false cs := by
  induction ds generalizing found with
  | nil => rfl
  | cons c ds ih =>
    obtain ⟨hc, hds⟩ := List.forall_mem_cons.mp h
    have hvalue : Text.decimalValue? c = some (c.toNat - 48) := by simp [Text.decimalValue?, hc]
    rw [List.cons_append, digitsFrom?_cons (Text.isDigit_of_isDigit hc), hvalue]
    exact ih hds _

/-- Digits are a numeral if each has a decimal reading. -/
theorem numeral?_of_digits (hne : cs ≠ []) (h : ∀ c ∈ cs, Text.isDigit c = true) :
    numeral? cs = (digitsFrom? 0 false cs).map Int.ofNat := by
  have hblank : ∀ c ∈ cs, Text.isBlank c = false := fun c hc => Text.not_isBlank_of_isDigit (h c hc)
  have hstrip : Text.strip cs = cs :=
    Text.strip_eq_self (fun c hc => hblank c (List.mem_of_mem_head? hc))
      fun c hc => hblank c (List.mem_of_getLast? hc)
  obtain ⟨c, cs, rfl⟩ := List.exists_cons_of_ne_nil hne
  have hc : Text.isDigit c = true := h c List.mem_cons_self
  have hopen : digitsFrom? 0 true (c :: cs) = digitsFrom? 0 false (c :: cs) := by
    rw [digitsFrom?_cons hc, digitsFrom?_cons hc]
  rw [numeral?, hstrip, ← hopen]
  split
  · exact absurd (List.cons.inj ‹_›).1 (Text.ne_of_isDigit hc (by decide))
  · exact absurd (List.cons.inj ‹_›).1 (Text.ne_of_isDigit hc (by decide))
  · rfl

end Value

/-! ## Numbered file names -/

namespace Page

/-- A file name that starts with a number: digits, a character that is none, and any text. -/
structure NumberedStem where
  digits : List Char
  mark : Char
  rest : List Char
  digits_ne_nil : digits ≠ []
  isDigit_digits : ∀ c ∈ digits, c.isDigit = true
  mark_not_digit : Text.isDigit mark = false

namespace NumberedStem

variable (s : NumberedStem)

def chars : List Char := s.digits ++ s.mark :: s.rest

/-- The number that the name starts with. -/
def number : Nat := Decimal.digitsValue s.digits

/-- The digits in the text after the number. -/
def further : List Char := s.rest.filter Text.isDigit

/-- The number that all digits form: the further ones are appended to the first. It is zero if one
    of them has no decimal reading. -/
def place : Nat :=
  (s.further.mapM Text.decimalValue?).elim 0 (List.foldl (fun n d => 10 * n + d) s.number)

theorem place_of_further_eq_nil (h : s.further = []) : s.place = s.number := by
  rw [place, h]
  rfl

/-- A page is placed by all digits of its file name. -/
theorem order_chars : Page.order s.chars = s.place := by
  have hdigits : ∀ c ∈ s.digits, Text.isDigit c = true := fun c hc =>
    Text.isDigit_of_isDigit (s.isDigit_digits c hc)
  have hfurther : ∀ c ∈ s.further, Text.isDigit c = true := fun c hc => (List.mem_filter.mp hc).2
  have hfilter : s.chars.filter Text.isDigit = s.digits ++ s.further := by
    rw [chars, List.filter_append, List.filter_eq_self.mpr hdigits,
      List.filter_cons_of_neg (by simp [s.mark_not_digit]), further]
  have hhead : s.chars.head?.any Text.isDigit = true := by
    obtain ⟨c, cs, hcons⟩ := List.exists_cons_of_ne_nil s.digits_ne_nil
    rw [chars, hcons]
    exact hdigits c (hcons ▸ List.mem_cons_self)
  rw [Page.order, if_pos hhead, hfilter, Value.numeral?_of_digits (by simp [s.digits_ne_nil])
    (List.forall_mem_append.mpr ⟨hdigits, hfurther⟩), Value.digitsFrom?_append s.isDigit_digits,
    Value.digitsFrom?_of_digits hfurther, place]
  cases s.further.mapM Text.decimalValue? <;> rfl

end NumberedStem

/-! ## Numbered pages -/

variable {options : ScanOptions} {disk : FileTree} {root : Path} {catalog : Catalog}

theorem pages_scanDirectory (h : scanDirectory options disk root = .ok catalog) :
    catalog.pages = (pagesBelow options disk root).mergeSort PageDoc.before := by
  obtain ⟨ms, -, h⟩ := bind_eq_ok.mp h
  obtain rfl := Except.ok.inj h
  rfl

theorem pair_sublist_pagesBelow {f g : ProjectFile}
    (h : [f, g].Sublist (findFiles .pages options.excludes disk root)) :
    [scan options.render f.path root f.bytes, scan options.render g.path root g.bytes].Sublist
      (pagesBelow options disk root) := by
  have hmap := h.map fun f => scan options.render f.path root f.bytes
  rw [List.map_cons, List.map_cons, List.map_nil] at hmap
  exact hmap

/-- Numbered pages are listed by the numbers that all digits of their file names form, then by
    their titles, and then in the order in which they are found. So they are listed by the numbers
    that the names start with if no further digits follow. -/
theorem numbered_pages_listed_iff (h : scanDirectory options disk root = .ok catalog)
    {f g : ProjectFile} (hf : f ∈ findFiles .pages options.excludes disk root)
    (hg : g ∈ findFiles .pages options.excludes disk root) {s t : NumberedStem}
    (hs : f.path.stem.toList = s.chars) (ht : g.path.stem.toList = t.chars) :
    let p := scan options.render f.path root f.bytes
    let q := scan options.render g.path root g.bytes
    (s.number < t.number → s.further = [] → t.further = [] →
      [p, q].Sublist catalog.pages ∧ ¬[q, p].Sublist catalog.pages) ∧
    ((s.place, p.title) ≠ (t.place, q.title) → ([p, q].Sublist catalog.pages ↔
      s.place < t.place ∨ s.place = t.place ∧ p.title < q.title)) ∧
    ((s.place, p.title) = (t.place, q.title) →
      [f, g].Sublist (findFiles .pages options.excludes disk root) →
        [p, q].Sublist catalog.pages) := by
  intro p q
  have hp : p ∈ pagesBelow options disk root := List.mem_map.mpr ⟨f, hf, rfl⟩
  have hq : q ∈ pagesBelow options disk root := List.mem_map.mpr ⟨g, hg, rfl⟩
  have hplace : p.order = s.place := (congrArg Page.order hs).trans s.order_chars
  have hplace' : q.order = t.place := (congrArg Page.order ht).trans t.order_chars
  have hsame : (p.order, p.title) = (q.order, q.title) ↔ (s.place, p.title) = (t.place, q.title) := by
    rw [Prod.mk.injEq, Prod.mk.injEq, hplace, hplace', Int.ofNat_inj]
  rw [pages_scanDirectory h]
  refine ⟨fun hnumber hfurther hfurther' => ?_, fun hne => ?_, fun heq h => ?_⟩
  · have hlt : p.order < q.order := by
      rw [hplace, hplace', s.place_of_further_eq_nil hfurther, t.place_of_further_eq_nil hfurther']
      exact Int.ofNat_lt.mpr hnumber
    have hne : (p.order, p.title) ≠ (q.order, q.title) := fun heq =>
      Int.ne_of_lt hlt (Prod.mk.inj heq).1
    rw [PageDoc.sublist_mergeSort_iff hp hq hne, PageDoc.sublist_mergeSort_iff hq hp hne.symm]
    omega
  · rw [PageDoc.sublist_mergeSort_iff hp hq (mt hsame.mp hne), hplace, hplace', Int.ofNat_lt,
      Int.ofNat_inj]
  · exact PageDoc.sublist_mergeSort_of_eq (hsame.mpr heq) (pair_sublist_pagesBelow h)

/-- The file name of a page on the second version. -/
def versionStem : NumberedStem :=
  ⟨['1'], '_', ['v', '2'], by decide, List.forall_mem_singleton.mpr (by decide), by decide⟩

/-- The file name of an introduction. -/
def introStem : NumberedStem :=
  ⟨['2'], '_', "intro".toList, by decide, List.forall_mem_singleton.mpr (by decide), by decide⟩

/-- The page `1_v2.md` is listed after `2_intro.md`, since its digits form the number twelve. -/
theorem versionPage_listed_last :
    let disk : FileTree := .folder [("1_v2.md", .file []), ("2_intro.md", .file [])]
    let p := scan preformatted ⟨"", ["1_v2.md"]⟩ ⟨"", []⟩ []
    let q := scan preformatted ⟨"", ["2_intro.md"]⟩ ⟨"", []⟩ []
    versionStem.number < introStem.number ∧ HasAnswer (scanDirectory {} disk ⟨"", []⟩) ∧
      ∀ catalog, scanDirectory {} disk ⟨"", []⟩ = .ok catalog →
        ¬[p, q].Sublist catalog.pages ∧ [q, p].Sublist catalog.pages := by
  intro disk p q
  have hmem {name : String} (hfile : (name, .file []) ∈ disk.entries)
      (hwanted : isWanted .pages (effectiveExcludes []) ⟨[name], []⟩ = true) :
      ⟨⟨"", [name]⟩, []⟩ ∈ findFiles .pages [] disk ⟨"", []⟩ := by
    rw [findFiles_folder .pages [] rfl]
    refine List.mem_map.mpr ⟨⟨[name], []⟩, List.mem_filter.mpr ⟨?_, hwanted⟩, rfl⟩
    exact FileTree.mem_walk.mpr ⟨[], name, rfl, .file hfile, List.forall_mem_nil _⟩
  have hf := hmem List.mem_cons_self (by decide +kernel)
  have hg := hmem (List.mem_cons_of_mem _ List.mem_cons_self) (by decide +kernel)
  have hs : (Path.mk "" ["1_v2.md"]).stem.toList = versionStem.chars := by decide
  have ht : (Path.mk "" ["2_intro.md"]).stem.toList = introStem.chars := by decide
  have hne : (versionStem.place, p.title) ≠ (introStem.place, q.title) := fun heq =>
    absurd (Prod.mk.inj heq).1 (by decide)
  refine ⟨by decide, by decide +kernel, fun catalog h => ?_⟩
  have hpq := (numbered_pages_listed_iff h hf hg hs ht).2.1 hne
  have hqp := (numbered_pages_listed_iff h hg hf ht hs).2.1 hne.symm
  exact ⟨fun hlisted => absurd (hpq.mp hlisted) (by decide), hqp.mpr (by decide)⟩

end Page

end Docsmith
