-- SUMMARY: Which parameters a signature shows with a default.
import Docsmith.Proofs.Signature.RoundTrip

/-!
# Defaults in signatures

The language keeps the defaults of a function in two lists. One is shared by the
positional and the regular parameters and belongs to the last of them; the other
has a hole for every named parameter without a default. A signature shows each
regular and named parameter with its own default. It shows no default of a
positional parameter, so it is complete exactly if the shared list is not longer
than the list of regular parameters.
-/

namespace Docsmith.Source

/-! ## Lists of parameters and defaults -/

/-- A parameter without its default. -/
structure Slot where
  name : String
  type : Option Expr

/-- The parameter with a default, or with none. -/
def Slot.param (s : Slot) (default : Option Expr) : Param := .mk s.name s.type default

/-- The parameters of a function as the language keeps them. -/
structure ParamLists where
  positional : List Slot
  regular : List Slot
  rest : Option Slot
  named : List Slot
  namedRest : Option Slot
  /-- The defaults of the last positional and regular parameters. -/
  defaults : List Expr
  /-- The defaults of the named parameters. -/
  namedDefaults : List (Option Expr)
  length_defaults : defaults.length ≤ positional.length + regular.length
  length_namedDefaults : namedDefaults.length = named.length

namespace ParamLists

variable (a : ParamLists)

/-- The shared defaults, aligned with the positional and the regular parameters at the end. -/
def aligned : List (Option Expr) :=
  List.replicate (a.positional.length + a.regular.length - a.defaults.length) none
    ++ a.defaults.map some

/-- Each parameter with the default that belongs to it. -/
def params : Params := .mk
  (List.zipWith Slot.param a.positional (a.aligned.take a.positional.length))
  (List.zipWith Slot.param a.regular (a.aligned.drop a.positional.length))
  (a.rest.map (·.param none))
  (List.zipWith Slot.param a.named a.namedDefaults)
  (a.namedRest.map (·.param none))

/-- The default that the regular parameter at a place is shown with: the places of the shared list
    are counted back from the last regular parameter. -/
def shownDefault (i : Nat) : Option Expr :=
  let place : Int := i - (a.regular.length - a.defaults.length)
  if 0 ≤ place then a.defaults[place.toNat]? else none

/-- Each parameter with the default that it is shown with. -/
def shown : Params := .mk
  (a.positional.map (·.param none))
  (a.regular.mapIdx fun i s => s.param (a.shownDefault i))
  (a.rest.map (·.param none))
  (a.named.mapIdx fun i s => s.param a.namedDefaults[i]?.join)
  (a.namedRest.map (·.param none))

theorem length_aligned : a.aligned.length = a.positional.length + a.regular.length := by
  have := a.length_defaults
  simp only [aligned, List.length_append, List.length_replicate, List.length_map]
  omega

/-- The places of the shared list are those of the defaults of the regular parameters. -/
theorem aligned_regular {i : Nat} (hi : i < a.regular.length) :
    a.aligned[a.positional.length + i]? = some (a.shownDefault i) := by
  have hle := a.length_defaults
  rw [aligned, List.getElem?_append, List.length_replicate, shownDefault]
  split
  · rw [if_neg (by omega), List.getElem?_replicate, if_pos (by omega)]
  · have hplace : ((i : Int) - (a.regular.length - a.defaults.length)).toNat
        = a.positional.length + i
          - (a.positional.length + a.regular.length - a.defaults.length) := by omega
    have hlt : a.positional.length + i
        - (a.positional.length + a.regular.length - a.defaults.length) < a.defaults.length := by
      omega
    rw [if_pos (by omega), hplace, List.getElem?_map, List.getElem?_eq_getElem hlt]
    rfl

/-- Up to the positional parameters, everything is shown with its own default. -/
theorem shown_eq : a.shown = .mk (a.positional.map (·.param none))
    (List.zipWith Slot.param a.regular (a.aligned.drop a.positional.length))
    (a.rest.map (·.param none)) (List.zipWith Slot.param a.named a.namedDefaults)
    (a.namedRest.map (·.param none)) := by
  rw [shown]
  congr 1
  · refine List.ext_getElem? fun i => ?_
    rw [List.getElem?_mapIdx, List.getElem?_zipWith, List.getElem?_drop]
    by_cases hi : i < a.regular.length
    · rw [a.aligned_regular hi, List.getElem?_eq_getElem hi]
      rfl
    · rw [List.getElem?_eq_none (Nat.not_lt.mp hi)]
      rfl
  · refine List.ext_getElem? fun i => ?_
    rw [List.getElem?_mapIdx, List.getElem?_zipWith]
    by_cases hi : i < a.named.length
    · have hd : i < a.namedDefaults.length := a.length_namedDefaults ▸ hi
      rw [List.getElem?_eq_getElem hi, List.getElem?_eq_getElem hd]
      rfl
    · rw [List.getElem?_eq_none (Nat.not_lt.mp hi)]
      rfl

/-- The defaults reach a positional parameter exactly if they are more than the regular ones. -/
theorem aligned_positional_iff :
    (∀ d ∈ a.aligned.take a.positional.length, d = none)
      ↔ a.defaults.length ≤ a.regular.length := by
  have hle := a.length_defaults
  constructor
  · intro h
    by_contra hlt
    have hmem : some (a.defaults.get ⟨0, by omega⟩) ∈ a.aligned.take a.positional.length := by
      rw [List.mem_take_iff_getElem]
      refine ⟨a.positional.length + a.regular.length - a.defaults.length, ?_, ?_⟩
      · rw [a.length_aligned]
        omega
      · simp [aligned]
    exact absurd (h _ hmem) (Option.some_ne_none _)
  · intro hlen d hd
    have htake : a.aligned.take a.positional.length
        = List.replicate a.positional.length none := by
      rw [aligned, List.take_append_of_le_length (by rw [List.length_replicate]; omega),
        List.take_replicate, Nat.min_eq_left (by omega)]
    exact List.eq_of_mem_replicate (htake ▸ hd)

theorem length_take_aligned :
    (a.aligned.take a.positional.length).length = a.positional.length := by
  rw [List.length_take, a.length_aligned]
  omega

end ParamLists

/-! ## Complete signatures -/

/-- The parts of a signature that shows every parameter with its default. -/
def Params.fullParts : Params → Except PrintFault (List String)
  | .mk positional regular rest named namedRest => do
    let ps ← positional.mapM Param.fullText
    let rs ← regular.mapM Param.fullText
    let star ← starParts "*" (if named.isEmpty then [] else ["*"]) rest
    let ns ← named.mapM Param.fullText
    let last ← starParts "**" [] namedRest
    return ps ++ (if positional.isEmpty then [] else ["/"]) ++ rs ++ star ++ ns ++ last

/-- The signature with every default shown. -/
def FunctionDef.fullSignature (f : FunctionDef) : Printed := do
  let parts ← f.params.fullParts
  let arrow ← arrowText f.returns
  return "(" ++ ", ".intercalate parts ++ ")" ++ arrow

theorem mapM_bareText_zipWith {ss : List Slot} {ds : List (Option Expr)}
    (h : ds.length = ss.length) :
    (List.zipWith Slot.param ss ds).mapM Param.bareText
      = (ss.map (·.param none)).mapM Param.fullText := by
  induction ss generalizing ds with
  | nil => rfl
  | cons s ss ih =>
    obtain ⟨d, ds, rfl⟩ := List.exists_cons_of_length_eq_add_one h
    have hbare : Param.bareText (s.param d) = Param.fullText (s.param none) := by
      obtain ⟨name, _ | type⟩ := s <;> rfl
    rw [List.zipWith_cons_cons, List.map_cons, List.mapM_cons, List.mapM_cons, hbare,
      ih (Nat.succ.inj h)]

theorem map_default_zipWith {ss : List Slot} {ds : List (Option Expr)}
    (h : ds.length = ss.length) : (List.zipWith Slot.param ss ds).map Param.default = ds := by
  refine List.ext_getElem? fun i => ?_
  rw [List.getElem?_map, List.getElem?_zipWith]
  by_cases hi : i < ss.length
  · rw [List.getElem?_eq_getElem hi, List.getElem?_eq_getElem (h ▸ hi)]
    rfl
  · rw [List.getElem?_eq_none (Nat.not_lt.mp hi), List.getElem?_eq_none (by omega)]
    rfl

/-- The printed parts are the complete parts of what is shown. -/
theorem ParamLists.parts_params (a : ParamLists) : a.params.parts = a.shown.fullParts := by
  have hempty : (List.zipWith Slot.param a.positional (a.aligned.take a.positional.length)).isEmpty
      = (a.positional.map (·.param none)).isEmpty := by
    rw [Bool.eq_iff_iff, List.isEmpty_iff_length_eq_zero, List.isEmpty_iff_length_eq_zero,
      List.length_zipWith, a.length_take_aligned, Nat.min_self, List.length_map]
  rw [ParamLists.params, parts_eq, a.shown_eq, Params.fullParts,
    mapM_bareText_zipWith a.length_take_aligned, hempty]

theorem ParamLists.params_eq_shown {a : ParamLists} (h : a.defaults.length ≤ a.regular.length) :
    a.params = a.shown := by
  have hnone := a.aligned_positional_iff.mpr h
  have hbare : List.zipWith Slot.param a.positional (a.aligned.take a.positional.length)
      = a.positional.map (·.param none) := by
    rw [List.eq_replicate_of_mem hnone, a.length_take_aligned]
    refine List.ext_getElem? fun i => ?_
    by_cases hi : i < a.positional.length <;> simp [hi]
  rw [ParamLists.params, a.shown_eq, hbare]

/-- A parameter with a default takes more room when the default is shown. -/
theorem length_bareText {p : Param} {t u : String} (ht : p.bareText = .ok t)
    (hu : p.fullText = .ok u) :
    t.length + (if p.default.isSome then 1 else 0) ≤ u.length := by
  obtain ⟨name, type, _ | value⟩ := p
  · rw [fullText_of_default_eq_none rfl, ht] at hu
    obtain rfl := Except.ok.inj hu
    exact Nat.le_refl _
  · have hbare : Param.bareText (.mk name type none) = .ok t := by
      rw [← ht]
      cases type <;> rfl
    rw [Param.fullText, hbare] at hu
    obtain ⟨_, ⟨⟩, hu⟩ := bind_eq_ok.mp hu
    obtain ⟨d, -, hu⟩ := bind_eq_ok.mp hu
    obtain rfl := Except.ok.inj hu
    have hequals : "=".length = 1 := rfl
    simp only [Param.default, Option.isSome_some, if_true, String.length_append]
    omega

theorem length_intercalate_bareText {ps : List Param} {ts us : List String}
    (hts : ps.mapM Param.bareText = .ok ts) (hus : ps.mapM Param.fullText = .ok us)
    {tail : List String} (htail : tail ≠ []) :
    (", ".intercalate (ts ++ tail)).length + ps.countP (·.default.isSome)
      ≤ (", ".intercalate (us ++ tail)).length := by
  induction ps generalizing ts us with
  | nil =>
    obtain rfl := Except.ok.inj hts
    obtain rfl := Except.ok.inj hus
    exact Nat.le_refl _
  | cons p ps ih =>
    simp only [List.mapM_cons, bind_eq_ok] at hts hus
    obtain ⟨t, ht, ts, hts, heq⟩ := hts
    obtain rfl := Except.ok.inj heq
    obtain ⟨u, hu, us, hus, heq⟩ := hus
    obtain rfl := Except.ok.inj heq
    have hhead := length_bareText ht hu
    have hrest := ih hts hus
    rw [List.cons_append, List.cons_append, String.intercalate_cons_of_ne_nil (by simp [htail]),
      String.intercalate_cons_of_ne_nil (by simp [htail]), List.countP_cons]
    simp only [String.length_append]
    omega

/-- A signature that leaves a default of a positional parameter out is not complete. -/
theorem fullSignature_ne {f : FunctionDef} {positional regular named : List Param}
    {rest namedRest : Option Param}
    (hparams : f.params = .mk positional regular rest named namedRest)
    (hdefault : ∃ p ∈ positional, p.default.isSome) {t : String} (ht : f.signature = .ok t) :
    f.fullSignature ≠ .ok t := by
  intro hfull
  rw [signature_eq, hparams, parts_eq] at ht
  rw [FunctionDef.fullSignature, hparams, Params.fullParts] at hfull
  simp only [bind_eq_ok, bind_assoc, pure_bind] at ht hfull
  obtain ⟨ps, hps, rs, hrs, star, hstar, ns, hns, last, hlast, arrow, harrow, ht⟩ := ht
  rw [hrs, hstar, hns, hlast, harrow] at hfull
  obtain ⟨qs, hqs, _, ⟨⟩, _, ⟨⟩, _, ⟨⟩, _, ⟨⟩, _, ⟨⟩, hfull⟩ := hfull
  -- From the slash on the two signatures are the same, so their lengths differ by the defaults.
  have hlength := congrArg String.length (Except.ok.inj (ht.trans hfull.symm))
  have hcount := List.countP_pos_iff.mpr hdefault
  have hne : positional.isEmpty = false := by
    obtain ⟨p, hp, -⟩ := hdefault
    rw [List.isEmpty_eq_false_iff]
    exact List.ne_nil_of_mem hp
  have hroom := length_intercalate_bareText hps hqs
    (List.cons_ne_nil "/" (rs ++ star ++ ns ++ last))
  simp only [hne, Bool.false_eq_true, if_false, String.length_append, List.append_assoc,
    List.cons_append, List.nil_append] at hlength hroom
  omega

/-- What a signature shows: no default of a positional parameter, the default of a regular
    parameter by its place in the shared list, the default of a named one. That is every default
    exactly if there are no more shared defaults than regular parameters. -/
theorem signature_complete_iff (a : ParamLists) (f : FunctionDef) (hparams : f.params = a.params) :
    f.signature = FunctionDef.fullSignature { f with params := a.shown } ∧
      ∀ t, f.signature = .ok t →
        (f.fullSignature = .ok t ↔ a.defaults.length ≤ a.regular.length) := by
  have hshown : f.signature = FunctionDef.fullSignature { f with params := a.shown } := by
    rw [signature_eq, hparams, a.parts_params]
    rfl
  refine ⟨hshown, fun t ht => ⟨fun hfull => ?_, fun hle => ?_⟩⟩
  · by_contra hlt
    rw [← a.aligned_positional_iff] at hlt
    push Not at hlt
    obtain ⟨d, hd, hsome⟩ := hlt
    rw [← map_default_zipWith a.length_take_aligned] at hd
    obtain ⟨p, hp, rfl⟩ := List.mem_map.mp hd
    exact fullSignature_ne hparams ⟨p, hp, Option.isSome_iff_ne_none.mpr hsome⟩ ht hfull
  · rw [← ht, hshown, ← ParamLists.params_eq_shown hle, ← hparams]

/-- The parameters `(a=1, /, b=2)`. -/
def twoDefaults : ParamLists where
  positional := [⟨"a", none⟩]
  regular := [⟨"b", none⟩]
  rest := none
  named := []
  namedRest := none
  defaults := [.constant (.int 1), .constant (.int 2)]
  namedDefaults := []
  length_defaults := by decide
  length_namedDefaults := rfl

/-- The default of `a` is not shown. -/
theorem positional_default_hidden :
    let f : FunctionDef := ⟨false, ⟨1, 0, 0⟩, "f", twoDefaults.params, [.pass], [], none⟩
    f.signature = .ok "(a, /, b=2)" ∧ f.fullSignature ≠ .ok "(a, /, b=2)" := by
  intro f
  obtain ⟨hshown, hiff⟩ := signature_complete_iff twoDefaults f rfl
  have hsignature : f.signature = .ok "(a, /, b=2)" := hshown.trans rfl
  exact ⟨hsignature, fun hfull => absurd ((hiff _ hsignature).mp hfull) (by decide)⟩

end Docsmith.Source
