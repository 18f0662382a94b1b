-- SUMMARY: Which parameters of a function count as documented.
import Docsmith.Catalog.Data
import Docsmith.Proofs.Catalog.Scan
import Docsmith.Proofs.Docstring.Arguments
import Docsmith.Proofs.Docstring.Overlay
import Docsmith.Proofs.Signature.RoundTrip
import Docsmith.Proofs.Value.Keyed
import Docsmith.Report.Coverage

/-!
# Documented parameters

A function without annotations and defaults is scored by the names of its
parameters. They are read back from its signature without their stars, and a
parameter counts as documented if an argument of the documentation has that very
name. An argument that is documented with its stars therefore counts for nothing.
-/

namespace Docsmith

open Source (FunctionDef Params documentationOf)

/-! ## Scanning a function -/

/-- Without arguments in the metadata, a function has those of its documentation text. -/
theorem args_docstring {s : Scan} {f : FunctionDef} {info : Entries} {d : Docstring}
    (hinfo : info.getText? "args" = none) (h : s.docstring f info = .ok d) :
    d.args = Docstring.argsOf (Docstring.argumentLines s.kinds (documentationOf f.body)) := by
  obtain ⟨endpoint, -, h⟩ := bind_eq_ok.mp h
  rw [Docstring.overlay_args hinfo h]
  cases endpoint with
  | none => exact Docstring.args_parse _ _ _
  | some e =>
    have hfill (kind : Kind) (parsed : Docstring) :
        (if kind = Kind.api then fillEndpoint e parsed else parsed).args = parsed.args := by
      split <;> rfl
    exact (hfill _ _).trans (Docstring.args_parse _ _ _)

/-! ## Plain parameters -/

namespace Source

/-- Parameters with names only, without annotations and defaults. -/
structure Params.IsPlain (ps : Params) : Prop where
  names : ∀ p ∈ ps.all, Lexer.isName p.name.toList = true
  bare : ∀ p ∈ ps.all, p.type = none ∧ p.default = none

/-- All parameters, each with the stars that it is written with. -/
def Params.starred : Params → List (String × Param)
  | .mk positional regular rest named namedRest =>
    (positional ++ regular).map ("", ·) ++ rest.toList.map ("*", ·) ++ named.map ("", ·)
      ++ namedRest.toList.map ("**", ·)

/-- The parameter is documented: it is not the one that a method is called on. -/
def Param.isDocumented (p : Param) : Bool := p.name != "self" && p.name != "cls"

theorem map_snd_starred (ps : Params) : ps.starred.map Prod.snd = ps.all := by
  obtain ⟨positional, regular, rest, named, namedRest⟩ := ps
  simp [Params.starred, Params.all, Function.comp_def]

theorem bare_subset_all (ps : Params) : ps.bare ⊆ ps.all := by
  obtain ⟨positional, regular, rest, named, namedRest⟩ := ps
  intro p hp
  simp only [Params.bare, Params.all, List.mem_append] at hp ⊢
  tauto

theorem Params.IsPlain.isLegible {ps : Params} (h : ps.IsPlain) : ps.IsLegible where
  params p hp := by
    refine ⟨h.names p hp, ?_, ?_⟩
    · rw [(h.bare p hp).1]
      nofun
    · rw [(h.bare p hp).2]
      nofun
  bare p hp := (h.bare p (bare_subset_all ps hp)).2

theorem mapM_printed_of_bare {ps : List Param} (h : ∀ p ∈ ps, p.type = none ∧ p.default = none) :
    ps.mapM Param.printed = .ok (ps.map fun p => ⟨p.name, "", ""⟩) := by
  induction ps with
  | nil => rfl
  | cons p ps ih =>
    obtain ⟨⟨htype, hdefault⟩, hps⟩ := List.forall_mem_cons.mp h
    rw [List.mapM_cons, ih hps, Param.printed, htype, hdefault]
    rfl

/-- The signature of a function with plain parameters is read back as their names. -/
theorem names_params_signature {f : FunctionDef} {s : String} (hplain : f.params.IsPlain)
    (hs : f.signature = .ok s) :
    (Signature.params s).map (·.name)
      = (f.params.all.filter Param.isDocumented).map Param.name := by
  obtain ⟨parts, printed, hparts, hprinted, hread⟩ := hplain.isLegible.exists_parts
  rw [mapM_printed_of_bare hplain.bare] at hprinted
  obtain rfl := Except.ok.inj hprinted
  rw [hread.params_of_signature hparts hs, List.map_map, List.filter_map, List.map_map]
  have hreceiver : ((!Signature.Param.isReceiver ·) ∘ Signature.Param.trimmed
      ∘ fun p : Param => ⟨p.name, "", ""⟩) = Param.isDocumented := by
    funext p
    simp [Signature.Param.isReceiver, Signature.Param.trimmed, Param.isDocumented, bne]
  rw [hreceiver]
  rfl

end Source

namespace Report

/-! ## Scoring a function -/

theorem signatureParams_str (s : String) :
    signatureParams (.str s) = .ok (Signature.params s) := by
  unfold signatureParams
  split
  · rfl
  · rename_i hempty
    obtain rfl : s = "" := by simpa [Value.isTrue] using hempty
    rfl

theorem documentedNames_data (d : Docstring) :
    documentedNames d.data = .ok (d.args.map fun a => .str a.name) := by
  have hitems : d.data.itemsOf "args" = .ok (d.args.map Arg.data) := rfl
  have hnames (as : List Arg) : (as.map Arg.data).mapM
      (fun a => do (← a.field "name").asKey) = .ok (as.map fun a => .str a.name) := by
    induction as with
    | nil => rfl
    | cons a as ih =>
      rw [List.map_cons, List.mapM_cons, ih]
      rfl
  rw [documentedNames, hitems]
  exact hnames d.args

/-- The names that the documentation of a function gives to its arguments. -/
def listedNames (d : FunctionDoc) : List String := d.docstring.args.map (·.name)

/-- A name is documented exactly if an argument has it. -/
theorem any_same_listedNames (d : FunctionDoc) (n : String) :
    (d.docstring.args.map fun a => Value.str a.name).any (·.same (.str n))
      = decide (n ∈ listedNames d) := by
  rw [Bool.eq_iff_iff, decide_eq_true_eq, List.any_map, List.any_eq_true, listedNames,
    List.mem_map]
  simp

/-- What is checked of a function, by its record. -/
def checksOf (d : FunctionDoc) : FunctionChecks :=
  let names := ((Signature.params d.signature).map (·.name)).eraseDups
  { hasDocstring := !d.docstring.summary.isEmpty
    argsDocumented := (names.filter (· ∈ listedNames d)).length
    argsTotal := names.length
    argsMissing := Text.sorted (names.filter (· ∉ listedNames d))
    hasReturns := d.docstring.returns.isSome
    hasReturnAnnotation := Text.contains ['-', '>'] d.signature.toList
    hasExamples := !d.docstring.examples.isEmpty }

theorem functionChecks_data (d : FunctionDoc) : functionChecks d.data = .ok (checksOf d) := by
  have hdocstring : d.data.getD "docstring" (.dict []) = .ok d.docstring.data := rfl
  have hsignature : d.data.getD "signature" (.str "") = .ok (.str d.signature) := rfl
  have hsummary : partOf d.docstring.data "summary" = .ok (.str d.docstring.summary) := rfl
  have hreturns : partOf d.docstring.data "returns"
      = .ok ((d.docstring.returns.map Return.data).getD .none) := rfl
  have hexamples : partOf d.docstring.data "examples" = .ok (.texts d.docstring.examples) := rfl
  have hshows : showsReturn (.str d.signature)
      = .ok (Text.contains ['-', '>'] d.signature.toList) := rfl
  have hreturned : (!((d.docstring.returns.map Return.data).getD .none).isNone)
      = d.docstring.returns.isSome := by
    cases d.docstring.returns <;> rfl
  have hshown : (Value.texts d.docstring.examples).isTrue = !d.docstring.examples.isEmpty := by
    cases d.docstring.examples <;> rfl
  rw [functionChecks, hdocstring, hsignature]
  simp only [bind, Except.bind, signatureParams_str, documentedNames_data, hsummary, hreturns,
    hexamples, hshows, hreturned, hshown, any_same_listedNames]
  simp [checksOf, pure, Except.pure, Value.isTrue]

/-- The item of a function. -/
theorem scoreFunction_data (d : FunctionDoc) : scoreFunction d.data = .ok
    ⟨.str d.fullPath, .str d.name, .str d.kind.name, (checksOf d).score, (checksOf d).data⟩ := by
  rw [scoreFunction, functionChecks_data]
  rfl

/-! ## Documented parameters -/

theorem sorted_eq_nil_iff {ts : List String} : Text.sorted ts = [] ↔ ts = [] := by
  rw [← List.length_eq_zero_iff, ← List.length_eq_zero_iff, Text.sorted,
    (List.mergeSort_perm ts _).length_eq]

/-- Nothing is missing exactly if every name is listed. -/
theorem complete_iff {names listed : List String} :
    (Text.sorted (names.filter (· ∉ listed)) = []
      ∧ (names.filter (· ∈ listed)).length = names.length) ↔ ∀ n ∈ names, n ∈ listed := by
  rw [sorted_eq_nil_iff, List.length_filter_eq_length_iff, List.filter_eq_nil_iff]
  simp

/-- The names that are scored are those of the parameters without their stars. -/
theorem mem_names_iff {ps : Params} {n : String} :
    n ∈ ((ps.all.filter Source.Param.isDocumented).map Source.Param.name).eraseDups
      ↔ ∃ p ∈ ps.starred, p.2.isDocumented = true ∧ p.2.name = n := by
  rw [List.mem_eraseDups, List.mem_map, ← Source.map_snd_starred]
  simp only [List.mem_filter, List.mem_map]
  constructor
  · rintro ⟨_, ⟨⟨p, hp, rfl⟩, hdocumented⟩, hname⟩
    exact ⟨p, hp, hdocumented, hname⟩
  · rintro ⟨p, hp, hdocumented, hname⟩
    exact ⟨p.2, ⟨⟨p, hp, rfl⟩, hdocumented⟩, hname⟩

/-- The item of a scanned function with plain parameters. A parameter counts as documented if its
    name without stars is listed. So if all parameters are listed as they are written, what is
    missing are the names of those with stars, unless they are listed without them too. -/
theorem coverage_of_plain {s : Scan} {f : FunctionDef} {d : FunctionDoc}
    (hscan : s.functionDoc f = .ok d) (hplain : f.params.IsPlain) :
    let names := ((f.params.all.filter Source.Param.isDocumented).map Source.Param.name).eraseDups
    let listed := listedNames d
    ∃ (c : FunctionChecks) (item : Scored),
      scoreFunction d.data = .ok item ∧ item.checks = c.data
      ∧ c.argsMissing = Text.sorted (names.filter (· ∉ listed))
      ∧ c.argsDocumented = (names.filter (· ∈ listed)).length
      ∧ c.argsTotal = names.length
      ∧ (∀ info, Decorator.metadata f = .ok info → info.getText? "args" = none →
        listed = Docstring.itemNames
          (Docstring.argumentLines s.kinds (documentationOf f.body)))
      ∧ ((∀ p ∈ f.params.starred, p.2.isDocumented = true → p.1 ++ p.2.name ∈ listed) →
        (c.argsMissing = [] ∧ c.argsDocumented = c.argsTotal ↔
          ∀ p ∈ f.params.starred, p.1 ≠ "" → p.2.isDocumented = true → p.2.name ∈ listed)) := by
  intro names listed
  obtain ⟨info, hinfo, hdocstring, hsignature⟩ := functionDoc_eq_ok hscan
  have hnames : ((Signature.params d.signature).map (·.name)).eraseDups = names := by
    rw [Source.names_params_signature hplain hsignature]
  have hmissing : (checksOf d).argsMissing = Text.sorted (names.filter (· ∉ listed)) := by
    rw [← hnames]
    rfl
  have hdocumented : (checksOf d).argsDocumented = (names.filter (· ∈ listed)).length := by
    rw [← hnames]
    rfl
  have htotal : (checksOf d).argsTotal = names.length := by
    rw [← hnames]
    rfl
  refine ⟨checksOf d, _, scoreFunction_data d, rfl, hmissing, hdocumented, htotal, ?_, ?_⟩
  · intro info' hinfo' hargs
    obtain rfl := Except.ok.inj (hinfo.symm.trans hinfo')
    exact (congrArg (List.map Arg.name) (args_docstring hargs hdocstring)).trans
      (Docstring.names_argsOf _)
  · intro hspelled
    rw [hmissing, hdocumented, htotal, complete_iff]
    constructor
    · intro hall p hp _ hdoc
      exact hall _ (mem_names_iff.mpr ⟨p, hp, hdoc, rfl⟩)
    · intro hstarred n hn
      obtain ⟨p, hp, hdoc, rfl⟩ := mem_names_iff.mp hn
      by_cases hstars : p.1 = ""
      · have hlisted := hspelled p hp hdoc
        rwa [hstars, String.empty_append] at hlisted
      · exact hstarred p hp hstars hdoc

/-- A function that takes any number of arguments and documents them as it writes them. -/
def starredFunction : FunctionDef where
  isAsync := false
  span := ⟨1, 0, 0⟩
  name := "f"
  params := .mk [] [] (some (.mk "args" none none)) [] none
  body := [.expr (.constant (.str "Summary.\n\nArgs:\n    *args: The values.\n" false))]
  decorators := []
  returns := none

theorem starredFunction_isPlain : starredFunction.params.IsPlain := by
  constructor
  · rintro p hp
    obtain rfl := List.mem_singleton.mp hp
    decide
  · rintro p hp
    obtain rfl := List.mem_singleton.mp hp
    exact ⟨rfl, rfl⟩

/-- All of its parameters are listed as they are written, and yet one of them is missing. -/
theorem starred_argument_missing : ∃ d, Scan.functionDoc ⟨[], "m", []⟩ starredFunction = .ok d
    ∧ starredFunction.params.IsPlain
    ∧ (∀ p ∈ starredFunction.params.starred, p.2.isDocumented = true →
      p.1 ++ p.2.name ∈ listedNames d)
    ∧ ∃ (c : FunctionChecks) (item : Scored), scoreFunction d.data = .ok item
      ∧ item.checks = c.data ∧ c.argsMissing = ["args"] ∧ c.argsDocumented = 0
      ∧ c.argsTotal = 1 := by
  have hscanned : (Scan.functionDoc ⟨[], "m", []⟩ starredFunction).toOption.isSome = true := by
    decide +kernel
  obtain ⟨d, hd⟩ : ∃ d, Scan.functionDoc ⟨[], "m", []⟩ starredFunction = .ok d := by
    cases hscan : Scan.functionDoc ⟨[], "m", []⟩ starredFunction with
    | ok d => exact ⟨d, rfl⟩
    | error e =>
      rw [hscan] at hscanned
      cases hscanned
  obtain ⟨c, item, hitem, hchecks, hmissing, hdocumented, htotal, hlines, hspelled⟩ :=
    coverage_of_plain hd starredFunction_isPlain
  have hlisted : listedNames d = ["*args"] := by
    rw [hlines [] rfl rfl]
    decide +kernel
  rw [hlisted] at hmissing hdocumented
  refine ⟨d, hd, starredFunction_isPlain, ?_, c, item, hitem, hchecks, ?_, ?_, ?_⟩
  · rw [hlisted]
    decide
  · rw [hmissing]
    decide +kernel
  · rw [hdocumented]
    decide
  · rw [htotal]
    decide

end Report

end Docsmith
