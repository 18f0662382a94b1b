-- SUMMARY: Which functions count as endpoints by their decorators.
import Docsmith.Build.Data
import Docsmith.Proofs.Catalog.Scan
import Docsmith.Proofs.Docstring.Data
import Docsmith.Proofs.Docstring.Directive
import Docsmith.Proofs.Docstring.Overlay
import Docsmith.Proofs.Value.Keyed

/-!
# Endpoints among the functions

A function with a decorator that marks an endpoint is one, unless its
documentation text or its metadata names another kind. That a decorator says so
is only a hint to the reader of the documentation text, and the hint gets lost
when there is no text: an endpoint without documentation is listed among the
plain functions.
-/

namespace Docsmith

open Source

/-! ## Decorators -/

/-- A decorator marks an endpoint by its name. -/
abbrev MarksByName (e : Expr) : Prop :=
  ∃ name, e.decoratorName = .ok name ∧ Decorator.marksEndpoint name = true

theorem Decorator.isSome_of_marked {before : List String} {ds : List Expr}
    {e : Option Endpoint} (h : endpointFrom? before ds = .ok e) (hmarks : ∃ d ∈ ds, MarksByName d) :
    e.isSome := by
  induction ds generalizing before with
  | nil => simp at hmarks
  | cons d ds ih =>
    rw [endpointFrom?] at h
    obtain ⟨name, hname, h⟩ := bind_eq_ok.mp h
    split at h
    · obtain rfl := Except.ok.inj h
      rfl
    · rename_i hno
      refine ih h ((List.or_exists_of_exists_mem_cons hmarks).resolve_left ?_)
      rintro ⟨other, hother, hyes⟩
      obtain rfl := Except.ok.inj (hname.symm.trans hother)
      exact hno hyes

/-! ## The kind of a documentation text -/

/-- A text without a directive for the kind takes the kind from the hint, but an empty text does
    not even do that. -/
theorem Docstring.kind_parse {kinds : List CustomKind} {hint : Kind} {text : String}
    (h : ∀ l ∈ dedentedLines text.toList, kindOfLine? kinds l = none) :
    (parse kinds (some hint) text).kind = if text = "" then .function else hint := by
  split
  · rename_i hempty
    subst hempty
    rfl
  · rename_i hne
    have hfull : text.isEmpty = false := by simpa using hne
    have hnone : (dedentedLines text.toList).findSome? (kindOfLine? kinds) = none :=
      List.findSome?_eq_none_iff.mpr h
    rw [kind_parse_eq kinds (some hint) hfull, hnone]
    rfl

/-- A function that is an endpoint by its decorators, while neither its documentation text nor
    its metadata names a kind. -/
structure IsMarkedEndpoint (kinds : List CustomKind) (f : FunctionDef) : Prop where
  marked : ∃ e ∈ f.decorators, MarksByName e
  untyped : ∀ l ∈ Docstring.dedentedLines (documentationOf f.body).toList,
    Docstring.kindOfLine? kinds l = none
  plain : ∀ info, Decorator.metadata f = .ok info → info.getText? "doc_type" = none

instance (kinds : List CustomKind) (f : FunctionDef) : Decidable (IsMarkedEndpoint kinds f) :=
  decidable_of_iff ((∃ e ∈ f.decorators, MarksByName e)
    ∧ (∀ l ∈ Docstring.dedentedLines (documentationOf f.body).toList,
      Docstring.kindOfLine? kinds l = none)
    ∧ ∀ info, Decorator.metadata f = .ok info → info.getText? "doc_type" = none)
  ⟨fun ⟨hmarked, huntyped, hplain⟩ => ⟨hmarked, huntyped, hplain⟩,
    fun h => ⟨h.marked, h.untyped, h.plain⟩⟩

/-- A marked endpoint is of the kind for endpoints exactly if it is documented. -/
theorem IsMarkedEndpoint.kind {s : Scan} {f : FunctionDef} {d : FunctionDoc}
    (hf : IsMarkedEndpoint s.kinds f) (hd : s.functionDoc f = .ok d) :
    d.kind = if documentationOf f.body = "" then .function else .api := by
  obtain ⟨info, hinfo, hdocstring, -⟩ := functionDoc_eq_ok hd
  have hplain := hf.plain info hinfo
  obtain ⟨endpoint, hendpoint, hoverlay⟩ := bind_eq_ok.mp hdocstring
  obtain ⟨e, rfl⟩ := Option.isSome_iff_exists.mp
    (Decorator.isSome_of_marked (printing_eq_ok.mp hendpoint) hf.marked)
  have hhint : (kindOfMetadata? info).getD (if (some e).isSome then .api else .function) = .api := by
    simp [kindOfMetadata?, hplain]
  rw [hhint] at hoverlay
  rw [functionDoc_kind hd, Docstring.overlay_kind hplain hoverlay]
  exact Docstring.kind_parse hf.untyped

/-! ## Listing -/

theorem FunctionDoc.kind_eq_of_data_eq {f g : FunctionDoc} (h : f.data = g.data) :
    f.kind = g.kind := by
  have hfield (f : FunctionDoc) : f.data.field "doc_type" = .ok (.str f.kind.name) := rfl
  have hname := (hfield f).symm.trans ((congrArg (·.field "doc_type") h).trans (hfield g))
  exact Kind.name_injective (Value.str.inj (Except.ok.inj hname))

/-- A function is listed among those of some kinds exactly if its own is one of them. -/
theorem FunctionDoc.mem_data_filter_iff {fs : List FunctionDoc} {d : FunctionDoc} (hd : d ∈ fs)
    (p : Kind → Bool) :
    d.data ∈ (fs.filter fun f => p f.kind).map FunctionDoc.data ↔ p d.kind = true := by
  rw [List.mem_map]
  constructor
  · rintro ⟨f, hf, hdata⟩
    rw [← FunctionDoc.kind_eq_of_data_eq hdata]
    exact (List.mem_filter.mp hf).2
  · exact fun h => ⟨d, List.mem_filter.mpr ⟨hd, h⟩, rfl⟩

namespace Build

/-- The two lists of functions in the documentation of a project. -/
theorem documentation_lists {catalog : Catalog} {settings : Settings} {data : Entries}
    (h : documentation catalog settings = .ok data) :
    data.getText? "functions" = some (.list
        (((functionsOf catalog).filter (·.kind != Kind.api)).map FunctionDoc.data))
      ∧ data.getText? "api_endpoints" = some (.list
        (((functionsOf catalog).filter (·.kind == Kind.api)).map FunctionDoc.data)) := by
  unfold documentation at h
  simp only [bind_eq_ok] at h
  obtain ⟨start, hstart, coverage, -, calls, -, todos, -, dead, -, h⟩ := h
  obtain rfl := Except.ok.inj h
  obtain ⟨pages, -, hstart⟩ := bind_eq_ok.mp hstart
  obtain rfl := Except.ok.inj hstart
  constructor <;>
  · repeat rw [Entries.getText?_putText_ne (by decide)]
    rfl

/-- An endpoint that only its decorators mark is listed among the endpoints if it is documented,
    and among the other functions if not. -/
theorem listed_by_documentation {kinds : List CustomKind} {file base : Path} {bytes : List UInt8}
    {m : ModuleDoc} {body : List Stmt} {catalog : Catalog} {settings : Settings} {data : Entries}
    (hscan : scanModule kinds file base bytes = .ok m) (hbody : parse (readText bytes) = .ok body)
    (hm : m ∈ catalog.modules) (hdata : documentation catalog settings = .ok data) :
    ∃ functions endpoints, data.getText? "functions" = some (.list functions)
      ∧ data.getText? "api_endpoints" = some (.list endpoints)
      ∧ List.Forall₂ (fun f d => IsMarkedEndpoint kinds f →
          d.kind = (if documentationOf f.body = "" then .function else .api)
          ∧ (d.data ∈ endpoints ↔ documentationOf f.body ≠ "")
          ∧ (d.data ∈ functions ↔ documentationOf f.body = ""))
        (Source.functionsOf body) m.functions := by
  obtain ⟨hfunctions, hendpoints⟩ := documentation_lists hdata
  obtain ⟨s, rfl, hdocs⟩ := scanModule_functions hscan hbody
  refine ⟨_, _, hfunctions, hendpoints, List.forall₂_iff_zip.mpr ⟨hdocs.length_eq, ?_⟩⟩
  intro f d hfd hf
  have hkind := hf.kind (List.forall₂_zip hdocs hfd)
  have hd : d ∈ functionsOf catalog := List.mem_flatMap.mpr ⟨m, hm, (List.of_mem_zip hfd).2⟩
  refine ⟨hkind, ?_, ?_⟩
  · rw [FunctionDoc.mem_data_filter_iff hd (· == Kind.api), hkind]
    split <;> simp_all
  · rw [FunctionDoc.mem_data_filter_iff hd (· != Kind.api), hkind]
    split <;> simp_all

/-- A file with an endpoint that is not documented. -/
def silentEndpoint : List UInt8 := "@app.get(\"/x\")\ndef f():\n    pass\n".toUTF8.toList

theorem silentEndpoint_parses : ∃ body, parse (readText silentEndpoint) = .ok body
    ∧ (Source.functionsOf body).length = 1
    ∧ ∀ f ∈ Source.functionsOf body, IsMarkedEndpoint [] f ∧ documentationOf f.body = "" := by
  decide +kernel

theorem silentEndpoint_documented :
    ∃ m, scanModule [] ⟨"", ["m.py"]⟩ ⟨"", []⟩ silentEndpoint = .ok m
      ∧ ∃ data, documentation ⟨[m], []⟩ ⟨[], none⟩ = .ok data ∧ True := by
  decide +kernel

/-- A decorator marks it as an endpoint, and yet it is listed as a plain function. -/
theorem silentEndpoint_listed_as_function :
    ∃ m f d data functions endpoints,
      scanModule [] ⟨"", ["m.py"]⟩ ⟨"", []⟩ silentEndpoint = .ok m ∧ m.functions = [d]
      ∧ documentation ⟨[m], []⟩ ⟨[], none⟩ = .ok data
      ∧ (∃ body, parse (readText silentEndpoint) = .ok body ∧ Source.functionsOf body = [f])
      ∧ IsMarkedEndpoint [] f
      ∧ data.getText? "functions" = some (.list functions)
      ∧ data.getText? "api_endpoints" = some (.list endpoints)
      ∧ d.kind = .function ∧ d.data ∉ endpoints ∧ d.data ∈ functions := by
  obtain ⟨body, hbody, hlength, hmarked⟩ := silentEndpoint_parses
  obtain ⟨m, hm, data, hdata, -⟩ := silentEndpoint_documented
  obtain ⟨f, hf⟩ := List.length_eq_one_iff.mp hlength
  obtain ⟨functions, endpoints, hfunctions, hendpoints, hlisted⟩ :=
    listed_by_documentation hm hbody (List.mem_singleton_self m) hdata
  rw [hf, List.forall₂_cons_left_iff] at hlisted
  obtain ⟨d, rest, hd, hrest, hdocs⟩ := hlisted
  obtain rfl := List.forall₂_nil_left_iff.mp hrest
  obtain ⟨hendpoint, hsilent⟩ := hmarked f (by simp [hf])
  obtain ⟨hkind, hinEndpoints, hinFunctions⟩ := hd hendpoint
  rw [if_pos hsilent] at hkind
  exact ⟨m, f, d, data, functions, endpoints, hm, hdocs, hdata, ⟨body, hbody, hf⟩, hendpoint,
    hfunctions, hendpoints, hkind, fun h => hinEndpoints.mp h hsilent, hinFunctions.mpr hsilent⟩

end Build

end Docsmith
