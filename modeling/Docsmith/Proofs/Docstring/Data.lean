-- SUMMARY: What the data of a documentation text tells about it.
import Docsmith.Docstring.Data
import Docsmith.Docstring.Parse
import Docsmith.Proofs.Value.Same

/-!
# Data of documentation texts

The data of two documentation texts is compared field by field. What is read from
a text is made of plain scalars, so that equal data comes from equal parts. All
parts of a text can be read off its data but those of an endpoint: a text that is
of another kind and gives neither a method nor a path may describe parameters,
responses and headers, and its data has none of them.
-/

namespace Docsmith

open Value

/-! ## Plain parts -/

/-- An argument with plain parts. -/
structure Arg.IsPlain (a : Arg) : Prop where
  type : a.type.IsPlain
  description : a.description.IsPlain
  default : a.default.IsPlain
  required : a.required.IsPlain

/-- A field with plain parts that has neither a default nor a requirement. -/
structure Arg.IsPlainField (a : Arg) : Prop where
  type : a.type.IsPlain
  description : a.description.IsPlain
  default : a.default = .none
  required : a.required = .none

structure Return.IsPlain (r : Return) : Prop where
  type : r.type.IsPlain
  description : r.description.IsPlain

structure Response.IsPlain (r : Response) : Prop where
  description : r.description.IsPlain
  fields : ∀ f ∈ r.fields, f.IsPlainField

structure Header.IsPlain (h : Header) : Prop where
  description : h.description.IsPlain
  sample : h.sample.IsPlain

structure PayloadField.IsPlain (f : PayloadField) : Prop where
  type : f.type.IsPlain
  description : f.description.IsPlain

structure ConfigField.IsPlain (f : ConfigField) : Prop where
  type : f.type.IsPlain
  description : f.description.IsPlain
  default : f.default.IsPlain
  envVar : f.envVar.IsPlain

/-! ## Data of plain parts -/

theorem Kind.name_injective : Function.Injective Kind.name := by
  intro k l h
  cases k <;> cases l <;> first | rfl | exact absurd h (by decide)

theorem Arg.same_data_iff {a b : Arg} (ha : a.IsPlain) (hb : b.IsPlain) :
    a.data.same b.data = true ↔ a = b := by
  cases a
  cases b
  simp [Arg.data, same_object_cons, same_iff_of_isPlain ha.type hb.type,
    same_iff_of_isPlain ha.description hb.description, same_iff_of_isPlain ha.default hb.default,
    same_iff_of_isPlain ha.required hb.required]

theorem Arg.same_briefData_iff {a b : Arg} (ha : a.IsPlainField) (hb : b.IsPlainField) :
    a.briefData.same b.briefData = true ↔ a = b := by
  obtain ⟨htype, hdescription, hdefault, hrequired⟩ := ha
  obtain ⟨htype', hdescription', hdefault', hrequired'⟩ := hb
  cases a
  cases b
  subst hdefault hdefault' hrequired hrequired'
  simp [Arg.briefData, same_object_cons, same_iff_of_isPlain htype htype',
    same_iff_of_isPlain hdescription hdescription']

theorem Return.same_data_iff {r s : Return} (hr : r.IsPlain) (hs : s.IsPlain) :
    r.data.same s.data = true ↔ r = s := by
  cases r
  cases s
  simp [Return.data, same_object_cons, same_iff_of_isPlain hr.type hs.type,
    same_iff_of_isPlain hr.description hs.description]

theorem Raise.same_data_iff (r s : Raise) : r.data.same s.data = true ↔ r = s := by
  cases r
  cases s
  simp [Raise.data, same_object_cons]

theorem Response.same_data_iff {r s : Response} (hr : r.IsPlain) (hs : s.IsPlain) :
    r.data.same s.data = true ↔ r = s := by
  cases r
  cases s
  simp [Response.data, same_object_cons, same_iff_of_isPlain hr.description hs.description,
    same_list_map_iff Arg.same_briefData_iff hr.fields hs.fields]

theorem Header.same_data_iff {h k : Header} (hh : h.IsPlain) (hk : k.IsPlain) :
    h.data.same k.data = true ↔ h = k := by
  cases h
  cases k
  simp [Header.data, same_object_cons, same_iff_of_isPlain hh.description hk.description,
    same_iff_of_isPlain hh.sample hk.sample]

theorem PayloadField.same_data_iff {f g : PayloadField} (hf : f.IsPlain) (hg : g.IsPlain) :
    f.data.same g.data = true ↔ f = g := by
  cases f
  cases g
  simp [PayloadField.data, same_object_cons, same_iff_of_isPlain hf.type hg.type,
    same_iff_of_isPlain hf.description hg.description]

theorem ConfigField.same_data_iff {f g : ConfigField} (hf : f.IsPlain) (hg : g.IsPlain) :
    f.data.same g.data = true ↔ f = g := by
  cases f
  cases g
  simp [ConfigField.data, same_object_cons, same_iff_of_isPlain hf.type hg.type,
    same_iff_of_isPlain hf.description hg.description, same_iff_of_isPlain hf.default hg.default,
    same_iff_of_isPlain hf.envVar hg.envVar]

namespace Docstring

/-- A documentation text that is made of plain parts. -/
structure HasPlainParts (d : Docstring) : Prop where
  args : ∀ a ∈ d.args, a.IsPlain
  returns : ∀ r ∈ d.returns, r.IsPlain
  attributes : ∀ a ∈ d.attributes, a.IsPlain
  pathParams : ∀ a ∈ d.pathParams, a.IsPlain
  queryParams : ∀ a ∈ d.queryParams, a.IsPlain
  requestBody : ∀ a ∈ d.requestBody, a.IsPlain
  responses : ∀ r ∈ d.responses, r.IsPlain
  headers : ∀ h ∈ d.headers, h.IsPlain
  payload : ∀ f ∈ d.payload, f.IsPlain
  configFields : ∀ f ∈ d.configFields, f.IsPlain
  sectionNames : (d.customSections.map (·.1)).Nodup

/-! ## What is read from a text -/

theorem isPlain_getD_textValue (text : Option Line) : ((text.map textValue).getD .none).IsPlain := by
  cases text <;> trivial

theorem argsOf_isPlain (ls : List Line) : ∀ a ∈ argsOf ls, a.IsPlain := by
  intro a ha
  obtain ⟨e, -, rfl⟩ := List.mem_map.mp ha
  refine ⟨trivial, trivial, isPlain_getD_textValue _, ?_⟩
  simp only [Entry.arg]
  split <;> trivial

theorem returnOf_isPlain (ls : List Line) : ∀ r ∈ returnOf ls, r.IsPlain := by
  intro r hr
  unfold returnOf at hr
  split at hr
  · cases hr
  · split at hr
    · cases hr
    · split at hr <;> (obtain rfl := Option.some.inj hr; exact ⟨trivial, trivial⟩)

theorem responseOf_isPlain (status : Nat) (ls : List Line) : (responseOf status ls).IsPlain := by
  refine ⟨trivial, ?_⟩
  intro f hf
  obtain ⟨i, -, rfl⟩ := List.mem_map.mp hf
  exact ⟨trivial, trivial, rfl, rfl⟩

theorem headersOf_isPlain (ls : List Line) : ∀ h ∈ headersOf ls, h.IsPlain := by
  intro h hh
  obtain ⟨i, -, rfl⟩ := List.mem_map.mp hh
  exact ⟨trivial, trivial⟩

theorem payloadOf_isPlain (ls : List Line) : ∀ f ∈ payloadOf ls, f.IsPlain := by
  intro f hf
  obtain ⟨i, -, rfl⟩ := List.mem_map.mp hf
  exact ⟨trivial, trivial⟩

theorem configFieldsOf_isPlain (ls : List Line) : ∀ f ∈ configFieldsOf ls, f.IsPlain := by
  intro f hf
  obtain ⟨e, -, rfl⟩ := List.mem_map.mp hf
  exact ⟨trivial, trivial, isPlain_getD_textValue _, trivial⟩

theorem mem_names_putSection {ss : List (String × String)} {name content n : String}
    (h : n ∈ (putSection ss name content).map (·.1)) : n = name ∨ n ∈ ss.map (·.1) := by
  fun_induction putSection ss name content with
  | case1 => exact .inl (by simpa using h)
  | case2 k c rest name content hk => exact .inr h
  | case3 k c rest name content hk ih =>
    obtain rfl | hrest := List.mem_cons.mp h
    · exact .inr List.mem_cons_self
    · exact (ih hrest).imp_right (List.mem_cons_of_mem k)

theorem nodup_putSection {ss : List (String × String)} (h : (ss.map (·.1)).Nodup)
    (name content : String) : ((putSection ss name content).map (·.1)).Nodup := by
  fun_induction putSection ss name content with
  | case1 => simp
  | case2 k c rest name content hk => exact h
  | case3 k c rest name content hk ih =>
    obtain ⟨hfresh, hrest⟩ := List.nodup_cons.mp h
    refine List.nodup_cons.mpr ⟨fun hmem => ?_, ih hrest⟩
    obtain rfl | hmem := mem_names_putSection hmem
    · simp at hk
    · exact hfresh hmem

/-- Reading a section keeps the parts plain. -/
theorem HasPlainParts.addSection {d : Docstring} (hd : d.HasPlainParts) (s : Section) :
    (d.addSection s).HasPlainParts := by
  fun_cases Docstring.addSection d s
  case case1 => exact { hd with args := argsOf_isPlain s.lines }
  case case2 => exact { hd with attributes := argsOf_isPlain s.lines }
  case case3 => exact { hd with returns := returnOf_isPlain s.lines }
  case case7 => exact { hd with pathParams := argsOf_isPlain s.lines }
  case case8 => exact { hd with queryParams := argsOf_isPlain s.lines }
  case case9 => exact { hd with requestBody := argsOf_isPlain s.lines }
  case case10 => exact { hd with headers := headersOf_isPlain s.lines }
  case case11 => exact { hd with payload := payloadOf_isPlain s.lines }
  case case12 => exact { hd with configFields := configFieldsOf_isPlain s.lines }
  case case14 => exact { hd with sectionNames := nodup_putSection hd.sectionNames _ _ }
  all_goals exact { hd with }

theorem HasPlainParts.addSections {d : Docstring} (hd : d.HasPlainParts) (known : List (List Char))
    (ls : List Line) : (d.addSections known ls).HasPlainParts := by
  have hsections (ss : List Section) : (ss.foldl Docstring.addSection d).HasPlainParts := by
    induction ss generalizing d with
    | nil => exact hd
    | cons s ss ih => exact ih (hd.addSection s)
  refine { hsections (sectionsOf known ls) with responses := ?_ }
  intro r hr
  obtain ⟨⟨status, lines⟩, -, rfl⟩ := List.mem_map.mp hr
  exact responseOf_isPlain status lines

/-- What is read from a text is plain. -/
theorem hasPlainParts_parse (kinds : List CustomKind) (hint : Option Kind) (text : String) :
    (parse kinds hint text).HasPlainParts := by
  unfold parse
  split
  · constructor <;> simp
  · apply HasPlainParts.addSections
    constructor <;> simp [Body.record]

/-! ## Groups of fields -/

/-- The data has the sections of an endpoint. -/
def IsEndpoint (d : Docstring) : Prop := d.kind = .api ∨ d.method ≠ "" ∨ d.path ≠ ""

/-- The data has the sections of an event. -/
def IsEvent (d : Docstring) : Prop := d.kind = .event ∨ d.trigger ≠ "" ∨ d.payload ≠ []

/-- The data has the settings. -/
def IsConfig (d : Docstring) : Prop := d.kind = .config ∨ d.configFields ≠ []

/-- The parts of the endpoints that they describe are the same. -/
@[mk_iff]
structure SameEndpoint (d e : Docstring) : Prop where
  pathParams : d.pathParams = e.pathParams
  queryParams : d.queryParams = e.queryParams
  requestBody : d.requestBody = e.requestBody
  responses : d.responses = e.responses
  headers : d.headers = e.headers

/-- All parts but those of endpoints are the same; the sections of other names may stand in
    another order. -/
structure Alike (d e : Docstring) : Prop where
  summary : d.summary = e.summary
  description : d.description = e.description
  kind : d.kind = e.kind
  args : d.args = e.args
  returns : d.returns = e.returns
  raises : d.raises = e.raises
  examples : d.examples = e.examples
  attributes : d.attributes = e.attributes
  notes : d.notes = e.notes
  method : d.method = e.method
  path : d.path = e.path
  trigger : d.trigger = e.trigger
  payload : d.payload = e.payload
  configFields : d.configFields = e.configFields
  customSections : d.customSections.Perm e.customSections

section Groups

variable {d e : Docstring}

theorem same_argsData {as bs : List Arg} (has : ∀ a ∈ as, a.IsPlain) (hbs : ∀ b ∈ bs, b.IsPlain) :
    (argsData as).same (argsData bs) = true ↔ as = bs :=
  same_list_map_iff Arg.same_data_iff has hbs

theorem same_returns {r s : Option Return} (hr : ∀ x ∈ r, x.IsPlain) (hs : ∀ x ∈ s, x.IsPlain) :
    ((r.map Return.data).getD .none).same ((s.map Return.data).getD .none) = true ↔ r = s := by
  cases r with
  | none => cases s <;> simp [Return.data, object, same, sameScalar, integer?]
  | some x =>
    cases s with
    | none => simp [Return.data, object, same]
    | some y => simpa using Return.same_data_iff (hr x rfl) (hs y rfl)

theorem same_raises (rs ss : List Raise) :
    (Value.list (rs.map Raise.data)).same (.list (ss.map Raise.data)) = true ↔ rs = ss := by
  apply same_list_map_iff (P := fun _ => True)
  · intro r s _ _
    exact Raise.same_data_iff r s
  · simp
  · simp

theorem same_generalData (hd : d.HasPlainParts) (he : e.HasPlainParts) :
    (object d.generalData).same (object e.generalData) = true
      ↔ d.summary = e.summary ∧ d.description = e.description ∧ d.kind = e.kind ∧ d.args = e.args
        ∧ d.returns = e.returns ∧ d.raises = e.raises ∧ d.examples = e.examples
        ∧ d.attributes = e.attributes ∧ d.notes = e.notes := by
  simp [generalData, same_object_cons, same_argsData hd.args he.args, same_returns hd.returns he.returns,
    same_argsData hd.attributes he.attributes, same_texts_iff, same_raises,
    Kind.name_injective.eq_iff]

theorem same_endpointData (hd : d.HasPlainParts) (he : e.HasPlainParts) :
    (object d.endpointData).same (object e.endpointData) = true
      ↔ (d.IsEndpoint ↔ e.IsEndpoint)
        ∧ (d.IsEndpoint → d.method = e.method ∧ d.path = e.path ∧ d.SameEndpoint e) := by
  have hshown (d : Docstring) :
      (d.kind == .api || !d.method.isEmpty || !d.path.isEmpty) = true ↔ d.IsEndpoint := by
    simp [IsEndpoint, or_assoc]
  unfold endpointData
  rw [same_object_ite (by simp) (by simp), hshown, hshown]
  simp [same_object_cons, same_argsData hd.pathParams he.pathParams,
    same_argsData hd.queryParams he.queryParams, same_argsData hd.requestBody he.requestBody,
    same_list_map_iff Response.same_data_iff hd.responses he.responses,
    same_list_map_iff Header.same_data_iff hd.headers he.headers, sameEndpoint_iff]

theorem same_eventData (hd : d.HasPlainParts) (he : e.HasPlainParts) :
    (object d.eventData).same (object e.eventData) = true
      ↔ (d.IsEvent ↔ e.IsEvent) ∧ (d.IsEvent → d.trigger = e.trigger ∧ d.payload = e.payload) := by
  have hshown (d : Docstring) :
      (d.kind == .event || !d.trigger.isEmpty || !d.payload.isEmpty) = true ↔ d.IsEvent := by
    simp [IsEvent, or_assoc]
  unfold eventData
  rw [same_object_ite (by simp) (by simp), hshown, hshown]
  simp [same_object_cons, same_list_map_iff PayloadField.same_data_iff hd.payload he.payload]

theorem same_configData (hd : d.HasPlainParts) (he : e.HasPlainParts) :
    (object d.configData).same (object e.configData) = true
      ↔ (d.IsConfig ↔ e.IsConfig) ∧ (d.IsConfig → d.configFields = e.configFields) := by
  have hshown (d : Docstring) :
      (d.kind == .config || !d.configFields.isEmpty) = true ↔ d.IsConfig := by
    simp [IsConfig]
  unfold configData
  rw [same_object_ite (by simp) (by simp), hshown, hshown]
  simp [same_object_cons,
    same_list_map_iff ConfigField.same_data_iff hd.configFields he.configFields]

theorem same_customData (hd : d.HasPlainParts) :
    (object d.customData).same (object e.customData) = true
      ↔ d.customSections.Perm e.customSections := by
  unfold customData
  rw [← ite_not, ← ite_not (e.customSections.isEmpty = true),
    same_object_ite (by simp) (by simp), same_object_cons (by simp) (by simp),
    same_object_texts hd.sectionNames]
  constructor
  · rintro ⟨hshown, hperm⟩
    by_cases hempty : d.customSections.isEmpty = true
    · have hempty' := not_not.mp (mt hshown.mpr (not_not.mpr hempty))
      rw [List.isEmpty_iff.mp hempty, List.isEmpty_iff.mp hempty']
    · exact (hperm hempty).1
  · intro hperm
    exact ⟨by rw [hperm.isEmpty_eq], fun _ => ⟨hperm, same_object_nil⟩⟩

end Groups

/-! ## The data as a whole -/

section Whole

/-- The names of the general sections. -/
def generalNames : List String :=
  ["summary", "description", "doc_type", "args", "returns", "raises", "examples", "attributes",
    "notes"]

/-- The names of the sections of an endpoint. -/
def endpointNames : List String :=
  ["http_method", "path", "path_params", "query_params", "request_body", "responses", "headers"]

/-- The names of the sections of an event. -/
def eventNames : List String := ["trigger", "payload"]

theorem names_endpointData (d : Docstring) :
    (d.endpointData.map (·.1)).Sublist endpointNames :=
  names_ite_sublist rfl

theorem names_eventData (d : Docstring) : (d.eventData.map (·.1)).Sublist eventNames :=
  names_ite_sublist rfl

theorem names_configData (d : Docstring) : (d.configData.map (·.1)).Sublist ["config_fields"] :=
  names_ite_sublist rfl

theorem names_customData (d : Docstring) :
    (d.customData.map (·.1)).Sublist ["custom_sections"] := by
  unfold customData
  rw [← ite_not]
  exact names_ite_sublist rfl

/-- The data of two texts is equal group by group. -/
theorem same_data_iff_groups (d e : Docstring) : d.data.same e.data = true
    ↔ (((((object d.generalData).same (object e.generalData) = true
      ∧ (object d.endpointData).same (object e.endpointData) = true)
      ∧ (object d.eventData).same (object e.eventData) = true)
      ∧ (object d.configData).same (object e.configData) = true)
      ∧ (object d.customData).same (object e.customData) = true) := by
  have hgeneral (d : Docstring) : (d.generalData.map (·.1)).Sublist generalNames :=
    List.Sublist.refl _
  have hendpoint (d : Docstring) := (hgeneral d).append (names_endpointData d)
  have hevent (d : Docstring) := (hendpoint d).append (names_eventData d)
  have hconfig (d : Docstring) := (hevent d).append (names_configData d)
  simp only [← List.map_append] at hendpoint hevent hconfig
  rw [data, data, same_object_append (by decide) (hconfig d) (hconfig e) (names_customData d)
    (names_customData e), same_object_append (by decide) (hevent d) (hevent e) (names_configData d)
    (names_configData e), same_object_append (by decide) (hendpoint d) (hendpoint e)
    (names_eventData d) (names_eventData e), same_object_append (by decide) (hgeneral d) (hgeneral e)
    (names_endpointData d) (names_endpointData e)]

theorem same_data_iff_of_hasPlainParts {d e : Docstring} (hd : d.HasPlainParts) (he : e.HasPlainParts) :
    d.data.same e.data = true ↔ d.Alike e ∧ (d.IsEndpoint → d.SameEndpoint e) := by
  rw [same_data_iff_groups, same_generalData hd he, same_endpointData hd he, same_eventData hd he,
    same_configData hd he, same_customData hd]
  constructor
  · rintro ⟨⟨⟨⟨⟨hsummary, hdescription, hkind, hargs, hreturns, hraises, hexamples, hattributes,
      hnotes⟩, hendpoint, hendpoint'⟩, hevent, hevent'⟩, hconfig, hconfig'⟩, hcustom⟩
    -- A group that is left out of both has its heads empty in both.
    have hheads : d.method = e.method ∧ d.path = e.path := by
      by_cases h : d.IsEndpoint
      · exact ⟨(hendpoint' h).1, (hendpoint' h).2.1⟩
      · have h' := mt hendpoint.mpr h
        simp only [IsEndpoint, not_or, not_not] at h h'
        exact ⟨h.2.1.trans h'.2.1.symm, h.2.2.trans h'.2.2.symm⟩
    have htrigger : d.trigger = e.trigger ∧ d.payload = e.payload := by
      by_cases h : d.IsEvent
      · exact hevent' h
      · have h' := mt hevent.mpr h
        simp only [IsEvent, not_or, not_not] at h h'
        exact ⟨h.2.1.trans h'.2.1.symm, h.2.2.trans h'.2.2.symm⟩
    have hfields : d.configFields = e.configFields := by
      by_cases h : d.IsConfig
      · exact hconfig' h
      · have h' := mt hconfig.mpr h
        simp only [IsConfig, not_or, not_not] at h h'
        exact h.2.trans h'.2.symm
    exact ⟨⟨hsummary, hdescription, hkind, hargs, hreturns, hraises, hexamples, hattributes, hnotes,
      hheads.1, hheads.2, htrigger.1, htrigger.2, hfields, hcustom⟩, fun h => (hendpoint' h).2.2⟩
  · rintro ⟨h, hendpoint⟩
    refine ⟨⟨⟨⟨⟨h.summary, h.description, h.kind, h.args, h.returns, h.raises, h.examples,
      h.attributes, h.notes⟩, ?_, fun hd => ⟨h.method, h.path, hendpoint hd⟩⟩, ?_,
      fun _ => ⟨h.trigger, h.payload⟩⟩, ?_, fun _ => h.configFields⟩, h.customSections⟩
    · rw [IsEndpoint, IsEndpoint, h.kind, h.method, h.path]
    · rw [IsEvent, IsEvent, h.kind, h.trigger, h.payload]
    · rw [IsConfig, IsConfig, h.kind, h.configFields]

end Whole

/-- The data of two texts is equal exactly if all their parts are the same, those of endpoints
    only if one is shown: a text that is not of that kind, and has neither a method nor a path,
    has the same data whatever parameters, responses and headers it describes. -/
theorem parse_data_same_iff (kinds : List CustomKind) (hint hint' : Option Kind)
    (text text' : String) :
    (parse kinds hint text).data.same (parse kinds hint' text').data = true
      ↔ (parse kinds hint text).Alike (parse kinds hint' text')
        ∧ ((parse kinds hint text).IsEndpoint
          → (parse kinds hint text).SameEndpoint (parse kinds hint' text')) :=
  same_data_iff_of_hasPlainParts (hasPlainParts_parse kinds hint text) (hasPlainParts_parse kinds hint' text')

/-- A text that describes a header has the same data as one that does not. -/
theorem header_not_in_data :
    let plain := parse [] none "S."
    let withHeader := parse [] none "S.\n\nHeaders:\n    X: y\n"
    withHeader.data.same plain.data = true ∧ withHeader.Alike plain
      ∧ ¬ withHeader.SameEndpoint plain := by
  have hdata : (parse [] none "S.\n\nHeaders:\n    X: y\n").data.same (parse [] none "S.").data
      = true := by
    decide +kernel
  have hcount : (parse [] none "S.\n\nHeaders:\n    X: y\n").headers.length
      ≠ (parse [] none "S.").headers.length := by
    decide +kernel
  refine ⟨hdata, ((parse_data_same_iff [] none none _ _).mp hdata).1, ?_⟩
  intro h
  exact hcount (congrArg List.length h.headers)

end Docstring

end Docsmith
