-- SUMMARY: What metadata does to the fields of a documentation text.
import Docsmith.Docstring.Overlay
import Docsmith.Proofs.Answer

/-!
# Metadata over a documentation text

Every key sets one field of a text: to what its value gives, or else to what was
there before. So a field hangs only on its own key, and laying metadata over a text
leaves all other fields alone, changes nothing the second time, and does not hang on
the order of metadata with different keys. Only the key for responses refuses some
values: each response needs a whole number as its status, and a dictionary of fields
if it has any.
-/

namespace Docsmith.Docstring

/-! ## Responses -/

/-- The response that an entry describes can be read. An entry of another form describes none. -/
def IsReadableResponse (entry : Value × Value) : Prop :=
  match entry.2 with
  | .str _ => HasAnswer entry.1.whole
  | .dict es => (partD es "fields" (.dict [])).isDict = true ∧ HasAnswer entry.1.whole
  | _ => True

theorem hasAnswer_entries (v : Value) : HasAnswer v.entries ↔ v.isDict = true := by
  cases v <;> simp [Value.entries, Value.isDict]

theorem hasAnswer_responseOf? (entry : Value × Value) :
    HasAnswer (responseOf? entry) ↔ IsReadableResponse entry := by
  obtain ⟨key, v⟩ := entry
  cases v with
  | str s => exact hasAnswer_bind_pure
  | dict es =>
    refine (hasAnswer_bind_iff_and fun fields => hasAnswer_bind_pure).trans ?_
    exact and_congr_left' (hasAnswer_entries _)
  | _ => simp [responseOf?, IsReadableResponse]

/-- The responses that a value describes can be read. A value that is no dictionary describes
    none. -/
def ReadsResponses : Value → Prop
  | .dict es => ∀ entry ∈ es, IsReadableResponse entry
  | _ => True

theorem hasAnswer_responsesOfEntries (es : Entries) :
    HasAnswer (responsesOfEntries es) ↔ ∀ entry ∈ es, IsReadableResponse entry := by
  induction es with
  | nil => simp [responsesOfEntries]
  | cons entry es ih =>
    rw [responsesOfEntries, List.forall_mem_cons, ← hasAnswer_responseOf?, ← ih]
    exact hasAnswer_bind_iff_and fun r => hasAnswer_bind_pure

/-! ## Parts -/

/-- The fields of a documentation text that metadata can set: all but the description and the
    sections of other names. -/
inductive Field where
  | summary | method | path | trigger | kind | args | returns | raises | examples | notes
  | attributes | pathParams | queryParams | requestBody | responses | headers | payload
  | configFields
deriving DecidableEq

namespace Field

/-- The fields in the order in which they are set. -/
def all : List Field := [
  .summary, .method, .path, .trigger, .kind, .args, .returns, .raises, .examples, .notes,
  .attributes, .pathParams, .queryParams, .requestBody, .responses, .headers, .payload,
  .configFields]

/-- The key of the metadata that sets a field. -/
def key : Field → String
  | summary => "description"
  | method => "method"
  | path => "path"
  | trigger => "trigger"
  | kind => "doc_type"
  | args => "args"
  | returns => "returns"
  | raises => "raises"
  | examples => "examples"
  | notes => "notes"
  | attributes => "attributes"
  | pathParams => "path_params"
  | queryParams => "query_params"
  | requestBody => "request_body"
  | responses => "responses"
  | headers => "headers"
  | payload => "payload"
  | configFields => "config_fields"

/-- What a field holds. -/
def Content : Field → Type
  | summary | method | path | trigger => String
  | kind => Kind
  | args | attributes | pathParams | queryParams | requestBody => List Arg
  | returns => Option Return
  | raises => List Raise
  | examples | notes => List String
  | responses => List Response
  | headers => List Header
  | payload => List PayloadField
  | configFields => List ConfigField

/-- What a field of a documentation text holds. -/
def get : (p : Field) → Docstring → p.Content
  | summary, d => d.summary
  | method, d => d.method
  | path, d => d.path
  | trigger, d => d.trigger
  | kind, d => d.kind
  | args, d => d.args
  | returns, d => d.returns
  | raises, d => d.raises
  | examples, d => d.examples
  | notes, d => d.notes
  | attributes, d => d.attributes
  | pathParams, d => d.pathParams
  | queryParams, d => d.queryParams
  | requestBody, d => d.requestBody
  | responses, d => d.responses
  | headers, d => d.headers
  | payload, d => d.payload
  | configFields, d => d.configFields

/-- The documentation text with another content of a field. -/
def set : (p : Field) → p.Content → Docstring → Docstring
  | summary, x, d => { d with summary := x }
  | method, x, d => { d with method := x }
  | path, x, d => { d with path := x }
  | trigger, x, d => { d with trigger := x }
  | kind, x, d => { d with kind := x }
  | args, x, d => { d with args := x }
  | returns, x, d => { d with returns := x }
  | raises, x, d => { d with raises := x }
  | examples, x, d => { d with examples := x }
  | notes, x, d => { d with notes := x }
  | attributes, x, d => { d with attributes := x }
  | pathParams, x, d => { d with pathParams := x }
  | queryParams, x, d => { d with queryParams := x }
  | requestBody, x, d => { d with requestBody := x }
  | responses, x, d => { d with responses := x }
  | headers, x, d => { d with headers := x }
  | payload, x, d => { d with payload := x }
  | configFields, x, d => { d with configFields := x }

@[simp]
theorem get_set (p : Field) (x : p.Content) (d : Docstring) : p.get (p.set x d) = x := by
  cases p <;> rfl

theorem get_set_of_ne {p q : Field} (h : p ≠ q) (x : p.Content) (d : Docstring) :
    q.get (p.set x d) = q.get d := by
  cases p <;> cases q <;> first | rfl | exact absurd rfl h

theorem set_get (p : Field) (d : Docstring) : p.set (p.get d) d = d := by
  cases p <;> rfl

theorem description_set (p : Field) (x : p.Content) (d : Docstring) :
    (p.set x d).description = d.description := by
  cases p <;> rfl

theorem customSections_set (p : Field) (x : p.Content) (d : Docstring) :
    (p.set x d).customSections = d.customSections := by
  cases p <;> rfl

theorem mem_all (p : Field) : p ∈ all := by
  cases p <;> decide

/-- The fields, the description and the sections of other names are all that a text says. -/
theorem ext {d d' : Docstring} (h : ∀ p : Field, p.get d = p.get d')
    (hdescription : d.description = d'.description)
    (hsections : d.customSections = d'.customSections) : d = d' := by
  obtain ⟨⟩ := d
  obtain ⟨⟩ := d'
  simp only [mk.injEq]
  exact ⟨h summary, hdescription, h kind, h args, h returns, h raises, h examples, h attributes,
    h notes, h method, h path, h pathParams, h queryParams, h requestBody, h responses, h headers,
    h trigger, h payload, h configFields, hsections⟩

/-! ## What a value gives -/

/-- What the entries of a dictionary give; other values give nothing. -/
def ofEntries {α : Type} (f : Entries → α) : Value → Option α
  | .dict es => some (f es)
  | _ => none

/-- What the items of a list give; other values give nothing. -/
def ofItems {α : Type} (f : List Value → α) : Value → Option α
  | .list xs => some (f xs)
  | _ => none

/-- The content that a value gives to a field, if any. -/
def read : (p : Field) → Value → Answer (Option p.Content)
  | summary, v => .ok (if v.isTrue then some v.text else none)
  | method, v => .ok (some (String.ofList (Text.upper v.text.toList)))
  | path, v => .ok (some v.text)
  | trigger, v => .ok (some v.text)
  | kind, v => .ok (Kind.ofValue? v)
  | args, v => .ok (ofEntries (List.filterMap argOfEntry?) v)
  | returns, v => .ok ((returnOfValue none v).map some)
  | raises, v => .ok (ofEntries (List.map fun e => ⟨e.1.text, e.2.text⟩) v)
  | examples, v => .ok (ofItems (List.map Value.text) v)
  | notes, v => .ok (ofItems (List.map Value.text) v)
  | attributes, v => .ok (ofEntries (List.filterMap argOfEntry?) v)
  | pathParams, v => .ok (ofEntries (List.filterMap argOfEntry?) v)
  | queryParams, v => .ok (ofEntries (List.filterMap argOfEntry?) v)
  | requestBody, v => .ok (ofEntries (List.filterMap argOfEntry?) v)
  | responses, .dict es => do return some (← responsesOfEntries es)
  | responses, _ => .ok none
  | headers, v => .ok (ofEntries (List.filterMap headerOfEntry?) v)
  | payload, v => .ok (ofEntries (List.filterMap payloadFieldOfEntry?) v)
  | configFields, v => .ok (ofEntries (List.filterMap configFieldOfEntry?) v)

/-- A field is set to what the value gives, or else keeps its content. -/
def setter (p : Field) : Setter := fun d v => do
  return p.set ((← p.read v).getD (p.get d)) d

variable {p : Field}

/-- Every key sets its own field. -/
theorem setters_eq : setters = all.map fun p => (p.key, p.setter) := by
  simp only [setters, all, List.map_cons, List.map_nil, List.cons.injEq, Prod.mk.injEq, and_true]
  refine ⟨⟨rfl, ?description⟩, ⟨rfl, rfl⟩, ⟨rfl, rfl⟩, ⟨rfl, rfl⟩, ⟨rfl, rfl⟩, ⟨rfl, ?_⟩, ⟨rfl, ?_⟩,
    ⟨rfl, ?_⟩, ⟨rfl, ?_⟩, ⟨rfl, ?_⟩, ⟨rfl, ?_⟩, ⟨rfl, ?_⟩, ⟨rfl, ?_⟩, ⟨rfl, ?_⟩, ⟨rfl, ?responses⟩,
    ⟨rfl, ?_⟩, ⟨rfl, ?_⟩, rfl, ?_⟩
  case description =>
    funext d v
    simp only [setter, read]
    split <;> rfl
  case responses =>
    funext d v
    cases v with
    | dict es =>
      simp only [setter, read]
      cases responsesOfEntries es <;> rfl
    | _ => rfl
  -- The others look at the form of the value only.
  all_goals
    funext d v
    cases v <;> rfl

/-- What metadata gives to a field, if any. -/
def given (p : Field) (info : Entries) : Answer (Option p.Content) :=
  match info.getText? p.key with
  | none => .ok none
  | some v => p.read v

theorem given_of_missing {info : Entries} (h : info.getText? p.key = none) :
    p.given info = .ok none := by
  rw [given, h]

theorem hasAnswer_read {v : Value} : HasAnswer (p.read v) ↔ (p = responses → ReadsResponses v) := by
  cases p with
  | responses =>
    cases v with
    | dict es =>
      refine hasAnswer_bind_pure.trans ((hasAnswer_responsesOfEntries es).trans ?_)
      exact ⟨fun h _ => h, fun h => h rfl⟩
    | _ => simp [read, ReadsResponses]
  | _ => exact ⟨fun _ h => absurd h (by decide), fun _ => ⟨_, rfl⟩⟩

end Field

/-! ## All keys -/

variable {info : Entries} {d d' : Docstring} {ps : List Field}

/-- The setters of some fields. -/
abbrev settersOf (ps : List Field) : List (String × Setter) := ps.map fun p => (p.key, p.setter)

/-- One key: the field is set to what the metadata gives, or else keeps its content. -/
theorem overlayWith_cons (p : Field) : overlayWith info (settersOf (p :: ps)) d =
    p.given info >>= fun x => overlayWith info (settersOf ps) (p.set (x.getD (p.get d)) d) := by
  rw [settersOf, List.map_cons, overlayWith, Field.given]
  cases info.getText? p.key with
  | none => exact congrArg (overlayWith info (settersOf ps)) (p.set_get d).symm
  | some v =>
    simp only [Field.setter]
    cases p.read v <;> rfl

theorem hasAnswer_overlayWith :
    HasAnswer (overlayWith info (settersOf ps) d) ↔ ∀ p ∈ ps, HasAnswer (p.given info) := by
  induction ps generalizing d with
  | nil => simp [overlayWith]
  | cons p ps ih =>
    rw [overlayWith_cons, List.forall_mem_cons]
    exact hasAnswer_bind_iff_and fun x => ih

/-- What no field changes is left as it is. -/
theorem overlayWith_keeps {α : Type} {view : Docstring → α}
    (hview : ∀ p ∈ ps, ∀ x d, view (p.set x d) = view d)
    (h : overlayWith info (settersOf ps) d = .ok d') : view d' = view d := by
  induction ps generalizing d with
  | nil =>
    obtain rfl := Except.ok.inj h
    rfl
  | cons p ps ih =>
    obtain ⟨hp, hps⟩ := List.forall_mem_cons.mp hview
    rw [overlayWith_cons] at h
    obtain ⟨x, -, h⟩ := bind_eq_ok.mp h
    exact (ih hps h).trans (hp _ d)

theorem get_overlayWith {p : Field} (hps : ps.Nodup) (hp : p ∈ ps)
    (h : overlayWith info (settersOf ps) d = .ok d') :
    ∃ x, p.given info = .ok x ∧ p.get d' = x.getD (p.get d) := by
  induction ps generalizing d with
  | nil => exact absurd hp List.not_mem_nil
  | cons q ps ih =>
    obtain ⟨hq, hps⟩ := List.nodup_cons.mp hps
    rw [overlayWith_cons] at h
    obtain ⟨x, hx, h⟩ := bind_eq_ok.mp h
    rcases List.mem_cons.mp hp with rfl | hp
    · -- The keys after it leave the field alone.
      have hkeeps : p.get d' = p.get (p.set (x.getD (p.get d)) d) :=
        overlayWith_keeps (fun r hr => Field.get_set_of_ne fun heq => hq (heq ▸ hr)) h
      exact ⟨x, hx, hkeeps.trans (p.get_set _ d)⟩
    · obtain ⟨y, hy, hget⟩ := ih hps hp h
      have hne : q ≠ p := fun heq => hq (heq ▸ hp)
      exact ⟨y, hy, hget.trans (congrArg y.getD (Field.get_set_of_ne hne _ d))⟩

theorem overlay_eq : d.overlay info = overlayWith info (settersOf Field.all) d := by
  rw [overlay, Field.setters_eq]

/-- Laying metadata over a text sets each field to what the metadata gives to it, and leaves all
    else as it is. -/
theorem overlay_eq_ok_iff : d.overlay info = .ok d' ↔
    (∀ p : Field, ∃ x, p.given info = .ok x ∧ p.get d' = x.getD (p.get d)) ∧
      d'.description = d.description ∧ d'.customSections = d.customSections := by
  have hmp {e : Docstring} (h : d.overlay info = .ok e) :
      (∀ p : Field, ∃ x, p.given info = .ok x ∧ p.get e = x.getD (p.get d)) ∧
        e.description = d.description ∧ e.customSections = d.customSections := by
    rw [overlay_eq] at h
    exact ⟨fun p => get_overlayWith (by decide) p.mem_all h,
      overlayWith_keeps (fun p _ => p.description_set) h,
      overlayWith_keeps (fun p _ => p.customSections_set) h⟩
  refine ⟨hmp, fun ⟨hget, hdescription, hsections⟩ => ?_⟩
  -- There is an answer, and it has the same fields.
  have hanswer : HasAnswer (d.overlay info) := by
    rw [overlay_eq, hasAnswer_overlayWith]
    intro p _
    obtain ⟨x, hx, -⟩ := hget p
    exact ⟨x, hx⟩
  obtain ⟨e, he⟩ := hanswer
  obtain ⟨hget', hdescription', hsections'⟩ := hmp he
  rw [he]
  congr 1
  refine Field.ext (fun p => ?_) (hdescription'.trans hdescription.symm)
    (hsections'.trans hsections.symm)
  obtain ⟨x, hx, hp⟩ := hget p
  obtain ⟨x', hx', hp'⟩ := hget' p
  obtain rfl := Except.ok.inj (hx.symm.trans hx')
  rw [hp, hp']

/-- A field whose key is missing is left as it is. -/
theorem get_overlay_of_missing {p : Field} (hkey : info.getText? p.key = none)
    (h : d.overlay info = .ok d') : p.get d' = p.get d := by
  obtain ⟨x, hx, hget⟩ := (overlay_eq_ok_iff.mp h).1 p
  rw [Field.given_of_missing hkey] at hx
  obtain rfl := Except.ok.inj hx
  exact hget

/-- Metadata without arguments leaves those of the text. -/
theorem overlay_args (h : info.getText? "args" = none) (hd : d.overlay info = .ok d') :
    d'.args = d.args :=
  get_overlay_of_missing (p := .args) h hd

/-- Metadata without a kind leaves that of the text. -/
theorem overlay_kind (h : info.getText? "doc_type" = none) (hd : d.overlay info = .ok d') :
    d'.kind = d.kind :=
  get_overlay_of_missing (p := .kind) h hd

/-- Metadata can be laid over a text exactly if its responses can be read. -/
theorem hasAnswer_overlay : HasAnswer (d.overlay info) ↔
    ∀ v ∈ info.getText? "responses", ReadsResponses v := by
  rw [overlay_eq, hasAnswer_overlayWith]
  constructor
  · intro h v hv
    have hgiven := h .responses (Field.mem_all _)
    rw [Field.given, show info.getText? Field.responses.key = some v from hv] at hgiven
    exact Field.hasAnswer_read.mp hgiven rfl
  · intro h p _
    rw [Field.given]
    split
    · exact hasAnswer_ok _
    · rename_i v hv
      refine Field.hasAnswer_read.mpr fun hp => h v ?_
      subst hp
      exact hv

/-! ## Laws -/

/-- Metadata that has been laid over a text changes nothing the second time. -/
theorem overlay_again (h : d.overlay info = .ok d') : d'.overlay info = .ok d' := by
  refine overlay_eq_ok_iff.mpr ⟨fun p => ?_, rfl, rfl⟩
  obtain ⟨x, hx, hget⟩ := (overlay_eq_ok_iff.mp h).1 p
  refine ⟨x, hx, ?_⟩
  rw [hget]
  cases x <;> rfl

/-- Metadata of different keys may be laid over a text in either order. -/
theorem overlay_comm {info₁ info₂ : Entries} {d₁ d₂ : Docstring}
    (hkeys : ∀ key, info₁.getText? key = none ∨ info₂.getText? key = none)
    (h₁ : d.overlay info₁ = .ok d₁) (h₂ : d.overlay info₂ = .ok d₂) :
    ∃ e, d₁.overlay info₂ = .ok e ∧ d₂.overlay info₁ = .ok e := by
  obtain ⟨e, he⟩ : HasAnswer (d₁.overlay info₂) :=
    hasAnswer_overlay.mpr (hasAnswer_overlay.mp ⟨d₂, h₂⟩)
  obtain ⟨hget, hdescription, hsections⟩ := overlay_eq_ok_iff.mp he
  obtain ⟨hget₁, hdescription₁, hsections₁⟩ := overlay_eq_ok_iff.mp h₁
  obtain ⟨hget₂, hdescription₂, hsections₂⟩ := overlay_eq_ok_iff.mp h₂
  refine ⟨e, he, overlay_eq_ok_iff.mpr ⟨fun p => ?_, ?_, ?_⟩⟩
  · obtain ⟨x₁, hx₁, hd₁⟩ := hget₁ p
    obtain ⟨x₂, hx₂, hd₂⟩ := hget₂ p
    obtain ⟨x, hx, hp⟩ := hget p
    obtain rfl := Except.ok.inj (hx.symm.trans hx₂)
    refine ⟨x₁, hx₁, ?_⟩
    rw [hp, hd₁, hd₂]
    -- One of the two gives nothing to the field.
    rcases hkeys p.key with hkey | hkey
    · obtain rfl := Except.ok.inj ((p.given_of_missing hkey).symm.trans hx₁)
      rfl
    · obtain rfl := Except.ok.inj ((p.given_of_missing hkey).symm.trans hx₂)
      rfl
  · rw [hdescription, hdescription₁, hdescription₂]
  · rw [hsections, hsections₁, hsections₂]

/-- Metadata changes only the fields whose keys it has, never the description and the sections of
    other names; laid over a text a second time it changes nothing; and metadata of different keys
    may be laid over it in either order. -/
theorem overlay_frame (d : Docstring) :
    (∀ info d', d.overlay info = .ok d' →
      (∀ p : Field, info.getText? p.key = none → p.get d' = p.get d) ∧
        d'.description = d.description ∧ d'.customSections = d.customSections ∧
        d'.overlay info = .ok d') ∧
    ∀ info₁ info₂ d₁ d₂, (∀ key, info₁.getText? key = none ∨ info₂.getText? key = none) →
      d.overlay info₁ = .ok d₁ → d.overlay info₂ = .ok d₂ →
        ∃ e, d₁.overlay info₂ = .ok e ∧ d₂.overlay info₁ = .ok e := by
  refine ⟨fun info d' h => ?_, fun info₁ info₂ d₁ d₂ => overlay_comm⟩
  obtain ⟨-, hdescription, hsections⟩ := overlay_eq_ok_iff.mp h
  exact ⟨fun p hkey => get_overlay_of_missing hkey h, hdescription, hsections, overlay_again h⟩

/-- A path and a response, laid over a text one after the other. -/
theorem overlay_frame_endpoint :
    let path : Entries := [(.str "path", .str "/users")]
    let responses : Entries := [(.str "responses", .dict [(.int 404, .str "Not found")])]
    let text : Docstring := { summary := "Find a user.", path := "/" }
    let withPath := { text with path := "/users" }
    let withResponse := { text with responses := [⟨404, .str "Not found", []⟩] }
    text.overlay path = .ok withPath ∧ withPath.overlay path = .ok withPath ∧
      text.overlay responses = .ok withResponse ∧
      ∃ e, withPath.overlay responses = .ok e ∧ withResponse.overlay path = .ok e := by
  intro path responses text withPath withResponse
  obtain ⟨hframe, hcomm⟩ := overlay_frame text
  refine ⟨rfl, (hframe path withPath rfl).2.2.2, rfl,
    hcomm path responses withPath withResponse (fun key => ?_) rfl rfl⟩
  by_cases hkey : key = "path"
  · right
    rw [hkey]
    rfl
  · left
    simp [path, Entries.getText?, Ne.symm hkey]

end Docsmith.Docstring
