-- SUMMARY: Dead code is exactly what the calls of a project do not name.
import Docsmith.Proofs.Catalog.Program
import Docsmith.Proofs.Report.CallMap
import Docsmith.Proofs.Report.Index

/-!
# Dead code as a complement

The documentation of a project lists its functions, endpoints and methods with
their calls. From it the call map is made, and from the names in the call map the
report on dead code. What may be reported at all is a suspect; the report holds
the suspects whose names and paths no list of calls has, in order, and nothing
else.
-/

namespace Docsmith

open Report

/-! ## Suspects -/

/-- Something that is reported unless it is called. -/
structure Suspect where
  path : String
  name : String
  kind : String
  module : String

namespace Suspect

/-- A suspect as it is reported. -/
def data (s : Suspect) : Value := unused (.str s.path) (.str s.name) (.str s.kind) (.str s.module)

/-- Neither the path nor the name is among the names that are called. -/
def isUncalled (called : List String) (s : Suspect) : Bool := s.path ∉ called ∧ s.name ∉ called

theorem data_injective : Function.Injective data := by
  rintro ⟨path, name, kind, module⟩ ⟨path', name', kind', module'⟩ h
  simpa [data, unused, Value.object] using h

end Suspect

/-- The routine is neither private nor the main function, and has no decorators. -/
structure Routine.IsOrdinary (r : Routine) : Prop where
  isPublic : r.name.startsWith "_" = false
  notMain : r.name ≠ "main"
  plain : r.decorators = []

instance (r : Routine) : Decidable r.IsOrdinary :=
  decidable_of_iff (r.name.startsWith "_" = false ∧ r.name ≠ "main" ∧ r.decorators = [])
    ⟨fun ⟨h₁, h₂, h₃⟩ => ⟨h₁, h₂, h₃⟩, fun h => ⟨h.isPublic, h.notMain, h.plain⟩⟩

/-- A function as it is reported. -/
def FunctionDoc.suspect (f : FunctionDoc) : Suspect := ⟨f.fullPath, f.name, f.kind.name, f.module⟩

/-- The path of a method of a class. -/
def ClassDoc.methodPath (c : ClassDoc) (m : MethodDoc) : String := c.fullPath ++ "." ++ m.name

/-- A method as it is reported. -/
def ClassDoc.suspect (c : ClassDoc) (m : MethodDoc) : Suspect :=
  ⟨c.methodPath m, m.name, "method", c.module⟩

/-- The function may be reported: it is ordinary and not a test. -/
def FunctionDoc.IsSuspect (f : FunctionDoc) : Prop :=
  f.IsOrdinary ∧ f.name.startsWith "test" = false

instance (f : FunctionDoc) : Decidable f.IsSuspect := inferInstanceAs (Decidable (_ ∧ _))

namespace Report

theorem isEntryName_iff {name : String} :
    isEntryName name = true ↔ name.startsWith "_" = true ∨ name = "main" := by
  have hpoints : ∀ n ∈ entryPoints, n.startsWith "_" = true ∨ n = "main" := by decide +kernel
  have hmain : "main" ∈ entryPoints := by decide
  simp only [isEntryName, Bool.or_eq_true, List.contains_iff_mem]
  constructor
  · rintro (hpublic | hmem)
    · exact .inl hpublic
    · exact hpoints name hmem
  · rintro (hpublic | rfl)
    · exact .inl hpublic
    · exact .inr hmain

theorem isCalled_texts (called : List String) (s : String) :
    isCalled (called.map .str) (.str s) = .ok (decide (s ∈ called)) := by
  have hany : (called.map Value.str).any (·.same (.str s)) = decide (s ∈ called) := by
    rw [Bool.eq_iff_iff, List.any_map, List.any_eq_true]
    simp
  simp only [isCalled, Value.asKey, Value.isKey, bind, Except.bind, if_true, hany]
  rfl

theorem isOrdinary_iff {r : Routine} : r.IsOrdinary
    ↔ ¬ isEntryName r.name = true ∧ ¬ (Value.texts r.decorators).isTrue = true := by
  rw [isEntryName_iff, not_or, Bool.not_eq_true]
  constructor
  · intro h
    exact ⟨⟨h.isPublic, h.notMain⟩, by simp [Value.texts, Value.isTrue, h.plain]⟩
  · rintro ⟨⟨hpublic, hmain⟩, hplain⟩
    exact ⟨hpublic, hmain, by simpa [Value.texts, Value.isTrue] using hplain⟩

/-- A function is reported if it may be and is not called. -/
theorem deadFunction?_data (called : List String) (f : FunctionDoc) :
    deadFunction? (called.map .str) f.data
      = .ok (if f.IsSuspect ∧ f.suspect.isUncalled called then some f.suspect.data else none) := by
  have hname : f.data.field "name" = .ok (.str f.name) := rfl
  have hpath (d : Value) : f.data.getD "full_path" d = .ok (.str f.fullPath) := rfl
  have hdecorators : partOf f.data "decorators" = .ok (.texts f.decorators) := rfl
  have hkind (d : Value) : f.data.getD "doc_type" d = .ok (.str f.kind.name) := rfl
  have hmodule (d : Value) : f.data.getD "module" d = .ok (.str f.module) := rfl
  simp only [deadFunction?, hname, hpath, hdecorators, hkind, hmodule, isCalled_texts, Value.asText,
    bind, Except.bind, FunctionDoc.IsSuspect, isOrdinary_iff, Suspect.isUncalled, decide_eq_true_eq,
    Bool.or_eq_true]
  by_cases hentry : isEntryName f.name = true
  · simp [hentry, pure, Except.pure]
  by_cases hplain : (Value.texts f.decorators).isTrue = true
  · simp [hentry, hplain, pure, Except.pure]
  by_cases htest : f.name.startsWith "test" = true
  · simp [hentry, htest, pure, Except.pure]
  by_cases hfull : f.fullPath ∈ called <;> by_cases hshort : f.name ∈ called <;>
    simp [hentry, hplain, htest, hfull, hshort, FunctionDoc.suspect, Suspect.data, pure, Except.pure]

/-- A method is reported if it may be and is not called. -/
theorem deadMethod?_data (called : List String) (c : ClassDoc) (m : MethodDoc) :
    deadMethod? (called.map .str) c.data m.data
      = .ok (if m.IsOrdinary ∧ (c.suspect m).isUncalled called then some (c.suspect m).data
        else none) := by
  have hname : m.data.field "name" = .ok (.str m.name) := rfl
  have hdecorators : partOf m.data "decorators" = .ok (.texts m.decorators) := rfl
  have hpath : methodPath c.data m.data = .ok (.str (c.methodPath m)) := rfl
  have hmodule (d : Value) : c.data.getD "module" d = .ok (.str c.module) := rfl
  simp only [deadMethod?, hname, hdecorators, hpath, hmodule, isCalled_texts, Value.asText,
    bind, Except.bind, isOrdinary_iff, Suspect.isUncalled, decide_eq_true_eq]
  by_cases hentry : isEntryName m.name = true
  · simp [hentry, pure, Except.pure]
  by_cases hplain : (Value.texts m.decorators).isTrue = true
  · simp [hentry, hplain, pure, Except.pure]
  by_cases hfull : c.methodPath m ∈ called <;> by_cases hshort : m.name ∈ called <;>
    simp [hentry, hplain, hfull, hshort, ClassDoc.suspect, Suspect.data, pure, Except.pure]

/-! ## The report -/

/-- The report on some suspects: those that are not called. -/
def reportOn (called : List String) (suspects : List Suspect) : List Value :=
  (suspects.filter (Suspect.isUncalled called)).map Suspect.data

theorem reportOn_append (called : List String) (ss ts : List Suspect) :
    reportOn called (ss ++ ts) = reportOn called ss ++ reportOn called ts := by
  simp [reportOn]

theorem reportOn_flatMap {α : Type} (called : List String) (f : α → List Suspect) (xs : List α) :
    reportOn called (xs.flatMap f) = (xs.map fun x => reportOn called (f x)).flatten := by
  rw [reportOn, List.filter_flatMap, List.map_flatMap]
  rfl

theorem mem_reportOn {called : List String} {ss : List Suspect} {e : Value} :
    e ∈ reportOn called ss ↔ ∃ s ∈ ss, s.isUncalled called = true ∧ s.data = e := by
  simp [reportOn, and_assoc]

/-- Items that are tested one by one are reported in order. -/
theorem mapM_reported {α : Type} {called : List String} {item : α → Value}
    {f : Value → Answer (Option Value)} {P : α → Prop} [DecidablePred P] {suspect : α → Suspect}
    (h : ∀ a, f (item a)
      = .ok (if P a ∧ (suspect a).isUncalled called then some (suspect a).data else none))
    (items : List α) :
    ∃ found, (items.map item).mapM f = .ok found
      ∧ found.filterMap id = reportOn called ((items.filter (P ·)).map suspect) := by
  refine ⟨_, mapM_map_eq_ok h items, ?_⟩
  unfold reportOn
  induction items with
  | nil => rfl
  | cons a items ih =>
    rw [List.map_cons, List.filterMap_cons, List.filter_cons, ih]
    by_cases hP : P a <;> by_cases hcalled : (suspect a).isUncalled called = true <;>
      simp [hP, hcalled]

theorem deadMethods_data (called : List String) (c : ClassDoc) :
    deadMethods (called.map .str) c.data
      = .ok (reportOn called ((c.methods.filter (·.IsOrdinary)).map c.suspect)) := by
  obtain ⟨found, hfound, hreport⟩ := mapM_reported (deadMethod?_data called c) c.methods
  have hitems : c.data.itemsOf "methods" = .ok (c.methods.map MethodDoc.data) := rfl
  simp only [deadMethods, hitems, bind, Except.bind, hfound]
  rw [hreport]
  rfl

end Report

/-! ## The documentation of a project -/

/-- What a function calls. -/
def FunctionDoc.caller (f : FunctionDoc) : Caller := ⟨f.fullPath, f.calls⟩

/-- What a method calls. -/
def ClassDoc.caller (c : ClassDoc) (m : MethodDoc) : Caller := ⟨c.methodPath m, m.calls⟩

namespace Build

/-- The functions of a catalog that are not endpoints. -/
def plainFunctions (catalog : Catalog) : List FunctionDoc :=
  (functionsOf catalog).filter (·.kind != Kind.api)

/-- The functions of a catalog that are endpoints. -/
def endpointsOf (catalog : Catalog) : List FunctionDoc :=
  (functionsOf catalog).filter (·.kind == Kind.api)

/-- The data lists what is in the catalog. -/
structure Lists (catalog : Catalog) (data : Entries) : Prop where
  functions : data.getText? "functions"
    = some (.list ((plainFunctions catalog).map FunctionDoc.data))
  endpoints : data.getText? "api_endpoints"
    = some (.list ((endpointsOf catalog).map FunctionDoc.data))
  classes : data.getText? "classes" = some (.list ((classesOf catalog).map ClassDoc.data))

/-- What the functions and methods of a catalog call. -/
def callersIn (catalog : Catalog) : List Caller :=
  (plainFunctions catalog).map FunctionDoc.caller ++ (endpointsOf catalog).map FunctionDoc.caller
    ++ ((classesOf catalog).map fun c => c.methods.map c.caller).flatten

/-- What may be reported of a catalog. -/
def suspectsIn (catalog : Catalog) : List Suspect :=
  ((plainFunctions catalog).filter (·.IsSuspect)).map FunctionDoc.suspect
    ++ ((endpointsOf catalog).filter (·.IsSuspect)).map FunctionDoc.suspect
    ++ (classesOf catalog).flatMap fun c => (c.methods.filter (·.IsOrdinary)).map c.suspect

variable {catalog : Catalog} {settings : Settings} {data : Entries}

theorem itemsOf_of_getText? {name : String} {items : List Value}
    (h : data.getText? name = some (.list items)) : (Value.dict data).itemsOf name = .ok items := by
  apply itemsOf_of_field
  simp only [Value.field, h]

theorem catalogData_lists (h : catalogData catalog settings = .ok data) : Lists catalog data := by
  obtain ⟨pages, -, h⟩ := bind_eq_ok.mp h
  obtain rfl := Except.ok.inj h
  exact ⟨rfl, rfl, rfl⟩

namespace Lists

theorem putText (h : Lists catalog data) (name : String) (hname : name ∉ listNames) (v : Value) :
    Lists catalog (data.putText name v) := by
  simp only [listNames, List.mem_cons, List.not_mem_nil, or_false, not_or] at hname
  obtain ⟨hfunctions, hendpoints, hclasses⟩ := hname
  constructor
  · rw [Entries.getText?_putText_ne hfunctions, h.functions]
  · rw [Entries.getText?_putText_ne hendpoints, h.endpoints]
  · rw [Entries.getText?_putText_ne hclasses, h.classes]

/-- The callers that the data lists are those of the catalog. -/
theorem listsCallers (h : Lists catalog data) : ListsCallers (.dict data) (callersIn catalog) := by
  have hfunctions (fs : List FunctionDoc) :
      List.Forall₂ IsFunctionOf (fs.map FunctionDoc.data) (fs.map FunctionDoc.caller) := by
    rw [List.forall₂_map_left_iff, List.forall₂_map_right_iff]
    exact List.forall₂_same.mpr fun f _ => ⟨rfl, rfl⟩
  have hclass (c : ClassDoc) : IsClassOf c.data (c.methods.map c.caller) := by
    refine ⟨c.methods.map MethodDoc.data, rfl, ?_⟩
    rw [List.forall₂_map_left_iff, List.forall₂_map_right_iff]
    exact List.forall₂_same.mpr fun m _ => ⟨rfl, rfl⟩
  refine ⟨_, _, _, ⟨_, itemsOf_of_getText? h.functions, hfunctions _⟩,
    ⟨_, itemsOf_of_getText? h.endpoints, hfunctions _⟩,
    ⟨_, itemsOf_of_getText? h.classes, ?_⟩, rfl⟩
  rw [List.forall₂_map_left_iff, List.forall₂_map_right_iff]
  exact List.forall₂_same.mpr fun c _ => hclass c

/-- The report on dead code holds the suspects that the call map does not have. -/
theorem deadCode_eq (h : Lists catalog data) (groups : List (String × List String))
    (hcalled : data.getText? "called_by" = some (calledByData (groups.map groupData))) :
    deadCode (.dict data) = .ok (reportOn (groups.map (·.1)) (suspectsIn catalog)) := by
  let called := groups.map (·.1)
  have hgetD : (Value.dict data).getD "called_by" (.dict [])
      = .ok (calledByData (groups.map groupData)) := by
    simp [Value.getD, Value.entries, hcalled, bind, Except.bind, pure, Except.pure]
  have hkeys : (calledByData (groups.map groupData)).items = .ok (called.map .str) := by
    simp [called, calledByData, Value.items, groupData, Function.comp_def]
  have hcallees : (called.map Value.str).mapM Value.asKey = .ok (called.map .str) := by
    apply mapM_map_eq_ok
    intro k
    rfl
  obtain ⟨found, hfound, hreport⟩ :=
    mapM_reported (deadFunction?_data called) (plainFunctions catalog)
  obtain ⟨found', hfound', hreport'⟩ :=
    mapM_reported (deadFunction?_data called) (endpointsOf catalog)
  have hmethods := mapM_map_eq_ok (deadMethods_data called) (classesOf catalog)
  rw [suspectsIn, reportOn_append, reportOn_append, reportOn_flatMap]
  simp only [deadCode, hgetD, hkeys, hcallees, itemsOf_of_getText? h.functions,
    itemsOf_of_getText? h.endpoints, itemsOf_of_getText? h.classes, hfound, hfound', hmethods,
    hreport, hreport', bind, Except.bind]
  rfl

end Lists

/-- The documentation of a project lists its catalog, and reports the suspects that none of its
    callers calls. -/
theorem documentation_deadCode (h : documentation catalog settings = .ok data) :
    Lists catalog data ∧ data.getText? "dead_code" = some (.list
      (reportOn ((inverse (callersIn catalog)).map (·.1)) (suspectsIn catalog))) := by
  unfold documentation at h
  simp only [bind_eq_ok] at h
  obtain ⟨start, hstart, coverage, -, groups, hgroups, todos, -, dead, hdead, h⟩ := h
  obtain rfl := Except.ok.inj h
  have hscored := (catalogData_lists hstart).putText "coverage" (by decide) coverage
  rw [calledBy_eq hscored.listsCallers] at hgroups
  obtain rfl := Except.ok.inj hgroups
  have hlists := (hscored.putText "called_by" (by decide)
    (calledByData ((inverse (callersIn catalog)).map groupData))).putText "todos" (by decide)
    (.list todos)
  have hreport := hlists.deadCode_eq (inverse (callersIn catalog))
    (by rw [Entries.getText?_putText_ne (by decide), Entries.getText?_putText_same])
  obtain rfl := Except.ok.inj (hreport.symm.trans hdead)
  exact ⟨hlists.putText "dead_code" (by decide) _, Entries.getText?_putText_same _ _ _⟩

theorem mem_keys_inverse {callers : List Caller} {name : String} :
    name ∈ (inverse callers).map (·.1) ↔ ∃ c ∈ callers, name ∈ c.callees := by
  rw [inverse, keys_groupsOf, Text.mem_sortedDistinct, List.mem_flatMap]

/-- Plain functions and endpoints are all functions. -/
theorem mem_functionsOf_iff {f : FunctionDoc} :
    f ∈ functionsOf catalog ↔ f ∈ plainFunctions catalog ∨ f ∈ endpointsOf catalog := by
  by_cases h : f.kind = Kind.api <;> simp [plainFunctions, endpointsOf, h]

theorem mem_suspectsIn {s : Suspect} : s ∈ suspectsIn catalog ↔
    (∃ f ∈ functionsOf catalog, f.IsSuspect ∧ f.suspect = s)
      ∨ ∃ c ∈ classesOf catalog, ∃ m ∈ c.methods, m.IsOrdinary ∧ c.suspect m = s := by
  simp only [suspectsIn, mem_functionsOf_iff, List.mem_append, List.mem_map, List.mem_flatMap,
    List.mem_filter, decide_eq_true_eq, or_and_right, exists_or, and_assoc]

/-- A suspect is reported exactly if no caller calls its name or its path. -/
theorem data_mem_report_iff {callers : List Caller} {ss : List Suspect} {s : Suspect} (hs : s ∈ ss) :
    s.data ∈ reportOn ((inverse callers).map (·.1)) ss
      ↔ ∀ c ∈ callers, s.name ∉ c.callees ∧ s.path ∉ c.callees := by
  have huncalled : s.isUncalled ((inverse callers).map (·.1)) = true
      ↔ ∀ c ∈ callers, s.name ∉ c.callees ∧ s.path ∉ c.callees := by
    rw [Suspect.isUncalled, decide_eq_true_eq, mem_keys_inverse, mem_keys_inverse]
    constructor
    · rintro ⟨hpath, hname⟩ c hc
      exact ⟨fun hmem => hname ⟨c, hc, hmem⟩, fun hmem => hpath ⟨c, hc, hmem⟩⟩
    · intro h
      exact ⟨fun ⟨c, hc, hmem⟩ => (h c hc).2 hmem, fun ⟨c, hc, hmem⟩ => (h c hc).1 hmem⟩
  rw [mem_reportOn, ← huncalled]
  constructor
  · rintro ⟨t, -, hcalled, hdata⟩
    rwa [← Suspect.data_injective hdata]
  · intro hcalled
    exact ⟨s, hs, hcalled, rfl⟩

/-- The call map of data is the inverse of the calls that the data lists: it has the callees as
    its keys, strictly increasing, and under each of them the callers, sorted, each as often as it
    calls. Hence dead code is the complement: of the functions, endpoints and methods of a project
    that may be reported, those and only those are reported whose name and path no list of calls
    has. -/
theorem callMap_inverts_calls :
    (∀ data callers, ListsCallers data callers →
      ∃ groups : List (String × List String), calledBy data = .ok (groups.map groupData)
        ∧ (groups.map (·.1)).Pairwise (· < ·)
        ∧ (∀ g ∈ groups, g.2 ≠ [] ∧ g.2.Pairwise (· ≤ ·))
        ∧ ∀ path callee, ((groups.lookup callee).getD []).count path
          = callCount callers path callee)
    ∧ ∀ catalog settings data, documentation catalog settings = .ok data →
      ListsCallers (.dict data) (callersIn catalog)
      ∧ ∃ dead, data.getText? "dead_code" = some (.list dead)
        ∧ (∀ f ∈ functionsOf catalog, f.IsSuspect → (f.suspect.data ∈ dead
          ↔ ∀ k ∈ callersIn catalog, f.name ∉ k.callees ∧ f.fullPath ∉ k.callees))
        ∧ (∀ c ∈ classesOf catalog, ∀ m ∈ c.methods, m.IsOrdinary → ((c.suspect m).data ∈ dead
          ↔ ∀ k ∈ callersIn catalog, m.name ∉ k.callees ∧ c.methodPath m ∉ k.callees))
        ∧ ∀ e ∈ dead, (∃ f ∈ functionsOf catalog, f.IsSuspect ∧ e = f.suspect.data)
          ∨ ∃ c ∈ classesOf catalog, ∃ m ∈ c.methods, m.IsOrdinary ∧ e = (c.suspect m).data := by
  constructor
  · intro data callers h
    refine ⟨inverse callers, calledBy_eq h, ?_, fun g hg => group_of_mem_inverse hg,
      count_inverse callers⟩
    rw [inverse, keys_groupsOf]
    exact Text.pairwise_sortedDistinct _
  · intro catalog settings data h
    obtain ⟨hlists, hdead⟩ := documentation_deadCode h
    refine ⟨hlists.listsCallers, _, hdead, ?_, ?_, ?_⟩
    · intro f hf hsuspect
      exact data_mem_report_iff (mem_suspectsIn.mpr (.inl ⟨f, hf, hsuspect, rfl⟩))
    · intro c hc m hm hordinary
      exact data_mem_report_iff (mem_suspectsIn.mpr (.inr ⟨c, hc, m, hm, hordinary, rfl⟩))
    · intro e he
      obtain ⟨s, hs, -, rfl⟩ := mem_reportOn.mp he
      obtain ⟨f, hf, hsuspect, rfl⟩ | ⟨c, hc, m, hm, hordinary, rfl⟩ := mem_suspectsIn.mp hs
      · exact .inl ⟨f, hf, hsuspect, rfl⟩
      · exact .inr ⟨c, hc, m, hm, hordinary, rfl⟩

/-- Data in which a function calls another one twice, and a method calls it too. -/
def repeatedCalls : Value := .object [
  ("functions", .list [.object [("name", .str "f"), ("calls", .texts ["g", "g"])]]),
  ("classes", .list [.object [("name", .str "C"),
    ("methods", .list [.object [("name", .str "a"), ("calls", .texts ["g"])]])]])]

theorem repeatedCalls_listsCallers :
    ListsCallers repeatedCalls [⟨"f", ["g", "g"]⟩, ⟨"C.a", ["g"]⟩] := by
  refine ⟨[⟨"f", ["g", "g"]⟩], [], [[⟨"C.a", ["g"]⟩]], ⟨_, rfl, ?_⟩, ⟨_, rfl, .nil⟩, ⟨_, rfl, ?_⟩,
    rfl⟩
  · exact .cons ⟨rfl, rfl⟩ .nil
  · exact .cons ⟨_, rfl, .cons ⟨rfl, rfl⟩ .nil⟩ .nil

/-- A file with a function that is called, one that is not, and a method that is not. -/
def idleSource : List UInt8 :=
  "def used():\n    pass\n\ndef idle():\n    used()\n\nclass C:\n    def rest(self):\n        used()\n"
    |>.toUTF8.toList

theorem idleSource_scanned : ∃ m, scanModule [] ⟨"", ["m.py"]⟩ ⟨"", []⟩ idleSource = .ok m
    ∧ (functionsOf ⟨[m], []⟩).map (·.name) = ["used", "idle"]
    ∧ (∀ f ∈ functionsOf ⟨[m], []⟩, f.IsSuspect
      ∧ ((∀ k ∈ callersIn ⟨[m], []⟩, f.name ∉ k.callees ∧ f.fullPath ∉ k.callees)
        ↔ f.name = "idle"))
    ∧ ∃ data, documentation ⟨[m], []⟩ ⟨[], none⟩ = .ok data ∧ True := by
  decide +kernel

/-- The function that calls the other one twice is twice under it; and of the two functions of the
    file, the one that nothing calls is reported. -/
theorem idleSource_reported :
    (∃ groups : List (String × List String), calledBy repeatedCalls = .ok (groups.map groupData)
      ∧ ((groups.lookup "g").getD []).count "f" = 2)
    ∧ ∃ m data dead, scanModule [] ⟨"", ["m.py"]⟩ ⟨"", []⟩ idleSource = .ok m
      ∧ documentation ⟨[m], []⟩ ⟨[], none⟩ = .ok data
      ∧ data.getText? "dead_code" = some (.list dead)
      ∧ (functionsOf ⟨[m], []⟩).map (·.name) = ["used", "idle"]
      ∧ ∀ f ∈ functionsOf ⟨[m], []⟩, f.suspect.data ∈ dead ↔ f.name = "idle" := by
  obtain ⟨hinverse, hreport⟩ := callMap_inverts_calls
  obtain ⟨groups, hgroups, -, -, hcount⟩ := hinverse _ _ repeatedCalls_listsCallers
  obtain ⟨m, hm, hnames, hcalls, data, hdata, -⟩ := idleSource_scanned
  obtain ⟨-, dead, hdead, hiff, -⟩ := hreport _ _ _ hdata
  refine ⟨⟨groups, hgroups, hcount "f" "g"⟩, m, data, dead, hm, hdata, hdead, hnames, ?_⟩
  intro f hf
  obtain ⟨hsuspect, hidle⟩ := hcalls f hf
  exact (hiff f hf hsuspect).trans hidle

end Build

end Docsmith
