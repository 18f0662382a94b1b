-- SUMMARY: The call map is the inverse of what functions and methods call.
import Docsmith.Proofs.Answer
import Docsmith.Proofs.Value.Keyed
import Docsmith.Proofs.Value.Order
import Docsmith.Report.CallMap

/-!
# The call map as an inverse

Documentation data lists functions, endpoints and methods with the names that
they call. Seen as pairs of a caller and a callee, these are the calls of a
project. The call map has one group for each callee, in increasing order, and in
it the callers, once for each pair.
-/

namespace Docsmith.Report

/-! ## Callers -/

/-- What calls something: the path that it is known by, and the names that it calls. -/
structure Caller where
  path : String
  callees : List String

/-- How often callers of a path call a name. -/
def callCount (callers : List Caller) (path callee : String) : Nat :=
  ((callers.filter fun c => c.path == path).flatMap (·.callees)).count callee

/-- The item is a function or an endpoint with its path, or else its name, and its calls. -/
structure IsFunctionOf (item : Value) (c : Caller) : Prop where
  path : pathOf item = .ok (.str c.path)
  calls : item.itemsOf "calls" = .ok (c.callees.map .str)

/-- The item is a method of a class, under whose path it stands, with its calls. -/
structure IsMethodOf (cls item : Value) (c : Caller) : Prop where
  path : methodPath cls item = .ok (.str c.path)
  calls : item.itemsOf "calls" = .ok (c.callees.map .str)

/-- The items under a name are described by a list, one by one. A missing list is empty. -/
def ListsUnder {β : Type} (v : Value) (name : String) (Describes : Value → β → Prop)
    (bs : List β) : Prop :=
  ∃ items, v.itemsOf name = .ok items ∧ List.Forall₂ Describes items bs

/-- The class has methods that are these callers. -/
def IsClassOf (cls : Value) (methods : List Caller) : Prop :=
  ListsUnder cls "methods" (IsMethodOf cls) methods

/-- The functions, the endpoints and the methods of the data are these callers. -/
def ListsCallers (data : Value) (callers : List Caller) : Prop :=
  ∃ functions endpoints classes, ListsUnder data "functions" IsFunctionOf functions
    ∧ ListsUnder data "api_endpoints" IsFunctionOf endpoints
    ∧ ListsUnder data "classes" IsClassOf classes
    ∧ callers = functions ++ endpoints ++ classes.flatten

/-! ## Calls -/

/-- A path and a name that is called from there. -/
abbrev CallPair := String × String

/-- The calls of a caller. -/
def Caller.pairs (c : Caller) : List CallPair := c.callees.map fun k => (c.path, k)

/-- A pair as a call of the data. -/
def Call.ofPair (p : CallPair) : Call := ⟨.str p.1, .str p.2⟩

/-- The callers of a name, in order. -/
def callersOf (pairs : List CallPair) (callee : String) : List String :=
  (pairs.filter fun p => p.2 == callee).map (·.1)

theorem count_pairs (c : Caller) (path callee : String) :
    c.pairs.count (path, callee) = if c.path == path then c.callees.count callee else 0 := by
  unfold Caller.pairs
  induction c.callees with
  | nil => simp
  | cons k ks ih =>
    rw [List.map_cons, List.count_cons, ih]
    by_cases hpath : c.path = path <;> by_cases hk : k = callee <;> simp [hpath, hk]

theorem count_callersOf (pairs : List CallPair) (path callee : String) :
    (callersOf pairs callee).count path = pairs.count (path, callee) := by
  unfold callersOf
  induction pairs with
  | nil => rfl
  | cons p pairs ih =>
    obtain ⟨caller, name⟩ := p
    by_cases hname : name = callee <;> by_cases hcaller : caller = path <;>
      simp [hname, hcaller, ih]

/-- Each pair is a caller under the callee. -/
theorem count_callersOf_flatMap (callers : List Caller) (path callee : String) :
    (callersOf (callers.flatMap Caller.pairs) callee).count path
      = callCount callers path callee := by
  rw [count_callersOf]
  unfold callCount
  induction callers with
  | nil => rfl
  | cons c callers ih =>
    rw [List.flatMap_cons, List.count_append, ih, count_pairs, List.filter_cons]
    split <;> simp

theorem callees_flatMap_pairs (callers : List Caller) :
    (callers.flatMap Caller.pairs).map (·.2) = callers.flatMap (·.callees) := by
  rw [List.map_flatMap]
  apply congrArg (callers.flatMap ·)
  funext c
  simp [Caller.pairs, Function.comp_def]

/-! ## Reading the calls -/

theorem callsOf_texts {item : Value} {c : Caller}
    (h : item.itemsOf "calls" = .ok (c.callees.map .str)) :
    callsOf (.str c.path) item = .ok (c.pairs.map Call.ofPair) := by
  unfold callsOf
  rw [h, Caller.pairs, List.map_map]
  apply mapM_map_eq_ok
  intro k
  rfl

/-- What can be read of each item can be read of all. -/
theorem mapM_of_listsUnder {β γ : Type} {v : Value} {name : String} {R : Value → β → Prop}
    {bs : List β} {f : Value → Answer γ} {g : β → γ} (h : ListsUnder v name R bs)
    (hf : ∀ item b, R item b → f item = .ok (g b)) :
    ∃ items, v.itemsOf name = .ok items ∧ items.mapM f = .ok (bs.map g) := by
  obtain ⟨items, hitems, hall⟩ := h
  refine ⟨items, hitems, mapM_eq_ok.mpr ?_⟩
  rw [List.forall₂_map_right_iff]
  exact hall.imp hf

theorem functionCalls_of_isFunctionOf {item : Value} {c : Caller} (h : IsFunctionOf item c) :
    functionCalls item = .ok (c.pairs.map Call.ofPair) := by
  unfold functionCalls
  rw [h.path]
  exact callsOf_texts h.calls

theorem methodCalls_of_isMethodOf {cls item : Value} {c : Caller} (h : IsMethodOf cls item c) :
    methodCalls cls item = .ok (c.pairs.map Call.ofPair) := by
  unfold methodCalls
  rw [h.path]
  exact callsOf_texts h.calls

/-- The calls of several callers. -/
def callsOfAll (callers : List Caller) : List Call :=
  callers.flatMap fun c => c.pairs.map Call.ofPair

theorem callsOfAll_eq (callers : List Caller) :
    callsOfAll callers = (callers.flatMap Caller.pairs).map Call.ofPair :=
  List.map_flatMap.symm

theorem callsOfAll_append (callers more : List Caller) :
    callsOfAll (callers ++ more) = callsOfAll callers ++ callsOfAll more :=
  List.flatMap_append

theorem callsOfAll_flatten (classes : List (List Caller)) :
    callsOfAll classes.flatten = (classes.map callsOfAll).flatten := by
  induction classes with
  | nil => rfl
  | cons methods classes ih => rw [List.flatten_cons, callsOfAll_append, ih]; rfl

theorem classCalls_of_isClassOf {cls : Value} {methods : List Caller} (h : IsClassOf cls methods) :
    classCalls cls = .ok (callsOfAll methods) := by
  obtain ⟨items, hitems, hcalls⟩ :=
    mapM_of_listsUnder h fun _ _ hm => methodCalls_of_isMethodOf hm
  unfold classCalls
  simp only [hitems, hcalls, bind, Except.bind]
  rfl

/-- The calls of a project are those of its callers. -/
theorem allCalls_of_listsCallers {data : Value} {callers : List Caller}
    (h : ListsCallers data callers) : allCalls data = .ok (callsOfAll callers) := by
  obtain ⟨functions, endpoints, classes, hfunctions, hendpoints, hclasses, rfl⟩ := h
  obtain ⟨_, hitems, hcalls⟩ :=
    mapM_of_listsUnder hfunctions fun _ _ hf => functionCalls_of_isFunctionOf hf
  obtain ⟨_, hitems', hcalls'⟩ :=
    mapM_of_listsUnder hendpoints fun _ _ hf => functionCalls_of_isFunctionOf hf
  obtain ⟨_, hitems'', hcalls''⟩ :=
    mapM_of_listsUnder hclasses fun _ _ hc => classCalls_of_isClassOf hc
  unfold allCalls
  simp only [hitems, hcalls, hitems', hcalls', hitems'', hcalls'', bind, Except.bind]
  rw [callsOfAll_append, callsOfAll_append, callsOfAll_flatten]
  rfl

/-! ## Grouping -/

/-- A group of the call map as data. -/
def groupData (g : String × List String) : Value × List Value := (.str g.1, g.2.map .str)

/-- The groups of some callees, each with its callers. -/
def groupsOf (callees : List String) (callers : String → List String) :
    List (String × List String) :=
  callees.map fun k => (k, callers k)

theorem addCall_cons (k : String) (callers : List String) (rest : List (Value × List Value))
    (p : CallPair) :
    addCall (groupData (k, callers) :: rest) (.ofPair p) = if k = p.2 then
      groupData (k, callers ++ [p.1]) :: rest
      else groupData (k, callers) :: addCall rest (.ofPair p) := by
  simp [addCall, groupData, Call.ofPair]

/-- A call goes to the group of its callee, and opens one at the end if there is none. -/
theorem addCall_groupsOf {callees : List String} (hnodup : callees.Nodup)
    (callers : String → List String) (p : CallPair) :
    addCall ((groupsOf callees callers).map groupData) (.ofPair p)
      = (groupsOf callees fun k => callers k ++ if k = p.2 then [p.1] else []).map groupData
        ++ if p.2 ∈ callees then [] else [groupData (p.2, [p.1])] := by
  unfold groupsOf
  induction callees with
  | nil => rfl
  | cons k ks ih =>
    obtain ⟨hk, hks⟩ := List.nodup_cons.mp hnodup
    rw [List.map_cons, List.map_cons, addCall_cons, ih hks]
    split
    · rename_i heq
      subst heq
      -- the callee has no second group
      have hrest : ks.map (fun k => (k, callers k ++ if k = p.2 then [p.1] else []))
          = ks.map fun k => (k, callers k) := by
        apply List.map_congr_left
        intro k hmem
        have hne : k ≠ p.2 := fun heq => hk (heq ▸ hmem)
        rw [if_neg hne, List.append_nil]
      simp [hrest]
    · rename_i hne
      simp [hne, Ne.symm hne]

theorem callersOf_concat (pairs : List CallPair) (p : CallPair) (callee : String) :
    callersOf (pairs ++ [p]) callee
      = callersOf pairs callee ++ if callee = p.2 then [p.1] else [] := by
  by_cases h : callee = p.2
  · simp [callersOf, h]
  · simp [callersOf, h, Ne.symm h]

theorem callersOf_eq_nil_iff {pairs : List CallPair} {callee : String} :
    callersOf pairs callee = [] ↔ callee ∉ pairs.map (·.2) := by
  simp only [callersOf, List.map_eq_nil_iff, List.filter_eq_nil_iff, beq_iff_eq, List.mem_map,
    not_exists, not_and]

/-- Grouping all calls: the callees in the order of their first calls, each with its callers. -/
theorem foldl_addCall (pairs : List CallPair) :
    (pairs.map Call.ofPair).foldl addCall []
      = (groupsOf (pairs.map (·.2)).eraseDups (callersOf pairs)).map groupData := by
  induction pairs using List.reverseRecOn with
  | nil => rfl
  | append_singleton pairs p ih =>
    have hcallers : callersOf (pairs ++ [p])
        = fun k => callersOf pairs k ++ if k = p.2 then [p.1] else [] :=
      funext fun k => callersOf_concat pairs p k
    rw [List.map_append, List.foldl_append, ih, List.map_append, List.map_singleton,
      List.map_singleton, List.foldl_cons, List.foldl_nil,
      addCall_groupsOf (Text.nodup_eraseDups _), Text.eraseDups_concat, hcallers]
    simp only [List.mem_eraseDups]
    split
    · rw [List.append_nil, List.append_nil]
    · rename_i hnew
      simp [groupsOf, callersOf_eq_nil_iff.mpr hnew]

/-! ## The call map -/

/-- The inverse of the calls of some callers: all callees in increasing order, each with its
    callers in increasing order. -/
def inverse (callers : List Caller) : List (String × List String) :=
  groupsOf (Text.sortedDistinct (callers.flatMap (·.callees)))
    fun k => Text.sorted (callersOf (callers.flatMap Caller.pairs) k)

theorem sortedBy_groupData (groups : List (String × List String)) :
    Value.sortedBy (·.1) (groups.map groupData)
      = .ok ((groups.mergeSort (Text.textLe Prod.fst)).map groupData) := by
  have htexts : ∀ g ∈ groups.map groupData, g.1 = .str (g.1.text?.getD "") := by
    intro g hg
    obtain ⟨g, -, rfl⟩ := List.mem_map.mp hg
    rfl
  rw [Value.sortedBy_texts htexts]
  congr 1
  symm
  apply List.map_mergeSort
  intro g _ h _
  rfl

theorem mergeSort_groupsOf (callees : List String) (callers : String → List String) :
    (groupsOf callees callers).mergeSort (Text.textLe Prod.fst)
      = groupsOf (Text.sorted callees) callers := by
  symm
  apply List.map_mergeSort
  intro k _ k' _
  rfl

theorem mapM_sorted (callees : List String) (callers : String → List String) :
    ((groupsOf callees callers).map groupData).mapM (fun (k, cs) => do return (k, ← Value.sorted cs))
      = .ok ((groupsOf callees fun k => Text.sorted (callers k)).map groupData) := by
  simp only [groupsOf, List.map_map]
  apply mapM_map_eq_ok
  intro k
  simp only [Function.comp_apply, groupData, Value.sorted_texts]
  rfl

/-- The call map of data is the inverse of what its callers call. -/
theorem calledBy_eq {data : Value} {callers : List Caller} (h : ListsCallers data callers) :
    calledBy data = .ok ((inverse callers).map groupData) := by
  unfold calledBy
  rw [allCalls_of_listsCallers h, callsOfAll_eq]
  simp only [bind, Except.bind, foldl_addCall, sortedBy_groupData, mergeSort_groupsOf]
  rw [callees_flatMap_pairs]
  exact mapM_sorted _ _

theorem keys_groupsOf (callees : List String) (callers : String → List String) :
    (groupsOf callees callers).map (·.1) = callees := by
  simp [groupsOf, Function.comp_def]

theorem lookup_groupsOf (callees : List String) (callers : String → List String) (k : String) :
    (groupsOf callees callers).lookup k = if k ∈ callees then some (callers k) else none := by
  unfold groupsOf
  induction callees with
  | nil => rfl
  | cons c callees ih =>
    rw [List.map_cons, List.lookup_cons, ih]
    by_cases h : k = c
    · simp [h]
    · simp [h, beq_false_of_ne h]

/-- Each group of the inverse has callers, in increasing order. -/
theorem group_of_mem_inverse {callers : List Caller} {g : String × List String}
    (h : g ∈ inverse callers) : g.2 ≠ [] ∧ g.2.Pairwise (· ≤ ·) := by
  obtain ⟨k, hk, rfl⟩ := List.mem_map.mp h
  rw [Text.mem_sortedDistinct, ← callees_flatMap_pairs] at hk
  refine ⟨fun hnil => ?_, Text.pairwise_sorted _⟩
  exact callersOf_eq_nil_iff.mp (List.perm_nil.mp (hnil ▸ (Text.perm_sorted _).symm)) hk

theorem count_inverse (callers : List Caller) (path callee : String) :
    (((inverse callers).lookup callee).getD []).count path = callCount callers path callee := by
  rw [inverse, lookup_groupsOf, ← count_callersOf_flatMap]
  split
  · exact (Text.perm_sorted _).count_eq path
  · rename_i hnew
    rw [Text.mem_sortedDistinct, ← callees_flatMap_pairs] at hnew
    rw [callersOf_eq_nil_iff.mpr hnew]
    rfl

end Docsmith.Report
